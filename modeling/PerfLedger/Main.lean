import PerfLedger.Command.Execution

/-! The program on the disk of the machine. -/

namespace PerfLedger.Machine

/-- A temporary file that is being written. -/
structure OpenFile where
  path : String
  handle : IO.FS.Handle

/-- The result of an action, its errors as faults. -/
def attempt {α : Type} (action : IO α) : IO (Except DiskFault α) :=
  tryCatch (Except.ok <$> action) fun
    | .noFileOrDirectory .. => return .error .missing
    | _ => return .error .refused

/-- Whether an action finds its file, which it may not be allowed to use. -/
def finds {α : Type} (action : IO α) : IO Bool :=
  tryCatch (do let _ ← action; return true) fun
    | .permissionDenied .. => return true
    | _ => return false

/-- Access rights of three permission bits. -/
def accessRights (bits : Nat) : IO.AccessRight where
  read := bits / 4 % 2 = 1
  write := bits / 2 % 2 = 1
  execution := bits % 2 = 1

/-- Access rights of permission bits. -/
def fileRights (mode : Nat) : IO.FileRight where
  user := accessRights (mode / 64)
  group := accessRights (mode / 8)
  other := accessRights mode

/-- The file of a name in the working directory, or in one above it. -/
def findAbove : (levels : Nat) → (path : String) → IO (Option String)
  | 0, _ => return none
  | levels + 1, path => do
      if ← finds (IO.FS.readBinFile path) then return some path
      else findAbove levels ("../" ++ path)

/-- A new file with a name that nobody else has chosen. -/
def openNew
    : (attempts : Nat) → (directory target : String) → IO (Except DiskFault OpenFile)
  | 0, _, _ => return .error .refused
  | attempts + 1, directory, target => do
      let number ← IO.rand 0 (10 ^ 9)
      let path := directory ++ "/.tmp" ++ toString number
      if path = target then openNew attempts directory target
      else
        match ← attempt (IO.FS.Handle.mk path .writeNew) with
        | .ok handle => return .ok ⟨path, handle⟩
        | .error .refused => openNew attempts directory target
        | .error fault => return .error fault

instance : Disk IO where
  Temporary := OpenFile
  pathOf file := file.path
  fullPath path :=
    if Path.isAbsolute path then return path
    else return toString (← IO.currentDir) ++ "/" ++ path
  readFile path := attempt (IO.FS.readBinFile path)
  isPresent path := finds (IO.FS.Handle.mk path .read)
  isFile path := finds (IO.FS.readBinFile path)
  findUpward name := do
    let levels := ((toString (← IO.currentDir)).toList.filter (· == '/')).length
    findAbove (levels + 1) name
  makeDirectories path := attempt (IO.FS.createDirAll path)
  createTemporary := openNew 100
  setMode file mode := attempt (IO.setAccessRights file.path (fileRights mode))
  write file bytes := attempt (file.handle.write bytes)
  sync file := attempt file.handle.flush
  moveTo file target := attempt (IO.FS.rename file.path target)
  discard file := do
    let _ ← attempt (IO.FS.removeFile file.path)

/-- The assignments of an environment block, in which a zero ends each of them. -/
def environmentOf (block : String) : Environment :=
  (block.toList.splitOn '\x00').filterMap fun assignment =>
    match assignment.dropWhile (· != '=') with
    | _ :: value =>
        some (String.ofList (assignment.takeWhile (· != '=')), String.ofList value)
    | [] => none

/-- The environment of the program. -/
def environment : IO Environment := do
  match ← (readText "/proc/self/environ" : IO _) with
  | .ok block => return environmentOf block
  | .error _ => return []

/-- Shows how a run ended and gives its exit status. -/
def conclude (ending : Ending) : IO UInt32 := do
  match ending with
  | .notUnderstood .versionWanted => IO.println versionText
  | .notUnderstood .helpWanted => IO.print usageText
  | .notUnderstood _ => IO.eprint usageText
  | .failed cause => IO.eprintln ("Error: " ++ cause.message)
  | .finished outcome => IO.print outcome.output
  return ending.exitCode.toUInt32

end PerfLedger.Machine

/-- Runs the program. -/
def main (arguments : List String) : IO UInt32 := do
  let environment ← PerfLedger.Machine.environment
  let colors := PerfLedger.Style.isWanted environment (← (← IO.getStdout).isTty)
  PerfLedger.Machine.conclude (← PerfLedger.run colors environment arguments)
