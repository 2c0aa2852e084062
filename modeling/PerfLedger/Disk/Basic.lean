import PerfLedger.Disk.Path

/-!
The disk as programs see it. What a program does to files is written once, as a sequence of
these operations, and runs on any disk: on that of the machine, or on a tree of files in
memory.
-/

namespace PerfLedger

/-- Why an operation fails: there is nothing at the path, nothing can be there because a zero
character would end the path early, or anything else.
-/
inductive DiskFault where
  | missing
  | unnamable
  | refused
  deriving DecidableEq, Repr, Inhabited

/-- What is told of a fault besides the path. -/
def DiskFault.remark? : DiskFault → Option String
  | unnamable => some "file name contained an unexpected NUL byte"
  | _ => none

/-- The operations of a disk. A temporary file has no name that others know, until it is moved
to its target in one step; `createTemporary` never takes the name of the target itself.
`fullPath` puts the working directory in front of a path that does not start at the root.
-/
class Disk (m : Type → Type) where
  Temporary : Type
  pathOf : Temporary → String
  fullPath (path : String) : m String
  readFile (path : String) : m (Except DiskFault ByteArray)
  isPresent (path : String) : m Bool
  isFile (path : String) : m Bool
  findUpward (name : String) : m (Option String)
  makeDirectories (path : String) : m (Except DiskFault Unit)
  createTemporary (directory target : String) : m (Except DiskFault Temporary)
  setMode (temporary : Temporary) (mode : Nat) : m (Except DiskFault Unit)
  write (temporary : Temporary) (bytes : ByteArray) : m (Except DiskFault Unit)
  sync (temporary : Temporary) : m (Except DiskFault Unit)
  moveTo (temporary : Temporary) (target : String) : m (Except DiskFault Unit)
  discard (temporary : Temporary) : m Unit

/-- The text of some bytes. Bytes that are not UTF-8 are refused. -/
def decodeText (bytes : ByteArray) : Except DiskFault String :=
  match String.fromUTF8? bytes with
  | some text => .ok text
  | none => .error .refused

/-- Reads the text of a file. -/
def readText {m : Type → Type} [Monad m] [Disk m] (path : String)
    : m (Except DiskFault String) :=
  return (← Disk.readFile path) >>= decodeText

end PerfLedger
