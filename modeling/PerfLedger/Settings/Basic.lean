import PerfLedger.Detection.Policy
import PerfLedger.Disk.Basic
import PerfLedger.Settings.Environment
import PerfLedger.Toml.Document

/-!
Settings of the commands. They come from a configuration file and from the environment, which
wins; a file of variables extends the environment first. What no source sets keeps its
built-in value.
-/

namespace PerfLedger

-----------------------------------------------------------------------------------------
-- Policies
-----------------------------------------------------------------------------------------

/-- A setting that may be unset. -/
def Setting.optional? {α : Type} (convert? : Setting → Option α)
    : Setting → Option (Option α)
  | .unset => some none
  | value => (convert? value).map some

/-- A polarity given as a setting: its name in any case of letters, or a table with that name
as the only member.
-/
def Polarity.ofSetting? : Setting → Option Polarity
  | .text name => ofName? (lowerText name)
  | .table [(name, _)] => ofName? (lowerText name)
  | _ => none

/-- A table of polarities given as a setting. -/
def PolarityTable.ofSetting? : Setting → Option PolarityTable
  | .table members =>
      members.foldlM
        (fun table (name, value) =>
          (Polarity.ofSetting? value).map fun polarity => insertSorted name polarity table) []
  | _ => none

namespace Policy

/-- A policy with one field set. Fields that a policy does not have are ignored. -/
def setField? (p : Policy) (field : String) (value : Setting) : Option Policy :=
  match field with
  | "window_size" => value.toCount?.map fun windowSize => { p with windowSize }
  | "threshold_ratio" => value.toDouble?.map fun thresholdRatio => { p with thresholdRatio }
  | "min_samples" => value.toCount?.map fun minSamples => { p with minSamples }
  | "fail_ratio" =>
      (value.optional? Setting.toDouble?).map fun failRatio => { p with failRatio }
  | "polarity_overrides" =>
      (PolarityTable.ofSetting? value).map fun overrides => { p with overrides }
  | "unit_polarity" =>
      (PolarityTable.ofSetting? value).map fun unitPolarity => { p with unitPolarity }
  | "tool_polarity" =>
      (PolarityTable.ofSetting? value).map fun toolPolarity => { p with toolPolarity }
  | _ => some p

/-- The policy given as a setting: a table of fields, or a list of them in their order. What is
not given stays as in the standard policy.
-/
def ofSetting? : Setting → Option Policy
  | .table members =>
      members.foldlM (fun p (field, value) => p.setField? field value) standard
  | .list items =>
      (shape.fields.zip items).foldlM
        (fun p (field, value) => p.setField? field value) standard
  | _ => none

end Policy

-----------------------------------------------------------------------------------------
-- Settings
-----------------------------------------------------------------------------------------

/-- The settings of a run. -/
structure Settings where
  dataFile : Option String
  repoUrl : Option String
  policy : Policy
  deriving DecidableEq, Inhabited

/-- Why there are no settings. -/
inductive SettingsError where
  | badVariableFile
  | badSource
  | badValue
  | badPolicy (cause : PolicyError)
  deriving DecidableEq, Inhabited

/-- The wording of settings that cannot be had. -/
def SettingsError.message : SettingsError → String
  | badVariableFile => "failed to load .env"
  | badSource => "failed to read configuration"
  | badValue => "invalid configuration"
  | badPolicy cause => "invalid detector configuration: " ++ cause.message

namespace Settings

/-- The built-in settings. -/
def standard : Settings := { dataFile := none, repoUrl := none, policy := .standard }

/-- Settings with one field set. Fields that settings do not have are ignored. -/
def setField? (s : Settings) (field : String) (value : Setting) : Option Settings :=
  match field with
  | "data_file" => (value.optional? Setting.toText?).map fun dataFile => { s with dataFile }
  | "repo_url" => (value.optional? Setting.toText?).map fun repoUrl => { s with repoUrl }
  | "detector" => (Policy.ofSetting? value).map fun policy => { s with policy }
  | _ => some s

/-- The settings in a table. -/
def ofTable? (table : SettingTable) : Option Settings :=
  table.foldlM (fun s (field, value) => s.setField? field value) standard

/-- The settings of a configuration file and an environment, as far as they can be used. -/
def ofSources (file : SettingTable) (environment : Environment)
    : Except SettingsError Settings :=
  match ofTable? (Setting.layer (Setting.layer [] file) environment.settings) with
  | none => .error .badValue
  | some s =>
      match s.policy.validate with
      | .ok _ => .ok s
      | .error cause => .error (.badPolicy cause)

-----------------------------------------------------------------------------------------
-- Files
-----------------------------------------------------------------------------------------

/-- The file of variables, looked for in the working directory and above it. -/
def variableFile : String := ".env"

/-- The configuration file that is read when none is named. -/
def defaultFile : String := "benchwatch.toml"

/-- How the name of a configuration file ends. The ending may be left out of a given name. -/
def fileEnding : String := ".toml"

variable {m : Type → Type} [Monad m] [Disk m]

/-- The environment extended by the file of variables, if there is one. -/
def extendEnvironment (environment : Environment) : ExceptT SettingsError m Environment := do
  match ← (Disk.findUpward variableFile : m _) with
  | none => return environment
  | some path =>
      match ← (readText path : m _) with
      | .error _ => throw .badVariableFile
      | .ok text =>
          match environment.extend? text with
          | some environment => return environment
          | none => throw .badVariableFile

/-- The path of a configuration file, if there is one of that name. It is looked for by its
full path.
-/
def locate? (name : String) : m (Option String) := do
  let path ← Disk.fullPath name
  if ← Disk.isFile path then return some path
  match Path.withEnding? path fileEnding with
  | none => return none
  | some path => if ← Disk.isFile path then return some path else return none

/-- The text of a configuration file, if it is one and can be read. TOML is the only format here:
the other formats that a configuration file may have by its ending (JSON, YAML, INI and more) are
left out, and a file with such an ending counts as one that cannot be read.
-/
def fileText? (path : String) : m (Option String) := do
  match ← locate? path with
  | none => return none
  | some path =>
      if !Path.hasEnding path fileEnding then return none
      return (← readText path).toOption

/-- The settings in a configuration file. One that is named has to be there and readable. Files
of other formats than TOML are left out, as said of their text.
-/
def readFile (named : Option String) : ExceptT SettingsError m SettingTable := do
  match ← (fileText? (named.getD defaultFile) : m _) with
  | none => if named.isSome then throw .badSource else return []
  | some text =>
      match Toml.parse? text with
      | some table => return table
      | none => throw .badSource

/-- The settings of a run with the given environment and configuration file. -/
def load (named : Option String) (environment : Environment)
    : ExceptT SettingsError m Settings := do
  let environment ← extendEnvironment environment
  let file ← readFile named
  match ofSources file environment with
  | .ok s => return s
  | .error error => throw error

end Settings

end PerfLedger
