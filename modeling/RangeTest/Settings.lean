import RangeTest.Log.Reader
import RangeTest.Toml.Document
import RangeTest.Workspace

namespace RangeTest

structure Settings where
  log : LogSettings
  /-- The bytes that the length field takes in frames of variable length. -/
  lengthFieldBytes : UInt32
  deriving DecidableEq, Repr

def Settings.default : Settings where
  log := .default
  lengthFieldBytes := 1

inductive SettingsError where
  | unreadable (cause : IoError)
  | invalid
  | emptyTag
  deriving DecidableEq, Repr

/-- The text of a fault of the file ends where the fault would be described. -/
def SettingsError.message : SettingsError → String
  | unreadable cause => s!"Failed to read config file: {cause.message}"
  | invalid => "Failed to parse config file: "
  | emptyTag => "parser.tag must not be empty"

def Toml.asString? : Toml → Option String
  | .string text => some text
  | _ => none

def Toml.asBoolean? : Toml → Option Bool
  | .boolean b => some b
  | _ => none

def Toml.asUnsigned? : Toml → Option UInt32
  | .integer n => if 0 ≤ n ∧ n < UInt32.size then some (UInt32.ofNat n.toNat) else none
  | _ => none

/-- Gives names to the members of a section. A table names them itself, an array lists them in
order; items beyond the last name do not count. -/
def Toml.members? (names : List String) : Toml → Option (List (String × Toml))
  | .table entries => some entries
  | .array items => some (names.zip items)
  | _ => none

def LogSettings.set (s : LogSettings) : String × Toml → Option LogSettings
  | ("tag", value) => value.asString?.map fun tag => { s with tag }
  | ("skip_malformed", value) => value.asBoolean?.map fun skipMalformed => { s with skipMalformed }
  | _ => none

def Settings.setExport (s : Settings) : String × Toml → Option Settings
  | ("length_field_bytes", value) =>
    value.asUnsigned?.map fun lengthFieldBytes => { s with lengthFieldBytes }
  | _ => none

/-- Sets one section. Names that mean nothing are refused everywhere. -/
def Settings.setSection (s : Settings) : String × Toml → Option Settings
  | ("parser", part) => do
    let members ← part.members? ["tag", "skip_malformed"]
    let log ← members.foldlM LogSettings.set s.log
    return { s with log }
  | ("export", part) => do
    let members ← part.members? ["length_field_bytes"]
    members.foldlM Settings.setExport s
  | _ => none

/-- Reads a file of settings. What it does not mention keeps its default. -/
def Settings.parse (content : String) : Except SettingsError Settings :=
  match (Toml.read? content).bind (·.foldlM setSection .default) with
  | none => .error .invalid
  | some settings => if settings.log.tag.isEmpty then .error .emptyTag else .ok settings

/-- The name of a file of settings that is used without being asked for. -/
def Settings.fileName : String := "ranger.toml"

/-- Where settings are looked for that belong to a receive log. -/
def Settings.pathBeside (rxLog : String) : String :=
  Path.beside rxLog fileName

def Settings.load (path : String) : Act Workspace SettingsError Settings := do
  let content ← Act.mapError .unreadable (Workspace.inspect (·.readText path))
  MonadExcept.ofExcept (parse content)

/-- The settings of a run. A file that is named has to exist; otherwise the file beside the receive
log is used where there is one, and the defaults where there is none. -/
def Settings.resolve (named : Option String) (rxLog : String) :
    Act Workspace SettingsError Settings := do
  let path := named.getD (pathBeside rxLog)
  if named.isSome || (← get).files.isFile path then
    Workspace.notify [.settingsLoading path]
    load path
  else
    Workspace.notify [.settingsAbsent path]
    return .default

end RangeTest
