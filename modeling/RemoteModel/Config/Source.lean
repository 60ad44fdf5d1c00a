import RemoteModel.Config.Basic
import RemoteModel.Json.Reader

/-!
# Where a configuration comes from

A file in JSON gives sections with fields, and variables of the environment override single
fields. A file that cannot be read gives nothing; a variable that names no section does nothing.

**Variables.** The name of a variable is `MODELSERVER_`, the section, an underscore and the
field, in any case. The values of fields that hold texts are stripped of blanks; all others are
read as truth values, lists, numbers or, failing these, texts. The last variable for a field
counts.

**Home directories.** Whoever runs the program has the one that the environment names. If it names
none, that one and those of all other users are what the accounts of the system say, which may know
of none; they are a parameter.
-/

namespace RemoteModel.Config

/-- The names of the sections. -/
def sections : List String := ["server", "subscription", "logging", "output"]

/-- The fields that hold texts. -/
def textFields : List String :=
  ["base_url", "api_version", "default_format", "format", "level", "log_file"]

/-- A truth value, a list, a number or a text. -/
def coerce (s : String) : Json :=
  let word := Text.lower s
  if word = "true" then .bool true
  else if word = "false" then .bool false
  else if s.toList.contains ',' then
    .arr (((Text.split ',' s).map Text.strip).filter (· ≠ "") |>.map .str)
  else if s.toList.contains '.' then
    match Text.double? s with
    | some x => .float x
    | none => .str s
  else
    match Text.integer? s with
    | some n => .int n
    | none => .str s

/-- The value of a field by the text of its variable. -/
def fieldValue (field text : String) : Json :=
  if textFields.contains field then .str (Text.strip text) else coerce text

/-- How the names of variables begin. -/
def variablePrefix : String := "MODELSERVER_"

/-- The variable that names the configuration file; it is no field. -/
def fileVariable : String := "MODELSERVER_CONFIG_JSON"

/-- The section and the field that a variable names. -/
def target? (name : String) : Option (String × String) :=
  if name = fileVariable then none
  else
    (Text.after? variablePrefix.toList name.toList).bind fun rest =>
      (Text.cut? '_' (Text.lower (String.ofList rest)).toList).bind fun (sectionName, field) =>
        let sectionName := String.ofList sectionName
        if sections.contains sectionName then some (sectionName, String.ofList field) else none

/-- The sections of a file; everything that is no section is left out. -/
def fileSections (content : Option (List UInt8)) : Entries (Entries Json) :=
  match content.bind Text.Utf8.decode? with
  | none => []
  | some text =>
    match Json.read (String.ofList text) with
    | .ok (.obj members) =>
      members.filterMap fun (name, v) =>
        if sections.contains name then v.members?.map fun fields => (name, fields) else none
    | _ => []

/-- Overrides a field by a variable. -/
def override (found : Entries (Entries Json)) (setting : String × String) :
    Entries (Entries Json) :=
  match target? setting.1 with
  | some (sectionName, field) =>
    let fields := (found.get? sectionName).getD []
    found.insert sectionName (fields.insert field (fieldValue field setting.2))
  | none => found

/-- The fields by section that a file and an environment give. -/
def gather (content : Option (List UInt8)) (environment : Entries String) :
    Entries (Entries Json) :=
  environment.foldl override (fileSections content)

/-- The home directories by the names of users, given those of the accounts. The empty name is that
of whoever runs the program. -/
def homes (accounts : String → Option String) (environment : Entries String) (user : String) :
    Option String :=
  if user = "" then (environment.get? "HOME").or (accounts "") else accounts user

section

variable (accounts : String → Option String)

/-- A file name with the home directory that it begins with. -/
def expandName (environment : Entries String) (name : String) : Except Failure String :=
  match Text.PathName.expand? (homes accounts environment) name with
  | some name => .ok name
  | none => .error .noHome

/-- The configuration with the home directory in the name of the log file. -/
def expand (environment : Entries String) (c : Config) : Except Failure Config :=
  match c.logging.file with
  | none => .ok c
  | some name => (expandName accounts environment name).map fun name =>
      { c with logging := { c.logging with file := some name } }

/-- The configuration that a file, if there is one, and an environment give. -/
def load (content : Option (List UInt8)) (environment : Entries String) :
    Except Failure Config := do
  let found := gather content environment
  let c ← (check (.obj (found.map fun s => (s.1, .obj s.2)))).orFail
  expand accounts environment c

/-- The file name that a variable holds, or another one if it holds none. -/
def pathOf (name : String) (environment : Entries String) (fallback : String) :
    Except Failure String :=
  let text := Text.strip ((environment.get? name).getD "")
  expandName accounts environment (if text = "" then fallback else text)

/-- The name of the configuration file, unless another one is asked for. -/
def defaultFile (environment : Entries String) : Except Failure String := do
  let home ← expandName accounts environment "~"
  let folder ← pathOf accounts "XDG_CONFIG_HOME" environment (home ++ "/.config")
  pathOf accounts fileVariable environment (folder ++ "/modelserver/config.json")

end

end RemoteModel.Config
