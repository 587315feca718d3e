import CompileFlags.Locate
import CompileFlags.Value.Mapping

/-!
# Settings

Settings are values by name. Four names are known, and each has a default; any other name may be
set too. Where the settings are kept follows from the home directory.
-/

namespace CompileFlags

/-- The values of settings by name. -/
abbrev SettingValues := List (Text × Value)

namespace SettingValues

/-- The known settings and their defaults: the file name of a database, whether a file without an
entry gets the flags of its directory, the databases of registered projects by their roots, and the
log file, where an empty name stands for the usual place. -/
def defaults : SettingValues := [
  ("database_name", .text databaseName),
  ("fallback", .bool true),
  ("projects", .map []),
  ("log_file", .text "")]

/-- The settings of a document that can be used: a known one has to be of its default's kind. -/
def valid (entries : List (Scalar × Value)) : SettingValues :=
  entries.filterMap fun (key, value) =>
    match key with
    | .text name =>
      match OrderedMap.get? name defaults with
      | none => some (name, value)
      | some usual => if usual.kind = value.kind then some (name, value) else none
    | _ => none

/-- The settings of a document: the defaults, unless it says otherwise. -/
def ofDocument : Value → SettingValues
  | .map entries => OrderedMap.putAll (valid entries) defaults
  | _ => defaults

/-- The value of a setting; `null` if it has none. -/
def get (values : SettingValues) (name : Text) : Value :=
  (OrderedMap.get? name values).getD .null

/-- All settings as one document. -/
def toDocument (values : SettingValues) : Value :=
  .map (values.map fun (name, value) => (.text name, value))

/-- The registered projects as a map. -/
def projects (values : SettingValues) : Except Fault (List (Scalar × Value)) :=
  match (values.get "projects").toMapping with
  | .ok entries => .ok entries
  | .error fault => .error (.notMapping fault)

end SettingValues

/-- Settings, and the directory that they are kept in. -/
structure Settings where
  directory : Text
  values : SettingValues

namespace Settings

/-- The file that settings are kept in. -/
def file (s : Settings) : Text := Path.join s.directory "config.json"

/-- The directory that settings are kept in. -/
def directoryIn (env : Env) : Except Fault Text :=
  (Path.expandTidy env "~").map fun home => Path.tidy (Path.join home ".cdbflags")

/-- The file that queries are logged to: the one that is set, with its home directory resolved, or
one beside the settings. -/
def logPath (env : Env) (s : Settings) : Except Fault Text :=
  let setting := s.values.get "log_file"
  if setting.isTrue then
    match setting with
    | .text path => Path.expandTidy env path
    | other => .error (.notPath other.kind)
  else .ok (Path.join s.directory "cdbflags.log")

end Settings

end CompileFlags
