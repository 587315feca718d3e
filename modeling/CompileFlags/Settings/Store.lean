import CompileFlags.Json.Reader
import CompileFlags.Json.Writer
import CompileFlags.Settings.Basic
import CompileFlags.Text.Blank

/-!
# Keeping settings

Settings are kept as a JSON document. Every change is written at once; a change stays in memory even
if it cannot be written, or only up to a value that no document can hold. A document that cannot be read
or is no JSON counts as empty.
-/

namespace CompileFlags

namespace Settings

/-- The settings in the bytes of a document. Bytes that are no text, numbers too large to read, and
brackets nested too deeply are faults; what is no JSON is not. -/
def decode (env : Env) (bytes : ByteArray) : Except Fault SettingValues :=
  match Text.decodeUtf8 bytes with
  | .error fault => .error (.undecodable fault)
  | .ok text =>
    match Json.parse env.readLevels (Text.unifyNewlines text) with
    | .ok document => .ok (.ofDocument document)
    | .error (.malformed _) => .ok .defaults
    | .error (.tooManyDigits count) => .error (.tooManyDigits count)
    | .error (.tooDeep bracket) => .error (.tooDeep bracket)

/-- The settings in a file. -/
def readFile (env : Env) (fs : FileSystem) (path : Text) : Except Fault SettingValues :=
  match fs.probe env.cwd path with
  | .error fault => .error (.access fault)
  | .ok none => .ok .defaults
  | .ok (some _) =>
    match fs.read env.cwd path with
    | .error _ => .ok .defaults
    | .ok bytes => decode env bytes

/-- Loads the settings of the home directory, where their directory is made if it is missing. Gives
the file system after it. -/
def load (env : Env) (fs : FileSystem) : Except Fault Settings × FileSystem :=
  match directoryIn env with
  | .error fault => (.error fault, fs)
  | .ok directory =>
    match fs.ensureDirectories env.cwd directory with
    | (fs, some fault) => (.error (.access fault), fs)
    | (fs, none) =>
      match readFile env fs (Path.join directory "config.json") with
      | .error fault => (.error fault, fs)
      | .ok values => (.ok ⟨directory, values⟩, fs)

/-- Settings and files after a change, with its result. -/
structure Change (α : Type) where
  settings : Settings
  files : FileSystem
  result : Except Fault α

/-- Writes the settings to their file. Where a value cannot be written, what comes before it is left in
the file. -/
def save (env : Env) (fs : FileSystem) (s : Settings) : Change Unit :=
  match fs.ensureDirectories env.cwd s.directory with
  | (fs, some fault) => ⟨s, fs, .error (.access fault)⟩
  | (fs, none) =>
    let draft := Json.render env.writeLevels s.values.toDocument
    match fs.write env.cwd s.file draft.bytes with
    | .error fault => ⟨s, fs, .error (.access fault)⟩
    | .ok fs => ⟨s, fs, draft.result.mapError .unwritable⟩

/-- Sets a value. -/
def set (env : Env) (fs : FileSystem) (s : Settings) (name : Text) (value : Value) :
    Change Unit :=
  save env fs { s with values := OrderedMap.put name value s.values }

/-- Registers a database for a project root. -/
def addProject (env : Env) (fs : FileSystem) (s : Settings) (root database : Text) :
    Change Unit :=
  match s.values.projects with
  | .error fault => ⟨s, fs, .error fault⟩
  | .ok projects =>
    s.set env fs "projects" (.map (OrderedMap.put (.text root) (.text database) projects))

/-- Forgets a project root, and says whether it was registered. -/
def removeProject (env : Env) (fs : FileSystem) (s : Settings) (root : Text) : Change Bool :=
  match s.values.projects with
  | .error fault => ⟨s, fs, .error fault⟩
  | .ok projects =>
    if OrderedMap.contains (.text root) projects then
      let change := s.set env fs "projects" (.map (OrderedMap.erase (.text root) projects))
      ⟨change.settings, change.files, change.result.map fun _ => true⟩
    else ⟨s, fs, .ok false⟩

end Settings

end CompileFlags
