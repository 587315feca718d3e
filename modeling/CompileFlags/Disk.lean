import CompileFlags.Cli.Run
import Std.Time.DateTime.Timestamp

/-!
# The disk

A run decides on values alone, so what it may look at on the disk is read beforehand, and what it
changed is written afterwards. This module holds the two steps, the users and the clock.
-/

namespace CompileFlags.Disk

/-- The place that a path of the disk leads to, behind all links. -/
def realLocation (p : String) : IO (Except IO.Error Location) := do
  match ← (IO.FS.realPath p).toBaseIO with
  | .ok real => return .ok (FileSystem.steps (Text.ofString (toString real)))
  | .error e => return .error e

/-- The path of a place. -/
def pathOf (loc : Location) : String := Text.display ("/" ++ Path.joinNames loc)

/-- Why the disk refuses something, if that is what an error says. -/
def refusalOf? : IO.Error → Option Refusal
  | .permissionDenied .. => some .permissionDenied
  | .hardwareFault .. => some .inputOutput
  | _ => none

/-- Notes that something is refused at a place. -/
def refuse (fs : FileSystem) (loc : Location) (request : Request) (e : IO.Error) : FileSystem :=
  match refusalOf? e with
  | some refusal => { fs with refusals := OrderedMap.put (loc, request) refusal fs.refusals }
  | none => fs

/-- Adds what the disk holds at a place that is no link: what is no file is a directory. -/
def addNode (fs : FileSystem) (loc : Location) : IO FileSystem := do
  match ← (IO.FS.readBinFile (pathOf loc)).toBaseIO with
  | .ok content => return fs.set loc (.file content)
  | .error e =>
    return if (refusalOf? e).isSome then refuse (fs.set loc (.file .empty)) loc .read e
      else fs.set loc .directory

/-- Adds the place that a real path names, and the directories above it. -/
def addPlace (fs : FileSystem) (loc : Location) : IO FileSystem := do
  let above := (List.range loc.length).map loc.take
  let fs := above.foldl (fun fs l => if l = [] then fs else fs.set l .directory) fs
  if loc = [] then return fs
  addNode fs loc

/-- Adds one name below a real directory, with the place behind it if it is a link. -/
def addName (fs : FileSystem) (directory : Location) (name : Text) : IO FileSystem := do
  let there := directory ++ [name]
  match ← realLocation (pathOf there) with
  | .error e => return refuse fs directory .search e
  | .ok real =>
    let fs ← addPlace fs real
    return if real = there then fs else fs.set there (.link (Text.ofString (pathOf real)))

/-- Adds all that is met on the way along a path of the disk. -/
def observe (cwd : CurrentDirectory) (fs : FileSystem) (p : Text) : IO FileSystem := do
  let names := FileSystem.steps (Path.join cwd.path p)
  (List.range names.length).foldlM (fun fs n => do
    match ← realLocation (pathOf (names.take n)), names[n]? with
    | .ok directory, some name =>
      if name = "" ∨ name = "." ∨ name = ".." then return fs else addName fs directory name
    | _, _ => return fs) fs

/-- The paths at which the search for a database may look. -/
def searched (env : Env) (values : SettingValues) (args : Cli.Arguments) : List Text :=
  match args.file with
  | none => []
  | some file =>
    let path := Path.absolute env (Path.expandHome env file)
    let start := Path.absolute env ((args.start.filter (· ≠ [])).getD path)
    let name := ((values.get "database_name").text?).getD databaseName
    let registered := values.registered.filterMap fun entry =>
      match Registration.ofEntry env entry with
      | .ok r => (r.database.text?).map (r.path env)
      | .error _ => none
    start :: (Path.ancestors start).map (Path.join · name) ++ registered

/-- Reads what a run may look at: the settings first, since they say where else. -/
def read (env : Env) (words : List Text) : IO FileSystem := do
  let .ok directory := Settings.directoryIn env | return .empty
  let fs ← observe env.cwd .empty env.cwd.path
  let fs ← observe env.cwd fs (Path.join directory "config.json")
  let (.ok settings, _) := Settings.load env fs | return fs
  let fs ←
    match settings.logPath env with
    | .ok path => observe env.cwd fs path
    | .error _ => pure fs
  match Cli.parse words with
  | .ok (.run args) => (searched env settings.values args).foldlM (observe env.cwd) fs
  | _ => return fs

/-- Writes a node to the disk. Of a file that only grew, the end is written. -/
def writeNode (before : FileSystem) (loc : Location) : Node → IO Unit
  | .directory => IO.FS.createDirAll (pathOf loc)
  | .link _ => pure ()
  | .file content => do
    match before.node? loc with
    | some (.file old) =>
      if content.extract 0 old.size = old then
        let handle ← IO.FS.Handle.mk (pathOf loc) .append
        handle.write (content.extract old.size content.size)
      else IO.FS.writeBinFile (pathOf loc) content
    | _ => IO.FS.writeBinFile (pathOf loc) content

/-- Writes to the disk what differs between two file systems. What cannot be written is told. -/
def write (before after : FileSystem) : IO Unit :=
  after.nodes.forM fun (loc, node) => do
    unless before.node? loc = some node do
      match ← (writeNode before loc node).toBaseIO with
      | .ok () => return
      | .error e => IO.eprintln (toString e)

/-- The home directories of the users that the disk knows, by their names. -/
def users : IO (List (Text × Text)) := do
  match ← (IO.FS.lines "/etc/passwd").toBaseIO with
  | .error _ => return []
  | .ok lines => return lines.toList.filterMap fun line =>
    match (Text.ofString line).splitOn (CodePoint.char ':') with
    | [name, _, _, _, _, home, _] => some (name, home)
    | _ => none

/-- The seconds since the epoch. -/
def clock : IO Float := do
  let now ← Std.Time.Timestamp.now
  return Float.ofScientific now.toNanosecondsSinceUnixEpoch.val.toNat true 9

end CompileFlags.Disk
