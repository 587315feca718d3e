import CompileFlags.Fault
import CompileFlags.FileSystem.Access

/-!
# Finding the database of a file

A database may be registered for a project root; then it serves every file below that root, and of
nested roots the innermost one decides. Other files are served by the nearest directory above them
that holds a database.
-/

namespace CompileFlags

/-- The usual file name of a database. -/
def databaseName : Text := "compile_commands.json"

/-- Where the search for a database begins: the path itself if it is a directory, else its parent.
-/
def searchDirectory (env : Env) (fs : FileSystem) (start : Text) : Text :=
  let current := Path.absolute env start
  if fs.isDirectory env.cwd current then current else Path.parent current

/-- The nearest database of a given name at or above a path. -/
def findDatabase? (env : Env) (fs : FileSystem) (start name : Text) : Option Text :=
  (((Path.ancestors (searchDirectory env fs start)).map (Path.join · name)).find?
    (fs.isFile env.cwd)).map Path.tidy

/-- A registered project: its root, in normal form with a slash at the end, and what is registered
as its database. -/
structure Registration where
  root : Text
  database : Value

/-- Reads a registration. Its root has to be a path, and one that can be located. -/
def Registration.ofEntry (env : Env) (entry : Scalar × Value) : Except Fault Registration :=
  match entry.1 with
  | .text root => (Path.ofUser env root).map fun root => ⟨Path.asDirectory root, entry.2⟩
  | key => .error (.notPath (Value.scalar key).kind)

/-- The path of the database of a registration. -/
def Registration.path (env : Env) (r : Registration) (database : Text) : Text :=
  Path.tidy (Path.join r.root (Path.expandHome env database))

/-- The database of a registration, if it is a file. -/
def Registration.file? (env : Env) (fs : FileSystem) (r : Registration) :
    Except Fault (Option Text) :=
  match r.database with
  | .null => .ok none
  | .text database =>
    match Path.homeFault? database, fs.probe env.cwd (r.path env database) with
    | some fault, _ => .error (.access fault)
    | none, .error fault => .error (.access fault)
    | none, .ok (some (.file _)) => .ok (some (r.path env database))
    | none, .ok _ => .ok none
  | other => .error (.notPath other.kind)

/-- The database that is registered for a file. A registration whose database is missing counts for
nothing, and gives no way to an outer root. -/
def registeredDatabase (env : Env) (fs : FileSystem) (file : Text)
    (projects : List (Scalar × Value)) : Except Fault (Option Text) :=
  match projects.mapM (Registration.ofEntry env) with
  | .error fault => .error fault
  | .ok registrations =>
    match Path.nearest? Registration.root file registrations with
    | none => .ok none
    | some r => r.file? env fs

/-- Where the search for a database starts: as asked for, else at the file, else in the current
directory. An empty path counts as none. -/
def searchStart (file start : Option Text) : Text :=
  match start.filter (· ≠ []), file.filter (· ≠ []) with
  | some start, _ => start
  | none, some file => file
  | none, none => "."

/-- The database registered for a file. Where projects are registered there has to be a file. -/
def registeredFor (env : Env) (fs : FileSystem) (file : Option Text)
    (projects : List (Scalar × Value)) : Except Fault (Option Text) :=
  if projects.isEmpty then .ok none
  else
    match file with
    | some file =>
      match Path.locate env file with
      | .error fault => .error fault
      | .ok path => registeredDatabase env fs path projects
    | none => .error (.notPath Value.null.kind)

/-- The database of a file: the registered one, or else the nearest one from where the search
starts. The file name of a database has to be a text as soon as it is looked for. -/
def locateDatabase (env : Env) (fs : FileSystem) (file start : Option Text)
    (projects : List (Scalar × Value)) (name : Value) : Except Fault (Option Text) :=
  match registeredFor env fs file projects with
  | .error fault => .error fault
  | .ok (some path) => .ok (some path)
  | .ok none =>
    if Path.isLocatable env (searchStart file start) then
      match name with
      | .text name => .ok (findDatabase? env fs (searchStart file start) name)
      | other => .error (.notName other.kind)
    else .error .noCurrentDirectory

end CompileFlags
