import CompileFlags.Database
import CompileFlags.SearchPath

/-!
# Directories and their flags

A file without an entry, such as a header, is parsed with the flags of a directory that holds it.
The directories known are those of the entries and those that the entries' flags search for headers.
The first flags seen for a directory stay. A file gets those of the nearest directory above it.
-/

namespace CompileFlags

/-- Options, and the directory that relative paths in them are taken from. -/
structure Flags where
  options : List Text
  base : Text
deriving DecidableEq, Repr, Inhabited

/-- The flags of an entry. -/
def Entry.flags (e : Entry) : Flags := ⟨e.options, e.base⟩

/-- The directories, with a slash at the end, that flags search for headers. -/
def Flags.searchDirectories (env : Env) (flags : Flags) : List Text :=
  (SearchPath.directories flags.options).map fun p =>
    Path.asDirectory (Path.expand env p flags.base)

/-- Why the directories that flags search for headers cannot be told. -/
def Flags.searchFault? (env : Env) (flags : Flags) : Option Fault :=
  Path.firstFault? env flags.base (SearchPath.directories flags.options)

/-- Directories with their flags, in the order in which they were added. -/
structure DirectoryMap where
  entries : List (Text × Flags)
deriving DecidableEq, Repr, Inhabited

namespace DirectoryMap

/-- No directories. -/
def empty : DirectoryMap := ⟨[]⟩

/-- Whether a directory is known. -/
def contains (m : DirectoryMap) (directory : Text) : Bool :=
  OrderedMap.contains directory m.entries

/-- Adds a directory, unless it is known. -/
def add (m : DirectoryMap) (directory : Text) (flags : Flags) : DirectoryMap :=
  if m.contains directory then m else ⟨m.entries ++ [(directory, flags)]⟩

/-- Adds every directory that the flags of the known directories search for headers. It shares the
flags of the first directory that names it. -/
def addSearchPaths (env : Env) (m : DirectoryMap) : DirectoryMap :=
  m.entries.foldl
    (fun m entry => (entry.2.searchDirectories env).foldl (fun m d => m.add d entry.2) m) m

/-- The first reason for which a search of the flags of the known directories ends early. -/
def searchFault? (env : Env) (m : DirectoryMap) : Option Fault :=
  m.entries.findSome? (·.2.searchFault? env)

/-- The directories of the entries of a database, without the search directories. -/
def ofEntries (entries : List Entry) : DirectoryMap :=
  entries.foldl (fun m e => m.add (Path.asDirectory (Path.parent e.file)) e.flags) empty

/-- All directories that a database knows flags for. -/
def ofDatabase (env : Env) (db : Database) : DirectoryMap :=
  (ofEntries db.entries).addSearchPaths env

/-- The directories that a database knows flags for, unless one that is searched cannot be resolved. -/
def build (env : Env) (db : Database) : Except Fault DirectoryMap :=
  match (ofEntries db.entries).searchFault? env with
  | some fault => .error fault
  | none => .ok (ofDatabase env db)

/-- The nearest known directory above a file, with its flags. -/
def nearest? (m : DirectoryMap) (file : Text) : Option (Text × Flags) :=
  Path.nearest? Prod.fst file m.entries

end DirectoryMap

namespace Database

/-- The nearest directory above a file that a database knows flags for. -/
def nearest? (env : Env) (db : Database) (file : Text) : Option (Text × Flags) :=
  (DirectoryMap.ofDatabase env db).nearest? file

/-- The nearest directory above a file, unless the directories of the database cannot be told. -/
def nearest (env : Env) (db : Database) (file : Text) : Except Fault (Option (Text × Flags)) :=
  (DirectoryMap.build env db).map (·.nearest? file)

end Database

end CompileFlags
