import CompileFlags.Entry
import CompileFlags.Fault
import CompileFlags.FileSystem.Access
import CompileFlags.Json.Reader
import CompileFlags.Text.Blank

/-!
# Databases

A database is a JSON array of build commands. Each that is usable becomes an entry, in the order of
the array; the others are only counted.
-/

namespace CompileFlags

/-- The entries of a database file, and the number of build commands that are of no use. -/
structure Database where
  path : Text
  entries : List Entry
  dropped : Nat
deriving DecidableEq, Repr, Inhabited

namespace Database

/-- The database of an array of build commands. -/
def ofItems (env : Env) (path : Text) (items : List Value) : Database where
  path
  entries := items.filterMap (Entry.ofValue? env)
  dropped := items.countP fun item => (Entry.ofValue? env item).isNone

/-- The first reason for which the entries of an array cannot be told. -/
def fault? (env : Env) (items : List Value) : Option Fault :=
  (items.filterMap BuildCommand.ofValue?).findSome? (·.fault? env)

/-- Reads a database from a text whose brackets are nested up to a number of levels. -/
def ofText (env : Env) (levels : Nat) (path text : Text) : Except Fault Database :=
  match Json.parse levels text with
  | .error (.malformed fault) => .error (.database path (.malformed fault))
  | .error (.tooManyDigits count) => .error (.tooManyDigits count)
  | .error (.tooDeep bracket) => .error (.tooDeep bracket)
  | .ok (.list items) =>
    match fault? env items with
    | some fault => .error fault
    | none => .ok (ofItems env path items)
  | .ok _ => .error (.database path .notArray)

/-- Reads a database from its text. -/
def parse (env : Env) (path text : Text) : Except Fault Database :=
  ofText env env.readLevels path text

/-- Reads a database from its file. The text is read one call further in, so it may have one level of
brackets less. -/
def load (env : Env) (fs : FileSystem) (path : Text) : Except Fault Database :=
  match fs.read env.cwd path with
  | .error (.system e p) => .error (.database path (.unreadable (.system e p)))
  | .error fault => .error (.access fault)
  | .ok bytes =>
    match Text.decodeUtf8 bytes with
    | .error fault => .error (.database path (.undecodable fault))
    | .ok text => ofText env (env.readLevels - 1) path (Text.unifyNewlines text)

/-- The entries of a file, in the order of the database. -/
def entriesFor (db : Database) (file : Text) : List Entry :=
  db.entries.filter (·.file = file)

end Database

end CompileFlags
