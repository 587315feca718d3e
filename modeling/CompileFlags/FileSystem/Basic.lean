import CompileFlags.FileSystem.Error
import CompileFlags.OrderedMap

/-!
# File systems

A file system is a set of places, each with what is found there. A place is known by the names that
lead to it from the root, without links; the root is always a directory. What is found at a place may be
barred: the system then refuses to search it, to read it or to write to it.
-/

namespace CompileFlags

/-- Contents are equal if their bytes are. -/
instance decidableEqContent : DecidableEq ByteArray := ByteArray.instDecidableEq

/-- What is found at a place. -/
inductive Node where
  | directory
  | file (content : ByteArray)
  /-- A link to a path, which may be relative to the link's directory and may lead nowhere. -/
  | link (target : Text)
deriving DecidableEq, Inhabited

/-- The names from the root to a place. -/
abbrev Location := List Text

/-- The current directory: the names from the root to it, and how many of the last of them have been
removed since. A removed directory does not come back when another one is made at its place. -/
structure CurrentDirectory where
  place : Location
  removed : Nat := 0
deriving DecidableEq, Repr, Inhabited

/-- The current directory after a place is taken away with everything below it. -/
def CurrentDirectory.without (cwd : CurrentDirectory) (loc : Location) : CurrentDirectory :=
  if loc.isPrefixOf cwd.place then
    { cwd with removed := max cwd.removed (cwd.place.length - loc.length + 1) }
  else cwd

/-- What is asked of a place: of a directory, to look for a name in it; of a file, to read it; of a file,
to write to it, and of a directory, to add a name to it. -/
inductive Request where
  | search
  | read
  | write
deriving DecidableEq, Repr

/-- The nodes below the root by their places, and what the system refuses at which place. -/
structure FileSystem where
  nodes : List (Location × Node)
  refusals : List ((Location × Request) × Refusal) := []
deriving DecidableEq, Inhabited

namespace FileSystem

/-- A file system with nothing below the root. -/
def empty : FileSystem := ⟨[], []⟩

/-- What is found at a place. -/
def node? (fs : FileSystem) (loc : Location) : Option Node :=
  if loc = [] then some .directory else OrderedMap.get? loc fs.nodes

/-- Why what is asked of a place is refused. -/
def refusal? (fs : FileSystem) (loc : Location) (request : Request) : Option Refusal :=
  OrderedMap.get? (loc, request) fs.refusals

/-- Puts a node at a place, in exchange for what was there. -/
def set (fs : FileSystem) (loc : Location) (node : Node) : FileSystem :=
  { fs with nodes := OrderedMap.put loc node fs.nodes }

/-- Makes a node at a place where nothing was. Nothing is refused there. -/
def make (fs : FileSystem) (loc : Location) (node : Node) : FileSystem where
  nodes := OrderedMap.put loc node fs.nodes
  refusals := fs.refusals.filter (·.1.1 ≠ loc)

/-- Takes away a place with everything below it. -/
def erase (fs : FileSystem) (loc : Location) : FileSystem where
  nodes := fs.nodes.filter fun entry => !loc.isPrefixOf entry.1
  refusals := fs.refusals.filter fun entry => !loc.isPrefixOf entry.1.1

end FileSystem

end CompileFlags
