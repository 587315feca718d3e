import CompileFlags.Text.Basic

/-!
# Answers

The answer to the question which flags parse a file: the candidates, where each of them runs, and
how they were found.
-/

namespace CompileFlags

/-- How the flags of a file were found. -/
inductive MatchKind where
  /-- The database has entries for the file. -/
  | exact
  /-- The flags are those of a directory that holds the file. -/
  | directory
  /-- In some way that is known by its label only. -/
  | other (label : Text)
deriving DecidableEq, Repr

/-- The label of a way of finding flags. -/
def MatchKind.label : MatchKind → Text
  | .exact => "exact"
  | .directory => "directory"
  | .other label => label

/-- The way of finding flags that has a label. -/
def MatchKind.ofLabel (label : Text) : MatchKind :=
  if label = "exact" then .exact else if label = "directory" then .directory else .other label

/-- The outcome of a query. Each candidate is a list of options, and the directory of the same index
is where it runs. -/
structure Answer where
  queriedPath : Text := ""
  searchStart : Text := ""
  database : Option Text := none
  candidates : List (List Text) := []
  directories : List Text := []
  kind : Option MatchKind := none
  matchedDirectory : Option Text := none
  loaded : Nat := 0
  dropped : Int := 0
deriving DecidableEq, Repr, Inhabited

namespace Answer

/-- Whether any flags were found. -/
def hasFlags (a : Answer) : Bool := !a.candidates.isEmpty

/-- The first candidate, which is the one to take among several. -/
def options (a : Answer) : Option (List Text) := a.candidates.head?

/-- Where the first candidate runs. -/
def directory (a : Answer) : Option Text := a.directories.head?

end Answer

end CompileFlags
