import CompileFlags.Path.Basic

/-!
# Absolute paths in normal form

The normal form of an absolute path has no empty piece, no `.` and no `..`. Each `..` takes away the
name before it as the text stands, whatever that name is on disk, and has no effect at the root.
-/

namespace CompileFlags.Path

/-- An absolute path: which root it starts at, and the names below it. -/
structure Absolute where
  doubled : Bool
  names : List Text
deriving DecidableEq, Repr

namespace Absolute

/-- Goes one piece further from the names reached so far. -/
def step (names : List Text) (piece : Text) : List Text :=
  if piece = "" ∨ piece = "." then names
  else if piece = ".." then names.dropLast
  else names ++ [piece]

/-- Reads an absolute path. -/
def ofText (p : Text) : Absolute := ⟨startsDoubled p, (pieces p).foldl step []⟩

/-- The text of an absolute path. -/
def text (a : Absolute) : Text := (if a.doubled then "//" else "/") ++ joinNames a.names

/-- The path itself, its parent, and so on up to the root. -/
def ancestors (a : Absolute) : List Absolute :=
  (List.range (a.names.length + 1)).map fun n =>
    { a with names := a.names.take (a.names.length - n) }

end Absolute

/-- The normal form of an absolute path. -/
def normalize (p : Text) : Text := (Absolute.ofText p).text

/-- The normal forms of an absolute path and of the directories above it, up to the root. -/
def ancestors (p : Text) : List Text := (Absolute.ofText p).ancestors.map Absolute.text

end CompileFlags.Path
