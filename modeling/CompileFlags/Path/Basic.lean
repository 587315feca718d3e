import CompileFlags.Text.Basic

/-!
# Paths as text

Joining and cutting paths without a look at any file. A path is absolute if it starts with a slash;
the pieces of a path are what stands between its slashes.
-/

namespace CompileFlags.Path

/-- Whether a path starts at the root. -/
def isAbsolute (p : Text) : Bool := p.head? == some '/'

/-- Whether the last character of a path is a slash. -/
def endsInSlash (p : Text) : Bool := p.getLast? == some '/'

/-- A path taken from a directory. An absolute path stands for itself. -/
def join (dir p : Text) : Text :=
  if isAbsolute p then p
  else if dir = "" ∨ endsInSlash dir then dir ++ p
  else dir ++ "/" ++ p

/-- A path with a slash at its end, so that it is a prefix of the files below it and of no file in
a sibling. -/
def asDirectory (p : Text) : Text := join p ""

/-- Whether a directory, with a slash at its end, is above a file. -/
def covers (directory file : Text) : Bool := directory.isPrefixOf file

/-- Of things that belong to directories, the one whose directory is nearest above a file: the
longest directory that covers it, and of equal ones the first. -/
def nearest? {α : Type} (directory : α → Text) (file : Text) (things : List α) : Option α :=
  (things.filter fun thing => covers (directory thing) file).maxOn? fun thing =>
    (directory thing).length

/-- The pieces of a path, first to last, empty ones included. -/
def pieces : Text → List Text
  | [] => [[]]
  | c :: rest => if c = '/' then [] :: pieces rest else (pieces rest).modifyHead (c :: ·)

/-- Names with one slash between each two. -/
def joinNames (names : List Text) : Text := List.intercalate "/" names

/-- A text without the slashes at its end. -/
def trimSlashes (t : Text) : Text := (t.reverse.dropWhile (· = CodePoint.char '/')).reverse

/-- The directory part of a path: all before its last slash, or the slashes alone if nothing else
stands before it. -/
def parent (p : Text) : Text :=
  let head := (p.reverse.dropWhile (· ≠ CodePoint.char '/')).reverse
  if head.all (· = '/') then head else trimSlashes head

/-- Exactly two slashes at the front are a root of their own; one, or three and more, are the root.
-/
def startsDoubled (p : Text) : Bool :=
  match p with
  | .char '/' :: .char '/' :: c :: _ => c ≠ '/'
  | [.char '/', .char '/'] => true
  | _ => false

end CompileFlags.Path
