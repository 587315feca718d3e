import CompileFlags.FileSystem.Basic
import CompileFlags.Path.Basic

/-!
# From paths to places

A path is followed name by name. Links are entered as they come, so that a `..` after a link leads
to the parent of the place it leads to. All names but the last have to be there, and each directory on
the way is searched for the next name, which may be refused. Whether a link at the very end is entered
too depends on what the path is followed for. A relative path starts at the current directory, even if
that has been removed.
-/

namespace CompileFlags.FileSystem

/-- Where a path leads. -/
inductive Goal where
  | present (loc : Location)
  /-- Nothing is there yet, but the directory is. -/
  | absent (loc : Location)
  /-- A directory that has been removed, in which nothing is found any more. -/
  | removed
deriving DecidableEq, Repr

/-- What a path is followed for. -/
inductive Purpose where
  /-- To find what has that name, be it a link. -/
  | name
  /-- To find what is behind the name. -/
  | content
  /-- To write a file there. -/
  | writing
deriving DecidableEq, Repr

/-- The steps of a path. A slash at the end asks for a directory, which an empty step stands for. -/
def steps (p : Text) : List Text :=
  let names := (Path.pieces p).filter (· ≠ [])
  if names ≠ [] && Path.endsInSlash p then names ++ [[]] else names

/-- The most bytes that a name may have. -/
def maxNameBytes : Nat := 255

/-- A path has fewer bytes than this. -/
def maxPathBytes : Nat := 4096

/-- The most links that are entered on one path. -/
def maxLinks : Nat := 40

/-- Follows steps from a place. `enter` goes on behind a link. No file is written to a name with a
slash at its end, whether or not there is something of that name. -/
def follow (fs : FileSystem) (enter : Location → List Text → Except SystemError Goal)
    (purpose : Purpose) : Location → List Text → Except SystemError Goal
  | here, [] => .ok (.present here)
  | here, name :: rest =>
    match fs.node? here with
    | some .directory =>
      if name = "" then follow fs enter purpose here rest
      else
        match fs.refusal? here .search with
        | some refusal => .error (.refused refusal)
        | none =>
          if name = "." then follow fs enter purpose here rest
          else if name = ".." then follow fs enter purpose here.dropLast rest
          else if purpose = .writing ∧ rest = [[]] then .error .isDirectory
          else if maxNameBytes < Text.byteCount name then .error .nameTooLong
          else
            match fs.node? (here ++ [name]) with
            | none => if rest = [] then .ok (.absent (here ++ [name])) else .error .notFound
            | some (.link target) =>
              if rest = [] ∧ purpose = .name then .ok (.present (here ++ [name]))
              else enter (if Path.isAbsolute target then [] else here) (steps target ++ rest)
            | some _ => follow fs enter purpose (here ++ [name]) rest
    | _ => .error .notDirectory
termination_by structural _ names => names

/-- Follows steps from a place, entering at most a given number of links. -/
def walk (fs : FileSystem) (purpose : Purpose) :
    Nat → Location → List Text → Except SystemError Goal
  | 0 => follow fs (fun _ _ => .error .tooManyLinks) purpose
  | links + 1 => follow fs (walk fs purpose links) purpose

/-- Follows steps from a place, given how many of the last names of it have been removed. Where some
have been, no name is found, and `..` leads to the place above. -/
def walkFrom (fs : FileSystem) (purpose : Purpose) :
    Nat → Location → List Text → Except SystemError Goal
  | 0, here, names => walk fs purpose maxLinks here names
  | _ + 1, _, [] => .ok .removed
  | removed + 1, here, name :: rest =>
    if name = "" ∨ name = "." then walkFrom fs purpose (removed + 1) here rest
    else if name = ".." then walkFrom fs purpose removed here.dropLast rest
    else if purpose = .writing ∧ rest = [[]] then .error .isDirectory
    else .error .notFound

/-- Where a path leads, a relative one from the current directory. -/
def resolve (fs : FileSystem) (cwd : CurrentDirectory) (p : Text) (purpose : Purpose) :
    Except SystemError Goal :=
  if p = "" then .error .notFound
  else if maxPathBytes ≤ Text.byteCount p then .error .nameTooLong
  else if Path.isAbsolute p then walk fs purpose maxLinks [] (steps p)
  else walkFrom fs purpose cwd.removed cwd.place (steps p)

end CompileFlags.FileSystem
