import CompileFlags.Env
import CompileFlags.Path.Expand

/-!
# Tidy paths

The form in which file names are shown: repeated slashes and `.` pieces are dropped, while `..`
stays, since behind a link it may lead elsewhere. The extension of a path is read off this form.
-/

namespace CompileFlags.Path

/-- The names of a tidy path. -/
def names (p : Text) : List Text :=
  (pieces p).filter fun piece => piece ≠ "" && piece ≠ "."

/-- The root that a path starts at; empty for a relative path. -/
def root (p : Text) : Text :=
  if startsDoubled p then "//" else if isAbsolute p then "/" else ""

/-- The tidy form of a path. What has neither root nor names is the current directory. -/
def tidy (p : Text) : Text :=
  let text := root p ++ joinNames (names p)
  if text = "" then "." else text

/-- The extension of the last name, with its dot. A dot at either end of the name starts none. -/
def extension (p : Text) : Text :=
  match (names p).getLast? with
  | none => ""
  | some name =>
    let after := (name.reverse.takeWhile (· ≠ CodePoint.char '.')).reverse
    if after = [] ∨ name.length ≤ after.length + 1 then "" else "." ++ after

/-- The tidy form of a path after its leading `~` is replaced. If a `~` remains, no home directory is
known. -/
def expandTidy (env : Env) (p : Text) : Except Fault Text :=
  match expandUser env (tidy p) with
  | .error fault => .error fault
  | .ok expanded => if expanded.head? = some '~' then .error .noHome else .ok (tidy expanded)

end CompileFlags.Path
