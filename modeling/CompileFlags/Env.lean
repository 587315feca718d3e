import CompileFlags.FileSystem.Basic
import CompileFlags.Path.Basic

/-!
# The circumstances of a run

What the answers depend on besides the files: where the home directories and the current directory are,
how deeply calls may be nested, and what time it is.
-/

namespace CompileFlags

/-- The path that led to the current directory. -/
def CurrentDirectory.path (cwd : CurrentDirectory) : Text := "/" ++ Path.joinNames cwd.place

theorem four_le_usualLevels : 4 ≤ 990 ∧ 4 ≤ 990 := by decide

/-- The circumstances of a run. -/
structure Env where
  /-- The home directory as it was given to the program. -/
  home : Text
  cwd : CurrentDirectory
  /-- The seconds since the epoch. -/
  clock : Float
  /-- The home directories of users by their names. -/
  users : List (Text × Text) := []
  /-- How many brackets may be nested in a JSON text that is read: each takes a call. -/
  readLevels : Nat := 990
  /-- How many lists and maps may be nested in a value that is written. -/
  writeLevels : Nat := 990
  /-- The settings and the answers of the program itself can be read and written. -/
  four_le_levels : 4 ≤ readLevels ∧ 4 ≤ writeLevels := by exact four_le_usualLevels
deriving DecidableEq

end CompileFlags
