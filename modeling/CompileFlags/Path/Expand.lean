import CompileFlags.Env
import CompileFlags.Fault
import CompileFlags.Path.Absolute

/-!
# Paths in their surroundings

A leading `~` stands for the home directory, with a name behind it for that of a user, and a relative
path is taken from some base directory. Once both are resolved, a path is in normal form and no longer
depends on where it is read. A path cannot be resolved if its `~` is followed by a name that the system
cannot be asked for, or if it is relative and the current directory has been removed.
-/

namespace CompileFlags.Path

/-- The name behind a leading `~`, and what follows the name. -/
def tilde? : Text → Option (Text × Text)
  | .char '~' :: rest =>
    some (rest.takeWhile (· ≠ CodePoint.char '/'), rest.dropWhile (· ≠ CodePoint.char '/'))
  | _ => none

/-- The home directory of the user with a name. No name is that of the user at hand. -/
def home? (env : Env) (name : Text) : Option Text :=
  if name = "" then some env.home else OrderedMap.get? name env.users

/-- Replaces a leading `~`, with the name behind it, by the home directory, whose final slashes are
dropped; nothing left at all is the root. A name that is no user's stays as it is. -/
def expandHome (env : Env) (p : Text) : Text :=
  match tilde? p with
  | none => p
  | some (name, rest) =>
    match home? env name with
    | none => p
    | some home =>
      let expanded := trimSlashes home ++ rest
      if expanded = "" then "/" else expanded

/-- Why the user behind a leading `~` cannot be looked up. -/
def homeFault? (p : Text) : Option AccessFault :=
  match tilde? p with
  | none => none
  | some (name, _) => FileSystem.pathFault? name

/-- A path with its leading `~` replaced. -/
def expandUser (env : Env) (p : Text) : Except Fault Text :=
  match homeFault? p with
  | some fault => .error (.access fault)
  | none => .ok (expandHome env p)

/-- The normal form of a path that is relative to the current directory. -/
def absolute (env : Env) (p : Text) : Text := normalize (join env.cwd.path p)

/-- Whether the normal form of a path can be told: a relative path has none where the current
directory has been removed. -/
def isLocatable (env : Env) (p : Text) : Bool := isAbsolute p || env.cwd.removed = 0

/-- The normal form of a path, if it can be told. -/
def locate (env : Env) (p : Text) : Except Fault Text :=
  if isLocatable env p then .ok (absolute env p) else .error .noCurrentDirectory

/-- The normal form of a path as users write it: it may start at a home directory, and is relative to the
current directory otherwise. -/
def ofUser (env : Env) (p : Text) : Except Fault Text :=
  match expandUser env p with
  | .error fault => .error fault
  | .ok expanded => locate env expanded

/-- A path taken from a base directory, where either may start at a home directory. -/
def fromBase (env : Env) (p base : Text) : Text := join (expandHome env base) (expandHome env p)

/-- The normal form of a path that is relative to a base directory, which in turn may be relative to
the current one. -/
def expand (env : Env) (p base : Text) : Text := absolute env (fromBase env p base)

/-- Why a path cannot be resolved from a base directory. The base directory is not looked at if the path
is absolute. -/
def fault? (env : Env) (p base : Text) : Option Fault :=
  match homeFault? p, isAbsolute (expandHome env p), homeFault? base with
  | some fault, _, _ => some (.access fault)
  | none, true, _ => none
  | none, false, some fault => some (.access fault)
  | none, false, none => if isLocatable env (fromBase env p base) then none else some .noCurrentDirectory

/-- Resolves a path from a base directory. -/
def resolve (env : Env) (p base : Text) : Except Fault Text :=
  match fault? env p base with
  | some fault => .error fault
  | none => .ok (expand env p base)

/-- The first reason for which paths cannot be resolved from a base directory, one after the other. -/
def firstFault? (env : Env) (base : Text) (paths : List Text) : Option Fault :=
  paths.findSome? (fault? env · base)

end CompileFlags.Path
