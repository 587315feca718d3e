import CompileFlags.Path.Expand

/-!
# Include directories

Some options name a directory to search for headers. The directory is joined to the flag or is the
next option, whatever that option looks like.
-/

namespace CompileFlags.SearchPath

/-- The flags that name a directory, none of them hidden by an earlier one. -/
def flags : List Text := ["-idirafter", "-isystem", "-iquote", "-I"]

/-- Options that start like a flag but name no directory. -/
def exceptions : List Text := ["-isystem-after"]

/-- Whether an option starts with a flag. -/
def startsWith (option flag : Text) : Bool := flag.isPrefixOf option

/-- The flag that an option starts with. -/
def flag? (option : Text) : Option Text :=
  if exceptions.any (startsWith option) then none else flags.find? (startsWith option)

/-- What follows a flag within its option. -/
def joined (flag option : Text) : Text := option.drop flag.length

/-- The directories that options name, in order. An empty name names none. -/
def directories : List Text → List Text
  | [] => []
  | option :: rest =>
    match flag? option with
    | none => directories rest
    | some flag =>
      if joined flag option ≠ "" then joined flag option :: directories rest
      else
        match rest with
        | [] => []
        | next :: rest => if next ≠ "" then next :: directories rest else directories rest
termination_by structural options => options

/-- The directories that options name, as they are written: an empty one among them, if it stands in an
option of its own. -/
def arguments : List Text → List Text
  | [] => []
  | option :: rest =>
    match flag? option with
    | none => arguments rest
    | some flag =>
      if joined flag option ≠ "" then joined flag option :: arguments rest
      else
        match rest with
        | [] => []
        | next :: rest => next :: arguments rest
termination_by structural options => options

/-- The options with the directories they name made absolute, relative ones taken from a base. -/
def absolutize (env : Env) (base : Text) : List Text → List Text
  | [] => []
  | option :: rest =>
    match flag? option with
    | none => option :: absolutize env base rest
    | some flag =>
      if joined flag option ≠ "" then
        (flag ++ Path.expand env (joined flag option) base) :: absolutize env base rest
      else
        match rest with
        | [] => [option]
        | next :: rest => option :: Path.expand env next base :: absolutize env base rest
termination_by structural options => options

/-- The options with the directories they name made absolute, unless one of them cannot be resolved. -/
def absolutized (env : Env) (base : Text) (options : List Text) : Except Fault (List Text) :=
  match Path.firstFault? env base (arguments options) with
  | some fault => .error fault
  | none => .ok (absolutize env base options)

end CompileFlags.SearchPath
