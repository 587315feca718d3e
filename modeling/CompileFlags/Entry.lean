import CompileFlags.Command.Tokens
import CompileFlags.Path.Expand
import CompileFlags.Value.Basic

/-!
# Entries

A build command says how one file was compiled: in which directory, and with which command line or
argument list. An entry keeps of it what matters for parsing the file: the options, without the
compiler, the output and the file itself. To tell the file from the options every argument is resolved
as a path, which may fail.
-/

namespace CompileFlags

/-- One object of a database, as the build system wrote it. -/
structure BuildCommand where
  directory : Option Text
  file : Option Text
  command : Option Text
  arguments : Option (List Text)
deriving DecidableEq, Repr, Inhabited

/-- The source file of a build command, its options, and the directory that relative paths in the
options are taken from. -/
structure Entry where
  file : Text
  options : List Text
  base : Text
deriving DecidableEq, Repr, Inhabited

namespace BuildCommand

/-- The texts of a list that holds nothing else. -/
def texts? : Value → Option (List Text)
  | .list items => items.mapM Value.text?
  | _ => none

/-- Reads a build command. A member of the wrong kind counts as missing; what is no object is no
build command. -/
def ofValue? : Value → Option BuildCommand
  | .map entries =>
    let v : Value := .map entries
    some {
      directory := (v.field? "directory").bind Value.text?
      file := (v.field? "file").bind Value.text?
      command := (v.field? "command").bind Value.text?
      arguments := (v.field? "arguments").bind texts? }
  | _ => none

end BuildCommand

/-- The arguments of a compiler that matter for parsing a file: options and the file itself. What
follows `--` is neither; `-c` and the output with its name, joined or separate, are left out. -/
def relevantArguments : List Text → List Text
  | [] => []
  | arg :: rest =>
    if arg = "--" then []
    else if arg = "-c" then relevantArguments rest
    else if arg = "-o" then
      match rest with
      | [] => []
      | _ :: rest => relevantArguments rest
    else if List.isPrefixOf "-o" arg then relevantArguments rest
    else arg :: relevantArguments rest
termination_by structural args => args

/-- The options among the arguments of a compiler, for parsing a file. -/
def stripOptions (env : Env) (file directory : Text) (args : List Text) : List Text :=
  (relevantArguments args).filter (Path.expand env · directory ≠ file)

namespace BuildCommand

/-- The file and the directory of a build command. -/
def source? (c : BuildCommand) : Option (Text × Text) :=
  match c.file, c.directory with
  | some file, some directory =>
    if file = "" ∨ directory = "" then none else some (file, directory)
  | _, _ => none

/-- The arguments of a build command, the compiler among them. A command line is preferred to an
argument list, even if it cannot be split. -/
def words? (c : BuildCommand) : Option (List Text) :=
  match c.command with
  | some line => (Command.split line).toOption
  | none => c.arguments

/-- The entry of a build command. A build command without file, directory or arguments, or one that
has no options left, is of no use. -/
def normalize? (env : Env) (c : BuildCommand) : Option Entry :=
  match c.source?, c.words? with
  | some (file, directory), some words =>
    let path := Path.expand env file directory
    match stripOptions env path directory (words.drop 1) with
    | [] => none
    | options => some ⟨path, options, directory⟩
  | _, _ => none

/-- Why the entry of a build command cannot be told: its file, or an argument that may be the file too,
cannot be resolved. -/
def fault? (env : Env) (c : BuildCommand) : Option Fault :=
  match c.source? with
  | none => none
  | some (file, directory) =>
    Path.firstFault? env directory (file :: relevantArguments ((c.words?.getD []).drop 1))

/-- The entry of a build command, unless there is a path in it that cannot be resolved. -/
def normalize (env : Env) (c : BuildCommand) : Except Fault (Option Entry) :=
  match c.fault? env with
  | some fault => .error fault
  | none => .ok (c.normalize? env)

end BuildCommand

/-- The entry of a value of a database, if it has one. -/
def Entry.ofValue? (env : Env) (v : Value) : Option Entry :=
  (BuildCommand.ofValue? v).bind (·.normalize? env)

end CompileFlags
