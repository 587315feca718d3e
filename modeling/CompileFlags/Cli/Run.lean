import CompileFlags.Cli.Arguments
import CompileFlags.Report.Panel
import CompileFlags.Session

/-!
# Running the command

One run registers or forgets a project, or answers which flags parse a file. Its exit code tells
whether the flags were found: zero if so, one if not, and two for a database that cannot be used or
a command line that cannot be understood.
-/

namespace CompileFlags.Cli

/-- What a run leaves behind: its exit code or the fault that ended it, what it wrote, the panel it
showed, and the files. -/
structure Outcome where
  exit : Except Fault Nat
  stdout : Text := ""
  stderr : Text := ""
  panel : Option Report.Panel := none
  files : FileSystem

/-- One line on the use of the command. -/
def usage : Text :=
  "usage: cdbflags [-h] [--start START] [--all] [--absolute] [--json] " ++
    "[--add-project ROOT DB] [--remove-project ROOT] [file]\n"

/-- The help text. -/
def helpText : Text :=
  usage ++ "\n" ++
    "cdbflags: compiler flags from compile_commands.json\n\n" ++
    "positional arguments:\n" ++
    "  file                  C/C++ source or header file to look up\n\n" ++
    "options:\n" ++
    "  -h, --help            show this help message and exit\n" ++
    "  --start START         Directory to start the database search from " ++
    "(default: the file's directory)\n" ++
    "  --all                 Show every candidate when the file is compiled more than once\n" ++
    "  --absolute            Make relative include paths absolute\n" ++
    "  --json                Print the result as JSON\n" ++
    "  --add-project ROOT DB\n" ++
    "                        Register a database for a project root\n" ++
    "  --remove-project ROOT\n" ++
    "                        Forget a registered project root\n"

/-- What the console shows, on a line of its own. -/
def consoleLine (shown : Except ConsoleFault Text) : Except Fault Text :=
  match shown with
  | .ok text => .ok (text ++ "\n")
  | .error fault => .error (.console fault)

variable (console : Report.Console)

/-- The heading of a message about an error. -/
def errorMark : Text := "[bold red]Error:[/bold red] "

/-- The heading of a message about something that does no harm to the answer. -/
def warningMark : Text := "[yellow]Warning:[/yellow] "

/-- Shows a message, and ends the run with a code; a message that cannot be shown ends it too. -/
def finish (code : Nat) (message : Text) (files : FileSystem) : Outcome :=
  match consoleLine (console.message message) with
  | .ok line => { exit := .ok code, stdout := line, files }
  | .error fault => { exit := .error fault, files }

/-- The JSON document of an answer. -/
def answerDocument (a : Answer) (all : Bool) : Except Fault Value :=
  let optional (t : Option Text) : Value := (t.map .text).getD .null
  (Report.withDirectories a all).map fun rows => .map [
    (.text "file", .text a.queriedPath),
    (.text "database", optional a.database),
    (.text "match", optional (a.kind.map (·.label))),
    (.text "directory", optional a.matchedDirectory),
    (.text "candidates", .list (rows.map fun (_, directory, options) => .map [
      (.text "directory", .text directory),
      (.text "flags", .list (options.map .text))]))]

/-- A candidate with its include directories made absolute. -/
def absolutizeCandidate (env : Env) (a : Answer) (candidate : List Text × Nat) :
    Except Fault (List Text) :=
  match a.directories[candidate.2]? with
  | some directory => SearchPath.absolutized env directory candidate.1
  | none => .error .noWorkingDirectory

/-- An answer with the include directories of its candidates made absolute. -/
def absolutizeAnswer (env : Env) (a : Answer) : Except Fault Answer :=
  (a.candidates.zipIdx.mapM (absolutizeCandidate env a)).map fun candidates => { a with candidates }

/-- The JSON text of an answer. -/
def answerText (env : Env) (a : Answer) (all : Bool) : Except Fault Text :=
  match answerDocument a all with
  | .error fault => .error fault
  | .ok document =>
    let draft := Json.render env.writeLevels document
    match draft.result with
    | .error fault => .error (.unwritable fault)
    | .ok () => .ok (draft.text.map CodePoint.char)

/-- The panel of an answer, if a console can show it. -/
def shownPanel (a : Answer) (all : Bool) : Except Fault Report.Panel :=
  match Report.panel a all with
  | .error fault => .error fault
  | .ok panel =>
    match console.panelFault? panel with
    | some fault => .error (.console fault)
    | none => .ok panel

/-- Shows an answer as it is: as a JSON text, or in a panel. -/
def display (env : Env) (args : Arguments) (answer : Answer) (files : FileSystem) : Outcome :=
  let code := if answer.hasFlags then 0 else 1
  if args.json then
    match answerText env answer args.all with
    | .error fault => { exit := .error fault, files }
    | .ok text => { exit := .ok code, stdout := text ++ "\n", files }
  else
    match shownPanel console answer args.all with
    | .error fault => { exit := .error fault, files }
    | .ok panel => { exit := .ok code, panel := some panel, files }

/-- Shows an answer as the arguments ask for. -/
def showAnswer (env : Env) (args : Arguments) (answer : Answer) (files : FileSystem) : Outcome :=
  match (if args.absolute then absolutizeAnswer env answer else .ok answer) with
  | .error fault => { exit := .error fault, files }
  | .ok answer => display console env args answer files

/-- Shows what came of a query: the answer, or why there is none. -/
def showReply (env : Env) (args : Arguments) (reply : Session.Reply) : Outcome :=
  match reply.result with
  | .ok answer => showAnswer console env args answer reply.files
  | .error (.database path cause) =>
    finish console 2 (errorMark ++ (Fault.database path cause).message) reply.files
  | .error fault => { exit := .error fault, files := reply.files }

/-- Warns of a log that could not be written, before an answer is shown and after an error is. A
warning that cannot be shown ends the run, and no answer is shown. -/
def withWarning (reply : Session.Reply) (outcome : Outcome) : Outcome :=
  match reply.session.logError with
  | none => outcome
  | some e =>
    match consoleLine (console.warning (warningMark ++ e)) with
    | .ok line => { outcome with stderr := line }
    | .error fault =>
      match reply.result with
      | .ok _ => { exit := .error fault, files := outcome.files }
      | .error _ => { outcome with exit := .error fault }

/-- Answers which flags parse a file. -/
def answerFile (env : Env) (settings : Settings) (files : FileSystem) (args : Arguments)
    (file : Text) : Outcome :=
  match Session.ofSettings env settings with
  | .error fault => { exit := .error fault, files }
  | .ok session =>
    let reply := session.query env files (some file) args.start
    withWarning console reply (showReply console env args reply)

/-- Registers a project. -/
def register (env : Env) (settings : Settings) (files : FileSystem) (root database : Text) :
    Outcome :=
  match Path.locate env root, Path.locate env database with
  | .error fault, _ => { exit := .error fault, files }
  | _, .error fault => { exit := .error fault, files }
  | .ok root, .ok database =>
    let change := settings.addProject env files root database
    match change.result with
    | .error fault => { exit := .error fault, files := change.files }
    | .ok () => finish console 0 ("Registered " ++ database ++ " for " ++ root) change.files

/-- Forgets a project. -/
def forget (env : Env) (settings : Settings) (files : FileSystem) (root : Text) : Outcome :=
  match Path.locate env root with
  | .error fault => { exit := .error fault, files }
  | .ok root =>
    let change := settings.removeProject env files root
    match change.result with
    | .error fault => { exit := .error fault, files := change.files }
    | .ok true => finish console 0 ("Removed " ++ root) change.files
    | .ok false => finish console 1 (errorMark ++ root ++ " is not registered") change.files

/-- Tells that there is no file to look up, in two messages. -/
def refuse (files : FileSystem) : Outcome :=
  match consoleLine (console.message (errorMark ++ "No source file specified.")),
    consoleLine (console.message "Usage: cdbflags <file> [--start DIR]") with
  | .error fault, _ => { exit := .error fault, files }
  | .ok line, .error fault => { exit := .error fault, stdout := line, files }
  | .ok line, .ok usageLine => { exit := .ok 1, stdout := line ++ usageLine, files }

/-- Does what the arguments ask for. Registering comes before forgetting, and both before a query.
An empty argument counts as none. -/
def perform (env : Env) (files : FileSystem) (args : Arguments) : Outcome :=
  match Settings.load env files with
  | (.error fault, files) => { exit := .error fault, files }
  | (.ok settings, files) =>
    match args.addProject, args.removeProject.filter (· ≠ []), args.file.filter (· ≠ []) with
    | some (root, database), _, _ => register console env settings files root database
    | none, some root, _ => forget console env settings files root
    | none, none, some file => answerFile console env settings files args file
    | none, none, none => refuse console files

/-- Runs the command with the words of its command line. -/
def run (env : Env) (files : FileSystem) (words : List Text) : Outcome :=
  match parse words with
  | .error refusal =>
    { exit := .ok 2
      stderr := usage ++ "cdbflags: error: " ++ refusal.message ++ "\n"
      files }
  | .ok .help => { exit := .ok 0, stdout := helpText, files }
  | .ok (.run args) => perform console env files args

end CompileFlags.Cli
