import CompileFlags.Answer
import CompileFlags.DirectoryMap
import CompileFlags.Language
import CompileFlags.Settings.Store
import CompileFlags.Value.Literal

/-!
# Queries

A session answers queries under the settings it was started with, and logs each of them. Nothing is
remembered between queries: each reads the database again. A query first logs what is asked, then
looks for the answer, and at last logs what came of it; if the log cannot be written, the answer is
given all the same.
-/

namespace CompileFlags

/-- What a query finds, and the lines to be logged about it. -/
structure Finding where
  result : Except Fault Answer
  log : List Text

namespace Database

/-- Looks a file up in a database: its own entries, or if it has none the flags of its nearest
directory, where the settings allow it. Gives the answer, which adds to what is known before, and
the line to be logged. -/
def answer (env : Env) (db : Database) (fallback : Bool) (known : Answer) :
    Except Fault (Answer × Text) :=
  match db.entriesFor known.queriedPath with
  | [] =>
    if fallback then
      match db.nearest env known.queriedPath with
      | .error fault => .error fault
      | .ok none => .ok (known, "No known directory prefixes the file")
      | .ok (some (directory, flags)) =>
        let kind := if isHeader known.queriedPath then "header" else "file"
        .ok ({ known with
            candidates := [flags.options], directories := [flags.base]
            kind := some .directory, matchedDirectory := some directory },
          "Directory fallback for " ++ kind ++ ": " ++ directory)
    else .ok (known, "No exact match, directory fallback disabled")
  | entries =>
    .ok ({ known with
        candidates := entries.map (·.options), directories := entries.map (·.base)
        kind := some .exact },
      "Exact match: " ++ toString entries.length ++ " candidate(s)")

end Database

namespace SettingValues

/-- The registered projects as queries see them: a setting that is no map has none. -/
def registered (values : SettingValues) : List (Scalar × Value) :=
  match values.get "projects" with
  | .map entries => entries
  | _ => []

/-- The log line about a setting of projects that is no map. -/
def complaint (values : SettingValues) : List Text :=
  match values.get "projects" with
  | .map _ => []
  | other => ["Ignoring non-mapping 'projects' setting: " ++ other.literal]

/-- Finds the answer for a file, given in normal form, from a place to start at. -/
def find (values : SettingValues) (env : Env) (fs : FileSystem) (path start : Text) : Finding :=
  let unanswered : Answer := { queriedPath := path, searchStart := start }
  match locateDatabase env fs (some path) (some start) values.registered
    (values.get "database_name") with
  | .error fault => ⟨.error fault, []⟩
  | .ok none => ⟨.ok unanswered, ["No compilation database found"]⟩
  | .ok (some file) =>
    match Database.load env fs file with
    | .error (.database path cause) =>
      let fault : Fault := .database path cause
      ⟨.error fault, ["Load Error: " ++ fault.message]⟩
    | .error fault => ⟨.error fault, []⟩
    | .ok db =>
      let loaded := { unanswered with
        database := some file, loaded := db.entries.length, dropped := db.dropped }
      let line : Text := "Loaded " ++ toString db.entries.length ++ " entries from " ++ file ++ " (" ++
        toString db.dropped ++ " dropped)"
      match db.answer env (values.get "fallback").isTrue loaded with
      | .error fault => ⟨.error fault, [line]⟩
      | .ok (answer, last) => ⟨.ok answer, [line, last]⟩

end SettingValues

/-- The settings of a session, the file it logs to, and the first failure to write there. -/
structure Session where
  settings : Settings
  logFile : Text
  logFault : Option AccessFault

namespace Session

/-- Starts a session. The log file stays the same whatever is set later. -/
def ofSettings (env : Env) (settings : Settings) : Except Fault Session :=
  match settings.logPath env with
  | .error fault => .error fault
  | .ok path => .ok ⟨settings, path, none⟩

/-- Starts a session with the settings of the home directory. -/
def start (env : Env) (fs : FileSystem) : Except Fault Session × FileSystem :=
  match Settings.load env fs with
  | (.error fault, fs) => (.error fault, fs)
  | (.ok settings, fs) => (ofSettings env settings, fs)

/-- What is told about a failure to write the log. -/
def logError (s : Session) : Option Text :=
  s.logFault.map fun fault => "Cannot write log file " ++ s.logFile ++ ": " ++ fault.message

/-- A line of the log with its time. -/
def logLine (env : Env) (line : Text) : Text :=
  "[" ++ floatLiteral.write env.clock ++ "] " ++ line ++ "\n"

/-- Logs a line. A line that has no bytes is not written, but its file is made all the same. -/
def appendLine (env : Env) (s : Session) (fs : FileSystem) (line : Text) :
    Except AccessFault (FileSystem × Option AccessFault) :=
  match Text.encodeUtf8 (logLine env line) with
  | .ok bytes => (fs.append env.cwd s.logFile bytes).map (·, none)
  | .error fault => (fs.append env.cwd s.logFile .empty).map (·, some (.unencodable fault))

/-- Logs lines, each on its own. Of several failures to write the file the first is kept. A line
that has no bytes ends the logging with a fault. -/
def log (env : Env) (s : Session) (fs : FileSystem) :
    List Text → Session × FileSystem × Option AccessFault
  | [] => (s, fs, none)
  | line :: rest =>
    match s.appendLine env fs line with
    | .ok (fs, none) => log env s fs rest
    | .ok (fs, some fault) => (s, fs, some fault)
    | .error fault => log env { s with logFault := s.logFault.or (some fault) } fs rest

/-- The session and the files after a query, with its result. -/
structure Reply where
  session : Session
  files : FileSystem
  result : Except Fault Answer

/-- Answers a query for a file, with the search for the database starting at the file unless another
place is given. No file at all is answered with nothing. -/
def query (env : Env) (s : Session) (fs : FileSystem) (file start : Option Text) : Reply :=
  match file.filter (· ≠ []) with
  | none => ⟨s, fs, .ok {}⟩
  | some file =>
    match Path.ofUser env file, FileSystem.pathFault? s.logFile with
    | .error fault, _ => ⟨s, fs, .error fault⟩
    | .ok _, some fault => ⟨s, fs, .error (.access fault)⟩
    | .ok path, none =>
      let start := (start.filter (· ≠ [])).getD path
      let values := s.settings.values
      match s.log env fs
        (("Query " ++ path ++ " (search from " ++ start ++ ")") :: values.complaint) with
      | (s, fs, some fault) => ⟨s, fs, .error (.access fault)⟩
      | (s, fs, none) =>
        let finding := values.find env fs path start
        match s.log env fs finding.log with
        | (s, fs, some fault) => ⟨s, fs, .error (.access fault)⟩
        | (s, fs, none) => ⟨s, fs, finding.result⟩

end Session

/-- The options for a file, under the settings of the home directory. No file needs no settings. -/
def compileOptions (env : Env) (fs : FileSystem) (file start : Option Text) :
    Except Fault (Option (List Text)) × FileSystem :=
  match file.filter (· ≠ []) with
  | none => (.ok none, fs)
  | some file =>
    match Session.start env fs with
    | (.error fault, fs) => (.error fault, fs)
    | (.ok session, fs) =>
      let reply := session.query env fs (some file) start
      (reply.result.map (·.options), reply.files)

end CompileFlags
