import CompileFlags.Cli.Run
import CompileFlags.Proofs.Answer
import CompileFlags.Proofs.Json.Surrogates
import CompileFlags.Proofs.Settings.Operations

/-!
# Reports

Of an answer the command shows all candidates or the first one, each with the directory it runs in
and with its include directories made absolute if that is asked for (`Cli.Arguments.runs`). A
candidate and its directory stay together, since every answer has as many of the one as of the other
(`Session.length_candidates_of_query`). So the document, the table and the exit code all tell the
same, unless the console refuses to show a warning or the panel (`Cli.run_of_answered`).
-/

namespace CompileFlags

namespace Session

variable {env : Env} {s : Session} {fs : FileSystem} {file start : Option Text} {a : Answer}

/-- Each candidate of an answer has its directory. -/
lemma length_candidates_of_query (answered : (s.query env fs file start).result = .ok a) :
    a.candidates.length = a.directories.length := by
  obtain unnamed | ⟨path, place, files, begins⟩ := exists_begins answered
  · rw [result_query_of_unnamed unnamed] at answered
    obtain rfl := Except.ok.inj answered
    rfl
  · obtain ⟨found, _⟩ := begins.result_query_eq_ok_iff.1 answered
    exact (SettingValues.isConsistent_of_find found).length_eq

/-- What is told of a log that cannot be opened, once a query has found that out. -/
lemma logError_query_of_append_eq_error (start : Option Text) {name path : Text} {fault : AccessFault}
    {content : ByteArray}
    (fresh : s.logFault = none) (ne : name ≠ []) (path_eq : Path.ofUser env name = .ok path)
    (usable : FileSystem.pathFault? s.logFile = none)
    (failed : fs.append env.cwd s.logFile content = .error fault) :
    (s.query env fs (some name) start).session.logError =
      some ("Cannot write log file " ++ s.logFile ++ ": " ++ fault.message) := by
  obtain ⟨more, session_eq, _⟩ := exists_log_eq_query_of_named ne path_eq usable
  have noted : (s.query env fs (some name) start).session.logFault = some fault := by
    rw [session_eq, opening, List.cons_append, logFault_log_cons failed, fresh, Option.none_or]
  rw [logError, noted, session_eq, logFile_log]
  rfl

end Session

/-- Files with a database, and with a directory in the place of the log. -/
def workFiles (database : ByteArray) : FileSystem where
  nodes := [
    ([".cdbflags"], .directory),
    ([".cdbflags", "cdbflags.log"], .directory),
    (["w"], .directory),
    (["w", databaseName], .file database)]

/-- The directory of the database as the current one. -/
def workEnv : Env := { home := "/", cwd := ⟨["w"], 0⟩, clock := 0 }

/-- The path of the log. -/
def workLog : Text := "/.cdbflags/cdbflags.log"

/-- The session among these files. -/
def workSession : Session := ⟨⟨"/.cdbflags", .defaults⟩, workLog, none⟩

lemma load_workFiles (database : ByteArray) :
    Settings.load workEnv (workFiles database) = (.ok workSession.settings, workFiles database) := by
  cbv

lemma ofSettings_workSession : Session.ofSettings workEnv workSession.settings = .ok workSession := by
  have unset : (workSession.settings.values.get "log_file").isTrue = false := rfl
  have beside : Path.join workSession.settings.directory "cdbflags.log" = workLog := by cbv
  rw [Session.ofSettings, Settings.logPath, unset, if_neg Bool.false_ne_true, beside]
  rfl

/-- The log cannot be opened. -/
lemma append_workLog (database content : ByteArray) :
    (workFiles database).append workEnv.cwd workSession.logFile content =
      .error (.system .isDirectory workLog) := by
  cbv

/-- The file is answered by the items of the database that are its own. -/
lemma result_query_workFiles {document : String} {items : List Value}
    (parsed : Json.parse 989 (Text.unifyNewlines (Text.ofString document)) = .ok (.list items))
    (resolved : Database.fault? workEnv items = none)
    (own : Database.itemsFor workEnv items "/w/a" ≠ []) :
    (workSession.query workEnv (workFiles document.toUTF8) (some "/w/a") (some ".")).result =
      .ok (Lookup.exactAnswer workEnv
        ⟨"/w/a", ".", "/w/compile_commands.json", workFiles document.toUTF8, items⟩) := by
  have located (database : ByteArray) : locateDatabase workEnv (workFiles database) (some "/w/a")
      (some ".") [] (.text databaseName) = .ok (some "/w/compile_commands.json") := by
    cbv
  have read (database : ByteArray) : (workFiles database).read workEnv.cwd
      "/w/compile_commands.json" = .ok database := by
    cbv
  have finds : workSession.settings.values.Finds workEnv
      ⟨"/w/a", ".", "/w/compile_commands.json", workFiles document.toUTF8, items⟩ :=
    ⟨located _, ⟨_, _, read _, Text.decodeUtf8_toUTF8 document, parsed⟩, resolved⟩
  have found := SettingValues.find_of_own_ne_nil finds own
  have normal : Path.IsNormal "/w/a" := ⟨rfl, by cbv⟩
  have place_eq : Text.ofString "." =
      ((some (Text.ofString ".")).filter (· ≠ [])).getD "/w/a" := rfl
  have answered := Session.result_query_of_append_eq_error (by decide)
    (Path.ofUser_of_isNormal normal) (by cbv) place_eq (append_workLog document.toUTF8 .empty)
  exact answered.trans (congrArg Finding.result found)

/-- A database of a build command with an option that looks like a mark, and one that names a directory. -/
def markedCommand : String :=
  "[\x7b\"file\":\"a\",\"directory\":\"/w\",\"arguments\":[\"cc\",\"-DX=[/b]\",\"-Iinc\"]\x7d]"

/-- The items of that database. -/
def markedItems : List Value := [
  .map [
    (.text "file", .text "a"),
    (.text "directory", .text "/w"),
    (.text "arguments", .list [.text "cc", .text "-DX=[/b]", .text "-Iinc"])]]

/-- The answer for its file. -/
def markedAnswer : Answer where
  queriedPath := "/w/a"
  searchStart := "."
  database := some "/w/compile_commands.json"
  candidates := [["-DX=[/b]", "-Iinc"]]
  directories := ["/w"]
  kind := some .exact
  loaded := 1

lemma result_query_markedCommand :
    (workSession.query workEnv (workFiles markedCommand.toUTF8) (some "/w/a") (some ".")).result =
      .ok markedAnswer := by
  have parsed : Json.parse 989 (Text.unifyNewlines (Text.ofString markedCommand)) =
      .ok (.list markedItems) := by cbv
  have resolved : Database.fault? workEnv markedItems = none := by decide +kernel
  have own : (Database.itemsFor workEnv markedItems "/w/a").isEmpty = false := by decide +kernel
  have answer_eq : Lookup.exactAnswer workEnv ⟨"/w/a", ".", "/w/compile_commands.json",
      workFiles markedCommand.toUTF8, markedItems⟩ = markedAnswer := by decide +kernel
  have answered := result_query_workFiles parsed resolved (List.isEmpty_eq_false_iff.1 own)
  exact answered.trans (congrArg Except.ok answer_eq)

namespace Answer

/-- The candidates of an answer, each with the directory it runs in. -/
def runs (a : Answer) : List (Text × List Text) := a.directories.zip a.candidates

/-- An optional text as a value. -/
def optional (t : Option Text) : Value := (t.map .text).getD .null

/-- The object that tells of a candidate and the directory it runs in. -/
def runObject (run : Text × List Text) : Value :=
  .object [("directory", .text run.1), ("flags", .list (run.2.map .text))]

/-- The object that tells of an answer, and of some of its candidates. -/
def object (a : Answer) (runs : List (Text × List Text)) : Value :=
  .object [
    ("file", .text a.queriedPath),
    ("database", optional a.database),
    ("match", optional (a.kind.map (·.label))),
    ("directory", optional a.matchedDirectory),
    ("candidates", .list (runs.map runObject))]

end Answer

namespace Report

variable {a : Answer} {all : Bool}

/-- The table of candidates and the directories they run in, numbered from one. -/
def tableOf (runs : List (Text × List Text)) : Table where
  headers := ["#", "Working Directory", "Flags"]
  rows := runs.zipIdx.map fun (run, i) =>
    [(toString (i + 1) : String), run.1, List.intercalate (" " : Text) run.2]

/-- What is made of candidates from an index on is made with the directories from there on. -/
lemma mapM_zipIdx {α : Type} (f : Nat → Text × List Text → Except Fault α) {directories : List Text}
    {candidates : List (List Text)} {n : Nat} (enough : n + candidates.length ≤ directories.length) :
    (candidates.zipIdx n).mapM (fun (options, i) =>
      match directories[i]? with
      | some directory => f i (directory, options)
      | none => .error Fault.noWorkingDirectory) =
      (((directories.drop n).zip candidates).zipIdx n).mapM fun (run, i) => f i run := by
  induction candidates generalizing n with
  | nil =>
    rw [List.zip_nil_right]
    rfl
  | cons options candidates ih =>
    -- the index of a candidate is also that of the first directory that is left
    rw [List.length_cons] at enough
    have lt : n < directories.length := by omega
    rw [List.zipIdx_cons, List.mapM_cons, ih (by omega), List.drop_eq_getElem_cons lt,
      List.zip_cons_cons, List.zipIdx_cons, List.mapM_cons]
    dsimp only
    rw [List.getElem?_eq_getElem lt]

lemma zip_shown (a : Answer) (all : Bool) :
    a.directories.zip (shown a all) = if all then a.runs else a.runs.take 1 := by
  cases all with
  | true => rfl
  | false =>
    rw [shown, Answer.runs, if_neg Bool.false_ne_true, if_neg Bool.false_ne_true]
    cases a.directories with
    | nil => rfl
    | cons directory directories =>
      cases a.candidates with
      | nil => rfl
      | cons options candidates => exact congrArg _ List.zip_nil_right

/-- The candidates to show are numbered, each with its directory. -/
lemma withDirectories_eq (length_eq : a.candidates.length = a.directories.length) (all : Bool) :
    withDirectories a all =
      .ok ((if all then a.runs else a.runs.take 1).zipIdx.map Prod.swap) := by
  have enough : 0 + (shown a all).length ≤ a.directories.length := by
    rw [shown, Nat.zero_add]
    split
    · exact length_eq.le
    · exact (List.length_take_le' 1 _).trans length_eq.le
  rw [← zip_shown]
  exact (mapM_zipIdx (fun i run => .ok (i, run)) enough).trans List.mapM_pure

/-- The table of an answer is that of its candidates. -/
lemma table_eq (length_eq : a.candidates.length = a.directories.length) (all : Bool) :
    table a all = .ok (tableOf (if all then a.runs else a.runs.take 1)) := by
  rw [table, withDirectories_eq length_eq, tableOf]
  refine congrArg (fun rows => Except.ok (Table.mk _ rows)) ?_
  rw [List.map_map]
  rfl

/-- Whether this is the title of panels, with its colours. -/
def IsTitle (title : Styled) : Prop := gradient panelTitle firstColour lastColour = .ok title

/-- The title of panels can be coloured. -/
lemma exists_isTitle : ∃ title, IsTitle title := by
  have first : Colour.ofText firstColour = .ok ⟨0x45, 0xd3, 0xee⟩ := by cbv
  have last : Colour.ofText lastColour = .ok ⟨0xfe, 0xcd, 0x91⟩ := by cbv
  have coloured : ∃ title, gradient panelTitle firstColour lastColour = .ok title := by
    rw [gradient, first, last]
    exact ⟨_, rfl⟩
  exact coloured

/-- The panel of an answer has the table of its candidates, if there are any. -/
lemma panel_eq {title : Styled} (isTitle : IsTitle title)
    (length_eq : a.candidates.length = a.directories.length) (all : Bool) :
    panel a all = .ok ⟨title, summary a, if a.candidates = [] then none else
      some (tableOf (if all then a.runs else a.runs.take 1))⟩ := by
  have title_eq : gradient panelTitle firstColour lastColour = .ok title := isTitle
  rw [panel, title_eq, table_eq length_eq]
  cases candidates_eq : a.candidates with
  | nil =>
    rw [Answer.hasFlags, candidates_eq]
    rfl
  | cons options candidates =>
    rw [Answer.hasFlags, candidates_eq]
    rfl

end Report

namespace Answer

/-- The scalars of a report: `null`, and texts in which all surrogates are paired. -/
inductive IsReported : Scalar → Prop
  | null : IsReported .null
  | text (t : Text) : IsReported (.text (Json.paired t))

lemma isReported_optional (t : Option Text) (levels : Nat) :
    (optional t).paired.IsMadeOf IsReported levels := by
  cases t with
  | none => exact .scalar .null
  | some t => exact .scalar (.text t)

/-- An object is reported if its names are made of characters, each of them once, and its values are
reported. -/
lemma isReported_object {members : List (Text × Value)} (names : List Text)
    (names_eq : members.map Prod.fst = names) (hasBytes : ∀ name ∈ names, name.HasBytes)
    (distinct : names.Nodup) {levels : Nat}
    (all : ∀ m ∈ members, m.2.paired.IsMadeOf IsReported levels) :
    (Value.object members).paired.IsMadeOf IsReported (levels + 1) := by
  subst names_eq
  have hasBytes := List.forall_mem_map.1 hasBytes
  refine .paired_object hasBytes distinct fun m mem => ⟨?_, all m mem⟩
  have reported := IsReported.text m.1
  rwa [Json.paired_of_hasBytes (hasBytes m mem)] at reported

lemma isReported_runObject (run : Text × List Text) :
    (runObject run).paired.IsMadeOf IsReported 2 := by
  refine isReported_object ["directory", "flags"] rfl (by decide) (by decide) ?_
  simp only [List.forall_mem_cons, List.not_mem_nil, false_imp_iff, implies_true, and_true]
  refine ⟨.scalar (.text run.1), ?_⟩
  exact .paired_list (List.forall_mem_map.2 fun option _ => .scalar (.text option))

/-- An answer and its candidates are reported, within four levels. -/
lemma isReported_object_answer (a : Answer) (runs : List (Text × List Text)) :
    (a.object runs).paired.IsMadeOf IsReported 4 := by
  refine isReported_object ["file", "database", "match", "directory", "candidates"] rfl
    (by decide) (by decide) ?_
  simp only [List.forall_mem_cons, List.not_mem_nil, false_imp_iff, implies_true, and_true]
  refine ⟨.scalar (.text a.queriedPath), isReported_optional _ 3, isReported_optional _ 3,
    isReported_optional _ 3, ?_⟩
  exact .paired_list (List.forall_mem_map.2 fun run _ => isReported_runObject run)

/-- An answer's document is whole, and what is read of it is the object that tells of the answer, with the
surrogates of its texts paired. -/
lemma parse_render_object (a : Answer) (runs : List (Text × List Text)) {levels more : Nat}
    (four_le : 4 ≤ levels) (four_le' : 4 ≤ more) :
    (Json.render more (a.object runs)).fault? = none ∧
      Json.parse levels (Text.ofChars (Json.render more (a.object runs)).text ++ "\n") =
        .ok (a.object runs).paired := by
  have reported := a.isReported_object_answer runs
  have writable : Json.IsWritable 4 (a.object runs).paired := by
    refine reported.mono fun s reported => ?_
    cases reported with
    | null => trivial
    | text t => exact Json.isSeparable_paired t
  have same : (a.object runs).paired.reread = (a.object runs).paired := by
    refine reported.reread_eq_self fun s reported => ?_
    cases reported with
    | null => rfl
    | text t => rfl
  have blank : ∀ c ∈ Text.ofString "\n", Json.isBlank c = true := by decide
  have read := Json.parse_render_paired_append (writable.of_le four_le) (writable.of_le four_le') blank
  rwa [same] at read

end Answer

namespace Cli

lemma answerDocument_eq {a : Answer} (length_eq : a.candidates.length = a.directories.length)
    (all : Bool) :
    answerDocument a all = .ok (a.object (if all then a.runs else a.runs.take 1)) := by
  have rows_eq (runs : List (Text × List Text)) :
      (runs.zipIdx.map Prod.swap).map (fun row => Answer.runObject row.2) =
        runs.map Answer.runObject := by
    have same : (fun row => Answer.runObject row.2) ∘ Prod.swap =
        Answer.runObject ∘ (Prod.fst : (Text × List Text) × Nat → Text × List Text) := rfl
    rw [List.map_map, same, ← List.map_map, List.zipIdx_map_fst]
  rw [answerDocument, Report.withDirectories_eq length_eq, Answer.object, ← rows_eq]
  rfl

section Shown

variable (env : Env) (args : Arguments) (a : Answer)

/-- The candidates of an answer as arguments ask for them, unless one that should be rewritten cannot be. -/
def Arguments.candidates : Except Fault (List (List Text)) :=
  a.runs.mapM fun (directory, options) =>
    if args.absolute then SearchPath.absolutized env directory options else .ok options

/-- The candidates that arguments ask for, each with the directory it runs in. -/
def Arguments.runs : Except Fault (List (Text × List Text)) :=
  (args.candidates env a).map fun candidates =>
    let runs := a.directories.zip candidates
    if args.all then runs else runs.take 1

/-- The answer that arguments ask for. -/
def Arguments.shown : Except Fault Answer :=
  (args.candidates env a).map fun candidates => { a with candidates }

variable {env args a}

/-- Where a list is read, there is as much as in it. -/
lemma length_of_mapM {α β : Type} {f : α → Except Fault β} {list : List α} {read : List β}
    (read_eq : list.mapM f = .ok read) : read.length = list.length := by
  induction list generalizing read with
  | nil =>
    obtain ⟨⟩ := read_eq
    rfl
  | cons a list ih =>
    rw [List.mapM_cons] at read_eq
    cases first : f a with
    | error fault =>
      rw [first] at read_eq
      exact absurd read_eq (by simp [bind, Except.bind])
    | ok b =>
      cases rest : list.mapM f with
      | error fault =>
        rw [first, rest] at read_eq
        exact absurd read_eq (by simp [bind, Except.bind])
      | ok others =>
        rw [first, rest] at read_eq
        obtain ⟨⟩ := read_eq
        rw [List.length_cons, List.length_cons, ih rest]

variable (length_eq : a.candidates.length = a.directories.length)

include length_eq

/-- Candidates are made absolute by their own directories. -/
lemma shown_eq :
    (if args.absolute then absolutizeAnswer env a else .ok a) = args.shown env a := by
  rw [Arguments.shown, Arguments.candidates]
  cases args.absolute with
  | true =>
    have enough : 0 + a.candidates.length ≤ a.directories.length := by
      rw [Nat.zero_add]
      exact length_eq.le
    have rewritten :=
      Report.mapM_zipIdx (fun _ run => SearchPath.absolutized env run.1 run.2) enough
    have forgotten : (a.runs.zipIdx.mapM fun (run, _) => SearchPath.absolutized env run.1 run.2) =
        a.runs.mapM fun run => SearchPath.absolutized env run.1 run.2 := by
      rw [← List.zipIdx_map_fst 0 a.runs, List.mapM_map, List.zipIdx_map_fst]
      rfl
    exact congrArg (Except.map _) (rewritten.trans forgotten)
  | false =>
    have own : (a.runs.mapM fun run => (.ok run.2 : Except Fault (List Text))) =
        .ok (a.runs.map Prod.snd) := List.mapM_pure
    have all : a.runs.map Prod.snd = a.candidates := List.map_snd_zip length_eq.le
    rw [if_neg Bool.false_ne_true]
    simp only [if_neg Bool.false_ne_true]
    rw [own, all]
    rfl

/-- There are as many candidates as before. -/
lemma length_candidates {candidates : List (List Text)}
    (candidates_eq : args.candidates env a = .ok candidates) :
    candidates.length = a.candidates.length := by
  rw [length_of_mapM candidates_eq, Answer.runs, List.length_zip, length_eq, Nat.min_self]

end Shown

/-- A run that asks for a file: its arguments, the session that answers, and the files as the session
finds them. -/
structure Visit where
  args : Arguments
  file : Text
  settings : Settings
  session : Session
  before : FileSystem

/-- The query of a visit. -/
def Visit.reply (env : Env) (v : Visit) : Session.Reply :=
  v.session.query env v.before (some v.file) v.args.start

/-- Whether a command line is such a run. -/
structure Visits (env : Env) (start : FileSystem) (words : List Text) (v : Visit) : Prop where
  parsed : parse words = .ok (.run v.args)
  noProject : v.args.addProject = none ∧ v.args.removeProject.filter (· ≠ []) = none
  named : v.args.file = some v.file
  ne : v.file ≠ []
  loaded : Settings.load env start = (.ok v.settings, v.before)
  started : Session.ofSettings env v.settings = .ok v.session

section Run

variable {console : Report.Console} {env : Env} {fs files : FileSystem} {words : List Text}
  {args : Arguments} {settings : Settings} {v : Visit} {a : Answer} {fault : Fault} {reply : Session.Reply}

/-- The exit code for an answer: zero if there are candidates, and else one. -/
def code (a : Answer) : Nat := if a.candidates = [] then 1 else 0

lemma code_eq (a : Answer) : (if a.hasFlags then 0 else 1) = code a := by
  rw [code, Answer.hasFlags]
  cases a.candidates with
  | nil => rfl
  | cons options candidates => rfl

/-- The panel of an answer of which some candidates are shown. -/
def panelOf (a : Answer) (runs : List (Text × List Text)) (title : Report.Styled) : Report.Panel :=
  ⟨title, Report.summary a, if a.candidates = [] then none else some (Report.tableOf runs)⟩

section Showing

variable (length_eq : a.candidates.length = a.directories.length)

include length_eq

/-- An answer is not shown if a candidate cannot be made absolute. -/
lemma showAnswer_of_runs_eq_error (failed : args.runs env a = .error fault) :
    showAnswer console env args a files = { exit := .error fault, files } := by
  have untold : args.shown env a = .error fault := by
    rw [Arguments.runs, Json.map_eq_error_iff] at failed
    rw [Arguments.shown, failed]
    rfl
  rw [showAnswer, shown_eq length_eq, untold]

variable {runs : List (Text × List Text)} (runs_eq : args.runs env a = .ok runs)

include runs_eq

/-- Otherwise the answer that is asked for is like it, with the candidates that are asked for. -/
lemma exists_shown_eq : ∃ answer, args.shown env a = .ok answer ∧
    answer.candidates.length = answer.directories.length ∧
    (if args.all then answer.runs else answer.runs.take 1) = runs ∧
    answer.object runs = a.object runs ∧ Report.summary answer = Report.summary a ∧
    (answer.candidates = [] ↔ a.candidates = []) := by
  obtain ⟨candidates, candidates_eq, e⟩ := Json.map_eq_ok_iff.1 runs_eq
  have length := length_candidates length_eq candidates_eq
  have shown : args.shown env a = .ok { a with candidates } := by
    rw [Arguments.shown, candidates_eq]
    rfl
  refine ⟨_, shown, length.trans length_eq, e, rfl, rfl, ?_⟩
  rw [← List.length_eq_zero_iff, ← List.length_eq_zero_iff, length]

/-- An answer that is shown as JSON is shown by its object. -/
lemma exists_showAnswer_of_json (json : args.json = true) :
    ∃ text, showAnswer console env args a files = { exit := .ok (code a), stdout := text, files } ∧
      ∀ levels, 4 ≤ levels → Json.parse levels text = .ok (a.object runs).paired := by
  obtain ⟨answer, shown, length, shown_runs, object_eq, _, none_iff⟩ :=
    exists_shown_eq length_eq runs_eq
  have code_eq : code answer = code a := if_congr none_iff rfl rfl
  have four_le := env.four_le_levels.2
  obtain ⟨whole, _⟩ := Answer.parse_render_object a runs le_rfl four_le
  have text_eq : answerText env answer args.all =
      .ok (Text.ofChars (Json.render env.writeLevels (a.object runs)).text) := by
    rw [answerText, answerDocument_eq length, shown_runs, object_eq]
    dsimp only
    rw [Json.Draft.result, whole]
  refine ⟨_, ?_, fun levels four_le' => (Answer.parse_render_object a runs four_le' four_le).2⟩
  rw [showAnswer, shown_eq length_eq, shown]
  dsimp only
  rw [display, Cli.code_eq, code_eq, if_pos json, text_eq]

/-- Any other answer is shown by its panel, if the console shows that. -/
lemma showAnswer_of_not_json (json : args.json = false) {title : Report.Styled}
    (isTitle : Report.IsTitle title) :
    showAnswer console env args a files =
      match console.panelFault? (panelOf a runs title) with
      | some fault => { exit := .error (.console fault), files }
      | none => { exit := .ok (code a), panel := some (panelOf a runs title), files } := by
  obtain ⟨answer, shown, length, shown_runs, _, summary_eq, none_iff⟩ :=
    exists_shown_eq length_eq runs_eq
  have code_eq : code answer = code a := if_congr none_iff rfl rfl
  have panel_eq := Report.panel_eq isTitle length args.all
  rw [shown_runs, summary_eq, if_congr none_iff rfl rfl] at panel_eq
  rw [showAnswer, shown_eq length_eq, shown]
  dsimp only
  rw [display, Cli.code_eq, code_eq, json, if_neg Bool.false_ne_true, shownPanel, panel_eq]
  dsimp only
  rw [← panelOf]
  cases console.panelFault? (panelOf a runs title) with
  | some fault => rfl
  | none => rfl

end Showing

/-- Why the warning about the log cannot be shown, if there is one. -/
def warningFault? (console : Report.Console) (reply : Session.Reply) : Option ConsoleFault :=
  reply.session.logError.bind fun message =>
    match console.warning (warningMark ++ message) with
    | .ok _ => none
    | .error fault => some fault

/-- A warning that cannot be shown ends the run, and no answer is shown. -/
lemma withWarning_of_fault {fault : ConsoleFault} (refused : warningFault? console reply = some fault)
    (answered : reply.result = .ok a) (outcome : Outcome) :
    withWarning console reply outcome = { exit := .error (.console fault), files := outcome.files } := by
  obtain ⟨message, logError, refused⟩ := Option.bind_eq_some_iff.1 refused
  rw [withWarning, logError]
  dsimp only
  split at refused
  · exact absurd refused (by simp)
  · rename_i unshown
    rw [unshown, ← Option.some.inj refused, answered]
    rfl

/-- Any other warning changes neither the exit code nor what is shown of the answer. -/
lemma exists_withWarning_eq (shown : warningFault? console reply = none) (outcome : Outcome) :
    ∃ stderr, withWarning console reply outcome = { outcome with stderr } := by
  rw [withWarning]
  cases logError : reply.session.logError with
  | none => exact ⟨outcome.stderr, rfl⟩
  | some message =>
    rw [warningFault?, logError, Option.bind_some] at shown
    dsimp only
    split at shown
    · rename_i line shown_eq
      rw [shown_eq]
      exact ⟨line ++ "\n", rfl⟩
    · exact absurd shown (by simp)

/-- A command line that asks for the flags of a file shows what comes of the query. -/
lemma run_eq_withWarning (console : Report.Console) (visits : Visits env fs words v) :
    run console env fs words =
      withWarning console (v.reply env) (showReply console env v.args (v.reply env)) := by
  have filtered : v.args.file.filter (· ≠ []) = some v.file := by
    rw [visits.named, Option.filter_some, if_pos (decide_eq_true visits.ne)]
  rw [run, visits.parsed]
  dsimp only
  rw [perform, visits.loaded]
  dsimp only
  rw [visits.noProject.1, visits.noProject.2, filtered]
  dsimp only
  rw [answerFile, visits.started]
  rfl

/-- A command line that names no file is refused, and so is one with an empty name. -/
lemma run_of_unnamed (console : Report.Console) (parsed : parse words = .ok (.run args))
    (noProject : args.addProject = none ∧ args.removeProject.filter (· ≠ []) = none)
    (unnamed : args.file.filter (· ≠ []) = none)
    (loaded : Settings.load env fs = (.ok settings, files)) :
    run console env fs words = refuse console files := by
  rw [run, parsed]
  dsimp only
  rw [perform, loaded]
  dsimp only
  rw [noProject.1, noProject.2, unnamed]

/-- Where a query for a file gives an answer, the command tells of it, unless a warning of the log cannot be
shown, or a candidate that should be made absolute cannot be, or the console refuses the panel: then the run
ends with that fault. Otherwise the exit code is zero exactly if there are candidates. As JSON the command
writes the object that tells of the answer and of the candidates that the arguments ask for, each with its
directory, where no text of characters is changed. The table of the answer lists the same candidates. -/
theorem run_of_answered (console : Report.Console) (visits : Visits env fs words v)
    (answered : (v.reply env).result = .ok a) :
    let outcome := run console env fs words
    let warned := warningFault? console (v.reply env)
    a.candidates.length = a.directories.length ∧
    (∀ fault, warned = some fault → outcome.exit = .error (.console fault) ∧ outcome.stdout = "" ∧
      outcome.panel = none) ∧
    (∀ fault, warned = none → v.args.runs env a = .error fault → outcome.exit = .error fault ∧
      outcome.stdout = "" ∧ outcome.panel = none) ∧
    (∀ runs, warned = none → v.args.runs env a = .ok runs →
      (v.args.json = true → outcome.exit = .ok (if a.candidates = [] then 1 else 0) ∧
        outcome.panel = none ∧
        ∀ levels, 4 ≤ levels → Json.parse levels outcome.stdout = .ok (a.object runs).paired) ∧
      (v.args.json = false → outcome.stdout = "" ∧ ∃ title, Report.IsTitle title ∧
        (∀ fault, console.panelFault? (panelOf a runs title) = some fault →
          outcome.exit = .error (.console fault) ∧ outcome.panel = none) ∧
        (console.panelFault? (panelOf a runs title) = none →
          outcome.exit = .ok (if a.candidates = [] then 1 else 0) ∧
          outcome.panel = some (panelOf a runs title))) ∧
      ∃ answer, v.args.shown env a = .ok answer ∧
        Report.table answer v.args.all = .ok (Report.tableOf runs)) ∧
    ∀ t : Text, t.HasBytes → Json.paired t = t := by
  have length_eq := Session.length_candidates_of_query answered
  rw [run_eq_withWarning console visits]
  -- the query stays opaque, or matching on its result would compute it
  generalize v.reply env = reply at answered
  dsimp only
  rw [showReply, answered]
  dsimp only
  refine ⟨length_eq, fun fault refused => ?_, fun fault warned failed => ?_,
    fun runs warned runs_eq => ⟨fun json => ?_, fun json => ?_, ?_⟩, fun t => Json.paired_of_hasBytes⟩
  · rw [withWarning_of_fault refused answered]
    exact ⟨rfl, rfl, rfl⟩
  · obtain ⟨stderr, outcome_eq⟩ := exists_withWarning_eq warned _
    rw [outcome_eq, showAnswer_of_runs_eq_error length_eq failed]
    exact ⟨rfl, rfl, rfl⟩
  · obtain ⟨stderr, outcome_eq⟩ := exists_withWarning_eq warned _
    obtain ⟨text, shown, read⟩ := exists_showAnswer_of_json length_eq runs_eq json
    rw [outcome_eq, shown]
    exact ⟨rfl, rfl, read⟩
  · obtain ⟨stderr, outcome_eq⟩ := exists_withWarning_eq warned _
    obtain ⟨title, isTitle⟩ := Report.exists_isTitle
    rw [outcome_eq, showAnswer_of_not_json length_eq runs_eq json isTitle]
    cases refused : console.panelFault? (panelOf a runs title) with
    | some fault =>
      refine ⟨rfl, title, isTitle, fun fault' refused' => ?_, fun none => ?_⟩
      · obtain rfl := Option.some.inj (refused.symm.trans refused')
        exact ⟨rfl, rfl⟩
      · exact absurd (refused.symm.trans none) (by simp)
    | none =>
      refine ⟨rfl, title, isTitle, fun fault' refused' => ?_, fun _ => ⟨rfl, rfl⟩⟩
      exact absurd (refused.symm.trans refused') (by simp)
  · obtain ⟨answer, shown_eq, length, shown_runs, _⟩ := exists_shown_eq length_eq runs_eq
    refine ⟨answer, shown_eq, ?_⟩
    rw [Report.table_eq length, shown_runs]

end Run

/-- A text as a console shows it, where it has no marks but that of its heading. -/
def unmarked (t : Text) : Text :=
  if List.isPrefixOf errorMark t then "Error: " ++ t.drop errorMark.length
  else if List.isPrefixOf warningMark t then "Warning: " ++ t.drop warningMark.length
  else t

/-- Why a console refuses a text in which a mark of one letter is closed that has not been opened. -/
def closingFault? (position : Nat) : Text → Option ConsoleFault
  | .char '[' :: .char '/' :: letter :: .char ']' :: _ =>
    some ⟨"MarkupError", "closing tag '[/" ++ [letter] ++ "]' at position " ++ toString position ++
      " doesn't match any open tag"⟩
  | _ :: rest => closingFault? (position + 1) rest
  | [] => none

/-- What a console shows of the texts below. -/
def markConsole : Report.Console where
  message t := (closingFault? 0 t).elim (.ok (unmarked t)) .error
  warning t := (closingFault? 0 t).elim (.ok (unmarked t)) .error
  panelFault? panel := panel.table.bind fun t => t.rows.flatten.findSome? (closingFault? 0)

/-- A text is shown in which nothing is closed. -/
lemma message_markConsole {t shown : Text} (unclosed : closingFault? 0 t = none)
    (unmarked_eq : unmarked t = shown) : markConsole.message t = .ok shown := by
  have message_eq : markConsole.message t = (closingFault? 0 t).elim (.ok (unmarked t)) .error := rfl
  rw [message_eq, unclosed, unmarked_eq]
  rfl

/-- A warning is refused in which something is closed. -/
lemma warning_markConsole {t : Text} {fault : ConsoleFault} (closed : closingFault? 0 t = some fault) :
    markConsole.warning t = .error fault := by
  have warning_eq : markConsole.warning t = (closingFault? 0 t).elim (.ok (unmarked t)) .error := rfl
  rw [warning_eq, closed]
  rfl

/-- A panel is refused with the first cell of its table in which something is closed. -/
lemma panelFault?_markConsole {panel : Report.Panel} {table : Report.Table}
    (table_eq : panel.table = some table) :
    markConsole.panelFault? panel = table.rows.flatten.findSome? (closingFault? 0) := by
  have fault_eq : markConsole.panelFault? panel =
      panel.table.bind fun t => t.rows.flatten.findSome? (closingFault? 0) := rfl
  rw [fault_eq, table_eq]
  rfl

/-- A run that asks for the file from the current directory, in JSON with absolute directories or in a
panel with the directories as they are. -/
def workVisit (absolute : Bool) (database : ByteArray) : Visit where
  args := { file := some "/w/a", start := some ".", absolute, json := absolute }
  file := "/w/a"
  settings := workSession.settings
  session := workSession
  before := workFiles database

lemma visits_work {words : List Text} (absolute : Bool) (database : ByteArray)
    (parsed : parse words = .ok (.run (workVisit absolute database).args)) :
    Visits workEnv (workFiles database) words (workVisit absolute database) where
  parsed := parsed
  noProject := ⟨rfl, rfl⟩
  named := rfl
  ne := (by decide : Text.ofString "/w/a" ≠ [])
  loaded := load_workFiles database
  started := ofSettings_workSession

lemma visits_work_panel (database : ByteArray) :
    Visits workEnv (workFiles database) ["--start", ".", "/w/a"] (workVisit false database) :=
  visits_work false database (by cbv)

/-- The candidate of the answer with the directory it runs in. -/
lemma runs_markedAnswer (absolute : Bool) (database : ByteArray) :
    (workVisit absolute database).args.runs workEnv markedAnswer =
      .ok [("/w", ["-DX=[/b]", if absolute then "-I/w/inc" else "-Iinc"])] := by
  have runs_eq : Arguments.runs workEnv { absolute } markedAnswer =
      .ok [("/w", ["-DX=[/b]", if absolute then "-I/w/inc" else "-Iinc"])] := by
    cases absolute with
    | true => decide +kernel
    | false => decide +kernel
  exact runs_eq

/-- The warning about the log is shown. -/
lemma warningFault?_workSession (database : ByteArray) : warningFault? markConsole
    (workSession.query workEnv (workFiles database) (some "/w/a") (some ".")) = none := by
  have normal : Path.IsNormal "/w/a" := ⟨rfl, by cbv⟩
  have told := Session.logError_query_of_append_eq_error (some ".") rfl (by decide)
    (Path.ofUser_of_isNormal normal) (by cbv) (append_workLog database .empty)
  rw [warningFault?, told]
  decide +kernel

/-- The document of an answer tells of marks as of any text. -/
theorem run_of_answered_markedCommand :
    let outcome := run markConsole workEnv (workFiles markedCommand.toUTF8)
      ["--json", "--absolute", "--start", ".", "/w/a"]
    outcome.exit = .ok 0 ∧
      Json.parse 4 outcome.stdout = .ok (markedAnswer.object [("/w", ["-DX=[/b]", "-I/w/inc"])]) := by
  have object_eq : (markedAnswer.object [("/w", ["-DX=[/b]", "-I/w/inc"])]).paired =
      markedAnswer.object [("/w", ["-DX=[/b]", "-I/w/inc"])] := rfl
  have visits : Visits workEnv (workFiles markedCommand.toUTF8)
      ["--json", "--absolute", "--start", ".", "/w/a"] (workVisit true markedCommand.toUTF8) :=
    visits_work true _ (by cbv)
  obtain ⟨_, _, _, shown, _⟩ := run_of_answered markConsole visits result_query_markedCommand
  obtain ⟨exit, _, read⟩ := (shown _ (warningFault?_workSession _) (runs_markedAnswer true _)).1 rfl
  exact ⟨exit, (read 4 le_rfl).trans (congrArg Except.ok object_eq)⟩

/-- A command line with an empty name of a file is refused, in words that are no JSON. -/
lemma run_emptyFile (database : ByteArray) :
    let outcome := run markConsole workEnv (workFiles database) ["--json", ""]
    outcome.exit = .ok 1 ∧ ∀ v, Json.parse 990 outcome.stdout ≠ .ok v := by
  let args : Arguments := { file := some "", json := true }
  let error : Text := "Error: No source file specified."
  let hint : Text := "Usage: cdbflags <file> [--start DIR]"
  have parsed : parse ["--json", ""] = .ok (.run args) := by cbv
  have error_eq : markConsole.message (errorMark ++ "No source file specified.") = .ok error :=
    message_markConsole (by decide +kernel) (by decide +kernel)
  have hint_eq : markConsole.message hint = .ok hint :=
    message_markConsole (by decide +kernel) (by decide +kernel)
  have isNoValue : (Json.parse 990 (error ++ "\n" ++ (hint ++ "\n"))).toOption.isSome = false := by
    decide +kernel
  rw [run_of_unnamed markConsole parsed ⟨rfl, rfl⟩ rfl (load_workFiles database), refuse, error_eq,
    hint_eq]
  refine ⟨rfl, fun v read => ?_⟩
  have some_eq := congrArg (·.toOption.isSome) read
  exact absurd (isNoValue.symm.trans some_eq) (by simp [Except.toOption])

/-- A document that sets a log file in a directory whose name looks like a mark. -/
def markedDocument : String := "\x7b\"log_file\":\"/[/x]/q.log\"\x7d"

/-- Files with that document. -/
def markedFiles : FileSystem := Settings.homeFiles (some markedDocument.toUTF8)

/-- The session among these files. -/
def markedSession : Session :=
  ⟨⟨"/h/.cdbflags", OrderedMap.put "log_file" (.text "/[/x]/q.log") SettingValues.defaults⟩,
    "/[/x]/q.log", none⟩

lemma load_markedFiles :
    Settings.load Settings.homeEnv markedFiles = (.ok markedSession.settings, markedFiles) := by
  have parsed : Json.parse 990 (Text.unifyNewlines (Text.ofString markedDocument)) =
      .ok (.object [("log_file", .text "/[/x]/q.log")]) := by cbv
  have read := Settings.readFile_of_parse (Settings.read_homeFiles markedDocument.toUTF8)
    (Text.decodeUtf8_toUTF8 markedDocument) parsed
  exact Settings.load_eq_ok_iff.2 ⟨by cbv, Settings.ensureDirectories_homeFiles _, read⟩

lemma ofSettings_markedSession :
    Session.ofSettings Settings.homeEnv markedSession.settings = .ok markedSession := by
  have setting : markedSession.settings.values.get "log_file" = .text markedSession.logFile := by cbv
  have isTrue : (Value.text markedSession.logFile).isTrue = true := rfl
  have tidy : Path.expandTidy Settings.homeEnv markedSession.logFile = .ok markedSession.logFile := by
    cbv
  rw [Session.ofSettings, Settings.logPath, setting]
  dsimp only
  rw [if_pos isTrue, tidy]
  rfl

lemma append_markedSession (document content : ByteArray) :
    (Settings.homeFiles (some document)).append Settings.homeEnv.cwd markedSession.logFile content =
      .error (.system .notFound "/[/x]/q.log") := by
  cbv

/-- There is no database for a file in these directories. -/
lemma locateDatabase_homeFiles (document : ByteArray) : locateDatabase Settings.homeEnv
    (Settings.homeFiles (some document)) (some "/a") (some "/a") [] (.text databaseName) =
      .ok none := by
  have registered : registeredFor Settings.homeEnv (Settings.homeFiles (some document)) (some "/a") [] =
      .ok none := rfl
  have normal : Path.absolute Settings.homeEnv "/a" = "/a" := by cbv
  have other : (Settings.homeFiles (some document)).isDirectory Settings.homeEnv.cwd "/a" = false := by
    cbv
  have parent : Path.parent "/a" = "/" := by cbv
  have directory : searchDirectory Settings.homeEnv (Settings.homeFiles (some document)) "/a" = "/" := by
    rw [searchDirectory, normal, other, parent]
    rfl
  have candidates : (Path.ancestors "/").map (Path.join · databaseName) =
      [("/compile_commands.json" : Text)] := by cbv
  have isFile : (Settings.homeFiles (some document)).isFile Settings.homeEnv.cwd
      "/compile_commands.json" = false := by cbv
  have start : searchStart (some "/a") (some "/a") = "/a" := rfl
  have absolute : Path.isLocatable Settings.homeEnv "/a" = true := rfl
  rw [locateDatabase, registered, start]
  dsimp only
  rw [if_pos absolute, findDatabase?, directory, candidates, List.find?_singleton, isFile]
  rfl

lemma find_markedSession : markedSession.settings.values.find Settings.homeEnv markedFiles "/a" "/a" =
    ⟨.ok { queriedPath := "/a", searchStart := "/a" }, ["No compilation database found"]⟩ := by
  have registered : markedSession.settings.values.registered = [] := by cbv
  have name : markedSession.settings.values.get "database_name" = .text databaseName := by cbv
  refine SettingValues.find_of_located_none ?_
  rw [registered, name]
  exact locateDatabase_homeFiles _

lemma result_query_marked :
    (markedSession.query Settings.homeEnv markedFiles (some "/a") none).result =
      .ok { queriedPath := "/a", searchStart := "/a" } := by
  have normal : Path.IsNormal "/a" := ⟨rfl, by cbv⟩
  have answered : (markedSession.query Settings.homeEnv markedFiles (some "/a") none).result =
      (markedSession.settings.values.find Settings.homeEnv markedFiles "/a" "/a").result :=
    Session.result_query_of_append_eq_error (by decide) (Path.ofUser_of_isNormal normal) (by cbv) rfl
      (append_markedSession markedDocument.toUTF8 .empty)
  exact answered.trans (congrArg Finding.result find_markedSession)

/-- The warning about that log is refused, since a mark is closed in it. -/
lemma exists_run_marked : ∃ fault,
    (run markConsole Settings.homeEnv markedFiles ["--json", "/a"]).exit = .error (.console fault) := by
  let v : Visit := ⟨{ file := some "/a", json := true }, "/a", markedSession.settings, markedSession,
    markedFiles⟩
  have visits : Visits Settings.homeEnv markedFiles ["--json", "/a"] v :=
    ⟨by cbv, ⟨rfl, rfl⟩, rfl, by decide, load_markedFiles, ofSettings_markedSession⟩
  have normal : Path.IsNormal "/a" := ⟨rfl, by cbv⟩
  have told : (v.reply Settings.homeEnv).session.logError = _ :=
    Session.logError_query_of_append_eq_error none rfl (by decide) (Path.ofUser_of_isNormal normal)
      (by cbv) (append_markedSession markedDocument.toUTF8 .empty)
  obtain ⟨fault, refused⟩ : ∃ fault, closingFault? 0 (warningMark ++
      ("Cannot write log file " ++ markedSession.logFile ++ ": " ++
        (AccessFault.system .notFound "/[/x]/q.log").message)) = some fault :=
    Option.isSome_iff_exists.1 (by decide +kernel)
  have warned : warningFault? markConsole (v.reply Settings.homeEnv) = some fault := by
    rw [warningFault?, told, Option.bind_some, warning_markConsole refused]
  refine ⟨fault, ?_⟩
  rw [run_eq_withWarning markConsole visits, withWarning_of_fault warned result_query_marked]

/-- The panel of that answer is refused, since a mark is closed in its table. -/
lemma exists_run_markedCommand : ∃ fault,
    (run markConsole workEnv (workFiles markedCommand.toUTF8) ["--start", ".", "/w/a"]).exit =
      .error (.console fault) := by
  let v := workVisit false markedCommand.toUTF8
  have visits : Visits workEnv (workFiles markedCommand.toUTF8) ["--start", ".", "/w/a"] v :=
    visits_work_panel _
  obtain ⟨title, isTitle⟩ := Report.exists_isTitle
  obtain ⟨fault, refused⟩ : ∃ fault, markConsole.panelFault?
      (panelOf markedAnswer [("/w", ["-DX=[/b]", "-Iinc"])] title) = some fault := by
    have table_eq : (panelOf markedAnswer [("/w", ["-DX=[/b]", "-Iinc"])] title).table =
        some (Report.tableOf [("/w", ["-DX=[/b]", "-Iinc"])]) := rfl
    rw [panelFault?_markConsole table_eq]
    exact Option.isSome_iff_exists.1 (by cbv)
  have answered : (v.reply workEnv).result = .ok markedAnswer := result_query_markedCommand
  have warned : warningFault? markConsole (v.reply workEnv) = none := warningFault?_workSession _
  have runs_eq : v.args.runs workEnv markedAnswer = .ok [("/w", ["-DX=[/b]", "-Iinc"])] :=
    runs_markedAnswer false _
  obtain ⟨stderr, outcome_eq⟩ := exists_withWarning_eq warned
    (showAnswer markConsole workEnv v.args markedAnswer (v.reply workEnv).files)
  refine ⟨fault, ?_⟩
  rw [run_eq_withWarning markConsole visits, showReply, answered]
  dsimp only
  rw [outcome_eq, showAnswer_of_not_json rfl runs_eq rfl isTitle, refused]

/-- Where a query is answered the command may tell something else. For an empty name of a file it tells that
there is none. And where a mark seems to be closed in a warning, or in an option without JSON, the run ends
with a fault of the console. -/
theorem run_untold :
    ((workSession.query workEnv (workFiles markedCommand.toUTF8) (some "") none).result = .ok {} ∧
      (run markConsole workEnv (workFiles markedCommand.toUTF8) ["--json", ""]).exit = .ok 1 ∧
      ∀ v, Json.parse 990 (run markConsole workEnv (workFiles markedCommand.toUTF8)
        ["--json", ""]).stdout ≠ .ok v) ∧
    (∃ fault, (markedSession.query Settings.homeEnv markedFiles (some "/a") none).result =
        .ok { queriedPath := "/a", searchStart := "/a" } ∧
      (run markConsole Settings.homeEnv markedFiles ["--json", "/a"]).exit =
        .error (.console fault)) ∧
    ∃ fault, (workSession.query workEnv (workFiles markedCommand.toUTF8) (some "/w/a")
        (some ".")).result = .ok markedAnswer ∧
      (run markConsole workEnv (workFiles markedCommand.toUTF8) ["--start", ".", "/w/a"]).exit =
        .error (.console fault) := by
  refine ⟨?_, ?_, ?_⟩
  · exact ⟨Session.result_query_of_unnamed rfl, run_emptyFile _⟩
  · obtain ⟨fault, refused⟩ := exists_run_marked
    exact ⟨fault, result_query_marked, refused⟩
  · obtain ⟨fault, refused⟩ := exists_run_markedCommand
    exact ⟨fault, result_query_markedCommand, refused⟩

end Cli

end CompileFlags
