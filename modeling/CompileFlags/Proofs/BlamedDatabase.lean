import CompileFlags.Proofs.HardFaults
import CompileFlags.Proofs.Report

/-!
# Blamed databases

A command that comes to a database that is not read ends with the exit code for that exactly if the database
is to blame, its path can be logged, and the console shows what is told of it and a warning about the log;
then it shows just that (`Cli.Tells`, `Database.loadsOrBlames_iff`).
-/

namespace CompileFlags

variable {console : Report.Console} {env : Env} {fs : FileSystem} {path : Text}

namespace Cli

variable {words : List Text}

/-- Whether the search of a visit for the database comes to a path, among these files. -/
def Visit.ComesTo (env : Env) (v : Visit) (fs : FileSystem) (path : Text) : Prop :=
  ∃ asked place, v.session.Begins env v.before (some v.file) v.args.start asked place fs ∧
    locateDatabase env fs (some asked) (some place) v.settings.values.registered
      (v.settings.values.get "database_name") = .ok (some path)

/-- What is told of a database that is to blame. -/
def blame (path : Text) (cause : DatabaseCause) : Text :=
  errorMark ++ (Fault.database path cause).message

/-- What is told of a database has bytes if its path has. -/
lemma hasBytes_loadError {cause : DatabaseCause} :
    (("Load Error: " : Text) ++ (Fault.database path cause).message).HasBytes ↔ path.HasBytes := by
  simp [Fault.message]

/-- A query that comes to a database that is to blame says so, if that can be logged. -/
lemma Visits.result_reply {start : FileSystem} {v : Visit} {cause : DatabaseCause}
    (visits : Visits env start words v) (comes : v.ComesTo env fs path)
    (blamed : Database.load env fs path = .error (.database path cause)) :
    (v.session.Tolerates env fs path → (v.reply env).result = .error (.database path cause)) ∧
      (¬ v.session.Tolerates env fs path → ∃ fault, (v.reply env).result = .error (.access fault)) := by
  obtain ⟨asked, place, begins, located⟩ := comes
  have found : v.session.settings.values.find env fs asked place =
      ⟨.error (.database path cause), ["Load Error: " ++ (Fault.database path cause).message]⟩ := by
    rw [SettingValues.find, Session.settings_of_ofSettings visits.started, located]
    dsimp only
    rw [blamed]
  let s := (v.session.log env v.before (v.session.opening asked place)).1
  have tolerates_iff : s.Tolerates env fs ("Load Error: " ++ (Fault.database path cause).message) ↔
      v.session.Tolerates env fs path := by
    rw [Session.Tolerates, Session.Tolerates, hasBytes_loadError, Session.logFile_log]
  rw [Visit.reply, begins.result_query, found]
  dsimp only
  constructor
  · intro tolerated
    have closed := Session.fault_log_cons_of_tolerates (tolerates_iff.2 tolerated)
      (List.forall_mem_nil _)
    rw [closed]
  · intro refused
    obtain ⟨fault, closed⟩ := Session.fault_log_cons_of_not_tolerates (mt tolerates_iff.1 refused)
    exact ⟨_, by rw [closed]⟩

/-- A query that comes to a database that is not read for another reason ends with that. -/
lemma Visits.result_reply_of_other {start : FileSystem} {v : Visit} {fault : Fault}
    (visits : Visits env start words v) (comes : v.ComesTo env fs path)
    (failed : Database.load env fs path = .error fault)
    (other : ∀ p cause, fault ≠ .database p cause) : (v.reply env).result = .error fault := by
  obtain ⟨asked, place, begins, located⟩ := comes
  have found : v.session.settings.values.find env fs asked place = ⟨.error fault, []⟩ := by
    rw [SettingValues.find, Session.settings_of_ofSettings visits.started, located]
    dsimp only
    rw [failed]
    split
    · rename_i e
      exact absurd (Except.error.inj e) (other _ _)
    · rename_i e
      rw [Except.error.inj e]
    · rename_i e
      exact absurd e (by simp)
  rw [Visit.reply, begins.result_query, found]
  rfl

/-- A database that is to blame is the one that is read. -/
lemma path_eq_of_load {p : Text} {cause : DatabaseCause}
    (failed : Database.load env fs path = .error (.database p cause)) : p = path := by
  obtain ⟨_, promised⟩ | ⟨_, fault, failed', other⟩ := Database.load_cases env fs path
  · obtain ⟨_, e⟩ := promised.blames _ failed
    exact (Fault.database.inj e).1
  · exact absurd (Except.error.inj (failed'.symm.trans failed)) (other p cause)

/-- A warning after a fault leaves what is shown otherwise, and lets the exit code stand exactly if it can be
shown. -/
lemma withWarning_of_error {reply : Session.Reply} {fault : Fault} (result : reply.result = .error fault)
    (outcome : Outcome) : (withWarning console reply outcome).stdout = outcome.stdout ∧
      ∀ code, (withWarning console reply outcome).exit = .ok code ↔
        outcome.exit = .ok code ∧ warningFault? console reply = none := by
  rw [withWarning, warningFault?]
  cases reply.session.logError with
  | none => simp
  | some message =>
    rw [Option.bind_some]
    dsimp only
    cases console.warning (warningMark ++ message) with
    | ok line => simp [consoleLine]
    | error failed => simp [consoleLine, result]

/-- A message ends the run with its code exactly if it can be shown. -/
lemma exit_finish_iff {code : Nat} {message : Text} {files : FileSystem} :
    (finish console code message files).exit = .ok code ↔
      ∃ line, consoleLine (console.message message) = .ok line := by
  rw [finish]
  cases consoleLine (console.message message) with
  | ok line => exact iff_of_true rfl ⟨line, rfl⟩
  | error fault => exact iff_of_false (by simp) (by simp)

/-- What comes of a query that fails is shown with the exit code for databases exactly if a database is to
blame, and what is told of it and a warning about the log can be shown. -/
lemma exit_showReply_iff {args : Arguments} {reply : Session.Reply} {fault : Fault}
    (result : reply.result = .error fault) :
    (withWarning console reply (showReply console env args reply)).exit = .ok 2 ↔ ∃ p cause line,
      fault = .database p cause ∧ consoleLine (console.message (blame p cause)) = .ok line ∧
        warningFault? console reply = none := by
  rw [(withWarning_of_error result _).2, showReply, result]
  cases fault with
  | database p cause =>
    constructor
    · rintro ⟨ended, warned⟩
      obtain ⟨line, shown⟩ := exit_finish_iff.1 ended
      exact ⟨p, cause, line, rfl, shown, warned⟩
    · rintro ⟨_, _, line, ⟨⟩, shown, warned⟩
      exact ⟨exit_finish_iff.2 ⟨line, shown⟩, warned⟩
  | _ => exact iff_of_false (by simp) (by simp)

/-- A query that blames a database shows the line about it. -/
lemma stdout_showReply {args : Arguments} {reply : Session.Reply} {cause : DatabaseCause} {line : Text}
    (result : reply.result = .error (.database path cause))
    (shown : consoleLine (console.message (blame path cause)) = .ok line) :
    (withWarning console reply (showReply console env args reply)).stdout = line := by
  have shown_eq : showReply console env args reply = finish console 2 (blame path cause) reply.files := by
    rw [showReply, result, blame]
  rw [(withWarning_of_error result _).1, shown_eq, finish, shown]

/-- Whether a run that comes to a database that is not read tells of it with the line: the database is to
blame, its path can be logged, and the console shows what is told of it and a warning about the log. -/
structure Tells (console : Report.Console) (env : Env) (v : Visit) (fs : FileSystem) (path : Text)
    (fault : Fault) (line : Text) : Prop where
  blames : ∃ cause, fault = .database path cause ∧
    consoleLine (console.message (blame path cause)) = .ok line
  tolerates : v.session.Tolerates env fs path
  warned : warningFault? console (v.reply env) = none

/-- A run that comes to a database that is not read ends with the exit code for that exactly if it tells
of it, and then shows the line. -/
lemma exit_run_iff {start : FileSystem} {v : Visit} {fault : Fault} (console : Report.Console)
    (visits : Visits env start words v) (comes : v.ComesTo env fs path)
    (failed : Database.load env fs path = .error fault) :
    ((run console env start words).exit = .ok 2 ↔ ∃ line, Tells console env v fs path fault line) ∧
      ∀ line, Tells console env v fs path fault line → (run console env start words).stdout = line := by
  rw [run_eq_withWarning console visits]
  by_cases blames : ∃ p cause, fault = .database p cause
  · obtain ⟨p, cause, rfl⟩ := blames
    obtain rfl := path_eq_of_load failed
    obtain ⟨told, untold⟩ := visits.result_reply comes failed
    refine ⟨⟨fun ended => ?_, ?_⟩, ?_⟩
    · by_cases tolerated : v.session.Tolerates env fs p
      · obtain ⟨_, _, line, ⟨⟩, shown, warned⟩ := (exit_showReply_iff (told tolerated)).1 ended
        exact ⟨line, ⟨cause, rfl, shown⟩, tolerated, warned⟩
      · obtain ⟨fault, result⟩ := untold tolerated
        obtain ⟨_, _, _, e, _⟩ := (exit_showReply_iff result).1 ended
        exact absurd e (by simp)
    · rintro ⟨line, ⟨_, ⟨⟩, shown⟩, tolerated, warned⟩
      exact (exit_showReply_iff (told tolerated)).2 ⟨p, cause, line, rfl, shown, warned⟩
    · rintro line ⟨⟨_, ⟨⟩, shown⟩, tolerated, _⟩
      exact stdout_showReply (told tolerated) shown
  · have other (p : Text) (cause : DatabaseCause) : fault ≠ .database p cause :=
      fun e => blames ⟨p, cause, e⟩
    refine ⟨(exit_showReply_iff (visits.result_reply_of_other comes failed other)).trans ?_, ?_⟩
    · refine iff_of_false ?_ ?_
      · rintro ⟨p, cause, _, e, _⟩
        exact other p cause e
      rintro ⟨_, ⟨cause, e, _⟩, _⟩
      exact other path cause e
    · rintro line ⟨⟨cause, e, _⟩, _⟩
      exact absurd e (other path cause)

end Cli

/-- When loading a database does what is promised. It gives a database exactly for an array, and else
the database is to blame, exactly if the path can be passed to the system, the text goes beyond no limit, and
the paths of the array can be resolved. A command that comes to a database that is not read ends with the exit
code for that exactly if the database is to blame, its path can be logged, and the console shows what is told
of it and a warning about the log; then it shows just that line. -/
theorem Database.loadsOrBlames_iff (console : Report.Console) (env : Env) (fs : FileSystem)
    (path : Text) :
    (LoadsOrBlames env fs path ↔ IsLoadable env fs path) ∧
    ∀ start words v fault, Cli.Visits env start words v → v.ComesTo env fs path →
      load env fs path = .error fault →
      ((Cli.run console env start words).exit = .ok 2 ↔
        ∃ line, Cli.Tells console env v fs path fault line) ∧
      ∀ line, Cli.Tells console env v fs path fault line →
        (Cli.run console env start words).stdout = line :=
  ⟨loadsOrBlames_iff_isLoadable, fun _ _ _ _ visits comes failed =>
    Cli.exit_run_iff console visits comes failed⟩

namespace Cli

/-- The search for the database comes to it, whatever it holds. -/
lemma comesTo_work (database : ByteArray) :
    (workVisit false database).ComesTo workEnv (workFiles database) "/w/compile_commands.json" := by
  have normal : Path.IsNormal "/w/a" := ⟨rfl, by cbv⟩
  have usable : FileSystem.pathFault? workSession.logFile = none := by cbv
  have located : locateDatabase workEnv (workFiles database) (some "/w/a") (some ".") []
      (.text databaseName) = .ok (some "/w/compile_commands.json") := by cbv
  have opened : (workSession.log workEnv (workFiles database) (workSession.opening "/w/a" ".")).2 =
      (workFiles database, none) :=
    Session.log_of_append_eq_error (append_workLog database .empty)
  exact ⟨"/w/a", ".", ⟨⟨"/w/a", rfl, by decide, Path.ofUser_of_isNormal normal⟩, rfl, usable,
    opened⟩, located⟩

end Cli

namespace Database

/-- The path of the database. -/
def workPath : Text := "/w/compile_commands.json"

/-- The database is read as it is. -/
lemma read_workPath (database : ByteArray) :
    (workFiles database).read workEnv.cwd workPath = .ok database := by
  cbv

/-- An object is to blame, and the command tells of it. -/
theorem loadsOrBlames_iff_object :
    let fs := workFiles "\x7b\x7d".toUTF8
    LoadsOrBlames workEnv fs workPath ∧
      (Cli.run Cli.markConsole workEnv fs ["--start", ".", "/w/a"]).exit = .ok 2 := by
  intro fs
  have read : fs.read workEnv.cwd workPath = .ok "\x7b\x7d".toUTF8 := read_workPath _
  have object : Json.parse 989 (Text.unifyNewlines (Text.ofString "\x7b\x7d")) = .ok (.map []) := by cbv
  have levels : workEnv.readLevels - 1 = 989 := rfl
  have blamed : load workEnv fs workPath = .error (.database workPath .notArray) := by
    rw [load_of_read read, ofText, levels, object]
  obtain ⟨loads, tells⟩ := loadsOrBlames_iff Cli.markConsole workEnv fs workPath
  refine ⟨loads.2 ⟨by cbv, fun s read' limit goes => ?_, fun s items read' array => ?_⟩, ?_⟩
  · obtain rfl : s = "\x7b\x7d" := String.toByteArray_inj.1 (Except.ok.inj (read'.symm.trans read))
    exact absurd (object.symm.trans (Json.parse_eq_limit_iff.2 goes)) (by simp)
  · obtain rfl : s = "\x7b\x7d" := String.toByteArray_inj.1 (Except.ok.inj (read'.symm.trans read))
    exact absurd (object.symm.trans array) (by simp)
  · have shown : Cli.markConsole.message (Cli.blame workPath .notArray) =
        .ok (Cli.unmarked (Cli.blame workPath .notArray)) :=
      Cli.message_markConsole (by decide +kernel) rfl
    let line := Cli.unmarked (Cli.blame workPath .notArray) ++ "\n"
    have tells := tells _ _ _ _ (Cli.visits_work_panel _) (Cli.comesTo_work _) blamed
    refine tells.1.2 ⟨line, ⟨.notArray, rfl, ?_⟩, ?_, ?_⟩
    · exact congrArg Cli.consoleLine shown
    · exact .inr ⟨_, append_workLog _ .empty⟩
    · exact Cli.warningFault?_workSession _

/-- An integer of so many ones. -/
def ones (count : Nat) : Text := List.replicate count (.char '1')

/-- The digits may stand in front of a point. -/
lemma isWholePart_ones {count : Nat} (pos : 0 < count) : Json.IsWholePart (ones count) := by
  have ne : ones count ≠ [] := by
    rw [ones, Ne, List.replicate_eq_nil_iff]
    exact pos.ne'
  refine ⟨⟨ne, fun d mem => ?_⟩, .inr ?_⟩
  · rw [List.eq_of_mem_replicate mem]
    rfl
  · rw [ones, List.head?_replicate, if_neg pos.ne']
    decide

/-- An array of one integer with so many digits. -/
def longArray (count : Nat) : String := String.ofList ('[' :: (List.replicate count '1' ++ [']']))

/-- No line ends in the array. -/
lemma unifyNewlines_longArray (count : Nat) :
    Text.unifyNewlines (longArray count) = .char '[' :: (ones count ++ [.char ']']) := by
  have text_eq : Text.ofString (longArray count) = .char '[' :: (ones count ++ [.char ']']) := by
    rw [Text.ofString, longArray, String.toList_ofList, ones]
    simp
  rw [text_eq]
  refine Text.unifyNewlines_of_not_mem ?_
  simp [ones]

/-- It is an array. -/
lemma isArray_longArray {count : Nat} (pos : 0 < count) :
    Json.IsArray Json.Any (Text.unifyNewlines (longArray count)) := by
  have none : Json.IsGap [] := List.forall_mem_nil _
  have isUnsigned : Json.IsUnsigned Json.Any (ones count) := by
    simpa using Json.IsUnsigned.parts (isWholePart_ones pos) (.inl rfl) (.inl rfl)
      fun _ _ => (trivial : Json.Any (ones count).length)
  have item : Json.Conforms Json.Any 0 .value (ones count) :=
    .number ⟨[], ones count, rfl, .inl rfl, isUnsigned⟩
  rw [unifyNewlines_longArray]
  exact ⟨1, _, ⟨[], [], (List.append_nil _).symm, none, none, .array none none (.lastItem item)⟩, rfl⟩

/-- Reading the array goes beyond the limit of digits, if its integer has too many. -/
lemma goesBeyond_longArray {count : Nat} (long : ¬ Json.Short count) (levels : Nat) :
    Json.GoesBeyond (levels + 1) (.tooManyDigits count) (Text.unifyNewlines (longArray count)) := by
  have none : Json.IsGap [] := List.forall_mem_nil _
  have pos : 0 < count := Nat.pos_of_ne_zero fun zero => long (zero ▸ Nat.zero_le _)
  have ends : ¬ Json.GoesOn [.char ']'] := by
    rintro (⟨head, isDigit_d⟩ | ⟨⟨_, rfl, _⟩, begins⟩ | ⟨⟨_, _, _, rfl, isMark, _⟩, begins⟩)
    · obtain rfl := Option.some.inj head
      exact absurd isDigit_d (by decide)
    · exact absurd (List.cons_prefix_cons.1 begins).1 (by decide)
    · obtain ⟨rfl, _⟩ := List.cons_prefix_cons.1 begins
      exact absurd isMark (by decide)
  rw [unifyNewlines_longArray]
  exact ⟨[], _, rfl, none, levels, [.char '['], _, rfl, .array none (.firstItem .here),
    .long ⟨[], ones count, _, rfl, .inl rfl, isWholePart_ones pos, List.length_replicate, long, ends⟩⟩

/-- An array of one integer with a digit more than can be read is an array, but it gives no database and
is not to blame, and the command does not tell of it. -/
theorem load_longArray :
    let fs := workFiles (longArray 4301).toUTF8
    fs.read workEnv.cwd workPath = .ok (longArray 4301).toUTF8 ∧
      Json.IsArray Json.Any (Text.unifyNewlines (longArray 4301)) ∧
      load workEnv fs workPath = .error (.tooManyDigits 4301) ∧
      ¬ LoadsOrBlames workEnv fs workPath ∧
      ∀ console, (Cli.run console workEnv fs ["--start", ".", "/w/a"]).exit ≠ .ok 2 := by
  intro fs
  have long : ¬ Json.Short 4301 := by
    rw [Json.Short, Text.maxDigits]
    omega
  have read : fs.read workEnv.cwd workPath = .ok (longArray 4301).toUTF8 := read_workPath _
  have parsed := Json.parse_eq_limit_iff.2 (goesBeyond_longArray long 988)
  have levels : workEnv.readLevels - 1 = 988 + 1 := rfl
  have failed : load workEnv fs workPath = .error (.tooManyDigits 4301) := by
    rw [load_of_read read, ofText, levels, parsed]
    rfl
  refine ⟨read, isArray_longArray (by omega), failed, fun promised => ?_, fun console ended => ?_⟩
  · obtain ⟨cause, e⟩ := promised.blames _ failed
    exact absurd e (by simp)
  · obtain ⟨line, ⟨cause, e, _⟩, _⟩ := (Cli.exit_run_iff console (Cli.visits_work_panel _)
      (Cli.comesTo_work _) failed).1.1 ended
    exact absurd e (by simp)

end Database

end CompileFlags
