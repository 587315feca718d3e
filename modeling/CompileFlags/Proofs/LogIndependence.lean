import CompileFlags.Proofs.SearchedFiles

/-!
# What the log makes no difference to

However many queries a session answers, nothing is changed but its log file, and what was in that file
goes on being its beginning. If a query looks at no file that is logged to, its result is that of a
session that cannot open its log, exactly if each of its lines can be logged, or the search ends with the
very fault that the logging ends with (`Session.result_ask_askAll_iff`).
-/

namespace CompileFlags

/-- The circumstances at some time. -/
def Env.atTime (env : Env) (clock : Float) : Env := { env with clock }

namespace FileSystem

variable {fs : FileSystem} {cwd : CurrentDirectory} {p q : Text} {e : SystemError}

/-- Where the system refuses to open a file, it has been passed the path. -/
lemma pathFault?_of_append_eq_error {content : ByteArray}
    (failed : fs.append cwd p content = .error (.system e q)) : pathFault? p = none := by
  cases fault : pathFault? p with
  | none => rfl
  | some refused =>
    rw [append, update, goal, fault] at failed
    obtain ⟨⟩ := failed
    exact absurd fault pathFault?_ne_system

end FileSystem

namespace Session

variable {env : Env} {s s' quiet : Session} {fs fs' : FileSystem} {lines : List Text}
  {path place : Text}

/-- Logging appends to the log file. -/
lemma appends_log :
    FileSystem.Appends (fs.writtenAt env.cwd s.logFile) fs (s.log env fs lines).2.1 := by
  induction lines generalizing s fs with
  | nil => exact .refl _ fs
  | cons line rest ih =>
    cases appended : s.appendLine env fs line with
    | error fault =>
      rw [log_cons_of_unopened appended]
      exact ih (s := { s with logFault := s.logFault.or (some fault) })
    | ok written =>
      obtain ⟨fs', fault⟩ := written
      obtain ⟨_, opened⟩ := exists_append_of_appendLine appended
      have first := FileSystem.appends_append opened
      cases fault with
      | none =>
        rw [log_cons_of_written appended]
        have others : FileSystem.Appends (fs'.writtenAt env.cwd s.logFile) fs'
            (s.log env fs' rest).2.1 := ih
        rw [first.writtenAt_eq] at others
        exact first.trans others
      | some fault =>
        rw [log_cons_of_unencodable appended]
        exact first

/-- What is left of a session and its files after queries: the settings and the log file are the same, and
the same lines can be logged, and nothing is changed but that something may have been logged. -/
structure Leaves (env : Env) (s : Session) (fs : FileSystem) (s' : Session) (fs' : FileSystem) :
    Prop where
  settings_eq : s'.settings = s.settings
  logFile_eq : s'.logFile = s.logFile
  appends : FileSystem.Appends (fs.writtenAt env.cwd s.logFile) fs fs'
  tolerates_iff : ∀ line, s'.Tolerates env fs' line ↔ s.Tolerates env fs line

namespace Leaves

lemma refl (env : Env) (s : Session) (fs : FileSystem) : Leaves env s fs s fs :=
  ⟨rfl, rfl, .refl _ fs, fun _ => Iff.rfl⟩

lemma trans {s'' : Session} {fs'' : FileSystem} (first : Leaves env s fs s' fs')
    (second : Leaves env s' fs' s'' fs'') : Leaves env s fs s'' fs'' where
  settings_eq := second.settings_eq.trans first.settings_eq
  logFile_eq := second.logFile_eq.trans first.logFile_eq
  appends := by
    have appends := second.appends
    rw [first.logFile_eq, first.appends.writtenAt_eq] at appends
    exact first.appends.trans appends
  tolerates_iff line := (second.tolerates_iff line).trans (first.tolerates_iff line)

/-- What logging leaves, at any time. -/
lemma log (env : Env) (clock : Float) (s : Session) (fs : FileSystem) (lines : List Text) :
    Leaves env s fs (s.log (env.atTime clock) fs lines).1 (s.log (env.atTime clock) fs lines).2.1 := by
  have appends : FileSystem.Appends (fs.writtenAt (env.atTime clock).cwd s.logFile) fs
      (s.log (env.atTime clock) fs lines).2.1 := appends_log
  have tolerates_iff (line : Text) : (s.log (env.atTime clock) fs lines).1.Tolerates
      (env.atTime clock) (s.log (env.atTime clock) fs lines).2.1 line ↔
      s.Tolerates (env.atTime clock) fs line := tolerates_log
  exact ⟨settings_log, logFile_log, appends, tolerates_iff⟩

/-- Logging ends after queries, at any time, as it would have before. -/
lemma fault_log_eq (leaves : Leaves env s fs s' fs') (clock : Float) (lines : List Text) :
    (s'.log (env.atTime clock) fs' lines).2.2 = (s.log (env.atTime clock) fs lines).2.2 :=
  fault_log_congr leaves.tolerates_iff

end Leaves

/-- A query, and the time at which it is asked. -/
structure Question where
  file : Option Text
  start : Option Text
  clock : Float

namespace Question

/-- Asks a session a question. -/
def ask (env : Env) (s : Session) (fs : FileSystem) (q : Question) : Reply :=
  s.query (env.atTime q.clock) fs q.file q.start

/-- Whether a question is asked for a path, with a place for the search to start. -/
def Asks (env : Env) (q : Question) (path place : Text) : Prop :=
  let env := env.atTime q.clock
  ∃ name, q.file = some name ∧ name ≠ [] ∧ Path.ofUser env name = .ok path ∧
    place = (q.start.filter (· ≠ [])).getD path

/-- Whether the search for what is asked looks at nothing that is at some places. -/
def IsApart (env : Env) (values : SettingValues) (fs : FileSystem) (q : Question)
    (places : Set Location) : Prop :=
  ∀ path place, q.Asks env path place →
    values.IsApart (env.atTime q.clock) fs path place places

/-- Whether a session can log each line about a question. -/
def IsLoggable (env : Env) (s : Session) (fs : FileSystem) (q : Question) : Prop :=
  ∀ path place, q.Asks env path place → FileSystem.pathFault? s.logFile = none ∧
    ∀ line ∈ s.opening path place ++
      (s.settings.values.find (env.atTime q.clock) fs path place).log, s.Tolerates env fs line

/-- Why not all can be logged that there is to log about a path that is asked for. -/
def logFault? (env : Env) (s : Session) (fs : FileSystem) (q : Question) (path place : Text) :
    Option AccessFault :=
  (FileSystem.pathFault? s.logFile).or (s.log (env.atTime q.clock) fs (s.opening path place ++
    (s.settings.values.find (env.atTime q.clock) fs path place).log)).2.2

/-- Whether what there is to log about a question cannot all be logged, for some reason. -/
def IsUnloggable (env : Env) (s : Session) (fs : FileSystem) (q : Question) (fault : AccessFault) :
    Prop :=
  ∃ path place, q.Asks env path place ∧ q.logFault? env s fs path place = some fault

lemma leaves_ask (env : Env) (s : Session) (fs : FileSystem) (q : Question) :
    Leaves env s fs (q.ask env s fs).session (q.ask env s fs).files := by
  obtain ⟨lines, session_eq, files_eq⟩ :=
    exists_log_eq_query (env.atTime q.clock) s fs q.file q.start
  rw [ask, session_eq, files_eq]
  exact .log env q.clock s fs lines

end Question

/-- Asks a session questions, one after the other, and gives what they leave. -/
def askAll (env : Env) : Session → FileSystem → List Question → Session × FileSystem
  | s, fs, [] => (s, fs)
  | s, fs, q :: rest => askAll env (q.ask env s fs).session (q.ask env s fs).files rest

/-- What questions leave. -/
lemma leaves_askAll (env : Env) (s : Session) (fs : FileSystem) (questions : List Question) :
    Leaves env s fs (s.askAll env fs questions).1 (s.askAll env fs questions).2 := by
  induction questions generalizing s fs with
  | nil => exact .refl env s fs
  | cons q rest ih => exact (q.leaves_ask env s fs).trans (ih _ _)

/-- Whether the system refuses to open the log of a session. -/
def IsUnopenable (env : Env) (s : Session) (fs : FileSystem) : Prop :=
  ∃ e p, fs.append env.cwd s.logFile .empty = .error (.system e p)

namespace Question

variable {q : Question}

/-- A question that is asked for no path has one result. -/
lemma exists_result_of_not_asks (none : ∀ path place, ¬ q.Asks env path place) :
    ∃ result, ∀ s fs, (q.ask env s fs).result = result := by
  cases filtered : q.file.filter (· ≠ []) with
  | none => exact ⟨_, fun s fs => result_query_of_unnamed filtered⟩
  | some name =>
    obtain ⟨file_eq, ne⟩ := Option.filter_eq_some_iff.1 filtered
    cases resolved : Path.ofUser (env.atTime q.clock) name with
    | ok path => exact absurd ⟨name, file_eq, of_decide_eq_true ne, resolved, rfl⟩ (none path _)
    | error fault =>
      refine ⟨.error fault, fun s fs => ?_⟩
      rw [ask, query, filtered]
      dsimp only
      rw [resolved]

/-- A question is asked for one path, and one place. -/
lemma Asks.unique {path' place' : Text} (asks : q.Asks env path place)
    (asks' : q.Asks env path' place') : path' = path ∧ place' = place := by
  obtain ⟨name, file_eq, _, resolved, rfl⟩ := asks
  obtain ⟨name', file_eq', _, resolved', rfl⟩ := asks'
  obtain rfl := Option.some.inj (file_eq.symm.trans file_eq')
  obtain rfl := Except.ok.inj (resolved.symm.trans resolved')
  exact ⟨rfl, rfl⟩

/-- Where a question is asked for a path, the lines about it are those about the path. -/
lemma Asks.isLoggable_iff (asks : q.Asks env path place) :
    q.IsLoggable env s fs ↔ q.logFault? env s fs path place = none := by
  rw [logFault?, Option.or_eq_none_iff, fault_log_eq_none_iff]
  constructor
  · exact fun loggable => loggable path place asks
  · intro logged path' place' asks'
    obtain ⟨rfl, rfl⟩ := asks.unique asks'
    exact logged

/-- A session that cannot open its log gives what is found. -/
lemma Asks.result_of_isUnopenable (asks : q.Asks env path place)
    (unopenable : s.IsUnopenable env fs) :
    (q.ask env s fs).result =
      (s.settings.values.find (env.atTime q.clock) fs path place).result := by
  obtain ⟨name, file_eq, ne, path_eq, place_eq⟩ := asks
  obtain ⟨e, p, failed⟩ := unopenable
  rw [ask, file_eq]
  exact result_query_of_append_eq_error ne path_eq
    (FileSystem.pathFault?_of_append_eq_error failed) place_eq failed

/-- Another session gives what is found, unless there is a line about the question that it cannot log. -/
lemma Asks.result_eq (leaves : Leaves env s fs s' fs') (asks : q.Asks env path place)
    (apart : q.IsApart env s.settings.values fs (fs.writtenAt env.cwd s.logFile)) :
    (q.ask env s' fs').result = (q.logFault? env s fs path place).elim
      (s.settings.values.find (env.atTime q.clock) fs path place).result (.error <| .access ·) := by
  have asks' := asks
  obtain ⟨name, file_eq, ne, path_eq, place_eq⟩ := asks'
  rw [ask, file_eq, logFault?, ← leaves.logFile_eq]
  cases usable : FileSystem.pathFault? s'.logFile with
  | some fault =>
    rw [query, Option.filter_some, if_pos (decide_eq_true ne)]
    dsimp only
    rw [path_eq, usable]
    rfl
  | none =>
    -- what is logged first is about the question alone, and what is found does not change with it
    have opening_eq : s'.opening path place = s.opening path place := by
      rw [opening, opening, leaves.settings_eq]
    have opened := leaves.trans (.log env q.clock s' fs' (s.opening path place))
    have find_eq : s.settings.values.find (env.atTime q.clock)
        (s'.log (env.atTime q.clock) fs' (s.opening path place)).2.1 path place =
        s.settings.values.find (env.atTime q.clock) fs path place :=
      SettingValues.find_of_appends opened.appends (apart path place asks)
    rw [result_query_of_named ne path_eq usable place_eq, opening_eq, leaves.settings_eq]
    dsimp only
    rw [find_eq, Option.none_or, ← leaves.fault_log_eq, fault_log_append]
    generalize s.settings.values.find (env.atTime q.clock) fs path place = finding
    cases (s'.log (env.atTime q.clock) fs' (s.opening path place)).2.2 with
    | some fault => rfl
    | none =>
      rw [Option.none_or]
      dsimp only
      cases ((s'.log (env.atTime q.clock) fs' (s.opening path place)).1.log (env.atTime q.clock)
        (s'.log (env.atTime q.clock) fs' (s.opening path place)).2.1 finding.log).2.2 with
      | some fault => rfl
      | none => rfl

end Question

/-- The log makes no difference. Nothing is changed by questions but the log file, and what was in it
goes on being its beginning. If a question makes a search look at nothing that is logged to, then
whatever has been asked before, its result is that of a session with the same settings that cannot
open its log, exactly if each line about it can be logged, or that session ends with the very fault for
which not all can be. -/
theorem result_ask_askAll_iff (env : Env) (s : Session) (fs : FileSystem) :
    (∀ questions, FileSystem.Appends (fs.writtenAt env.cwd s.logFile) fs
      (s.askAll env fs questions).2) ∧
    ∀ (quiet : Session) (before : List Question) (q : Question),
      quiet.settings.values = s.settings.values → quiet.IsUnopenable env fs →
      q.IsApart env s.settings.values fs (fs.writtenAt env.cwd s.logFile) →
      ((q.ask env (s.askAll env fs before).1 (s.askAll env fs before).2).result =
          (q.ask env quiet fs).result ↔
        q.IsLoggable env s fs ∨
          ∃ fault, q.IsUnloggable env s fs fault ∧
            (q.ask env quiet fs).result = .error (.access fault)) := by
  refine ⟨fun questions => (leaves_askAll env s fs questions).appends, ?_⟩
  intro quiet before q same unopenable apart
  by_cases asked : ∃ path place, q.Asks env path place
  · obtain ⟨path, place, asks⟩ := asked
    rw [asks.result_eq (leaves_askAll env s fs before) apart, asks.result_of_isUnopenable unopenable,
      same, asks.isLoggable_iff]
    cases ended : q.logFault? env s fs path place with
    | none => exact iff_of_true rfl (.inl rfl)
    | some fault =>
      constructor
      · exact fun e => .inr ⟨fault, ⟨path, place, asks, ended⟩, e.symm⟩
      · rintro (loggable | ⟨fault', ⟨path', place', asks', ended'⟩, found⟩)
        · exact absurd loggable (by simp)
        · obtain ⟨rfl, rfl⟩ := asks.unique asks'
          obtain rfl := Option.some.inj (ended.symm.trans ended')
          exact found.symm
  · have none (path place : Text) : ¬ q.Asks env path place := fun asks => asked ⟨path, place, asks⟩
    obtain ⟨result, result_eq⟩ := Question.exists_result_of_not_asks none
    rw [result_eq, result_eq]
    exact iff_of_true rfl (.inl fun path place asks => absurd asks (none path place))

/-- A session that cannot open its log, since a directory is there. -/
def quietSession : Session := ⟨⟨"/", .defaults⟩, "/", none⟩

/-- A question with the search starting in the current directory. -/
def questionHere (file : Text) : Question := ⟨some file, some ".", 0⟩

lemma isUnopenable_quietSession :
    quietSession.IsUnopenable (soleEnv "w") (soleFiles "w" .empty) :=
  ⟨.isDirectory, "/", rfl⟩

/-- The search for the database beside the log does not look at the log. -/
lemma isApart_questionHere (file : Text) :
    (questionHere file).IsApart (soleEnv "w") .defaults (soleFiles "w" .empty)
      ((soleFiles "w" .empty).writtenAt (soleEnv "w").cwd "/log") := by
  have log : (soleFiles "w" .empty).goal (soleEnv "w").cwd "/log" .writing =
      .ok (.present ["log"]) := by cbv
  have there : (soleFiles "w" .empty).goal (soleEnv "w").cwd (solePath "w") .content =
      .ok (.present ["w", databaseName]) := by cbv
  have isFile : (soleFiles "w" .empty).isFile (soleEnv "w").cwd (solePath "w") = true := by cbv
  have candidates_eq : (Path.ancestors (searchDirectory (soleEnv "w") (soleFiles "w" .empty) ".")).map
      (Path.join · databaseName) = [solePath "w", "/compile_commands.json"] := by cbv
  rintro path place ⟨name, _, _, _, rfl⟩ p looks
  have p_eq : p = solePath "w" := by
    cases looks with
    | registered read nearest named =>
      obtain ⟨⟩ := read
      exact absurd nearest (by simp [Path.nearest?])
    | above unregistered locatable named candidates earlier =>
      obtain ⟨⟩ := named
      replace candidates := candidates_eq.symm.trans candidates
      rename_i before _
      cases before with
      | nil => exact (List.cons.inj candidates).1.symm
      | cons first before =>
        -- the first candidate is a file, so none after it is looked at
        rw [← (List.cons.inj candidates).1] at earlier
        exact absurd (isFile.symm.trans (earlier _ List.mem_cons_self)) (by simp)
    | found located =>
      have located' : locateDatabase (soleEnv "w") (soleFiles "w" .empty) (some path) (some ".") []
          (.text databaseName) = .ok (some (solePath "w")) := by cbv
      exact Option.some.inj (Except.ok.inj (located.symm.trans located'))
  rintro loc ⟨g, written, leads⟩ ⟨g', found, leads'⟩
  obtain rfl := Except.ok.inj (log.symm.trans written)
  rw [p_eq] at found
  obtain rfl := Except.ok.inj (there.symm.trans found)
  exact absurd (Option.some.inj (leads.trans leads'.symm)) (by decide)

lemma atTime_questionHere (file : Text) :
    (soleEnv "w").atTime (questionHere file).clock = soleEnv "w" := rfl

/-- What is asked for has its own entry, and each line about it can be logged. -/
lemma isLoggable_questionHere :
    (questionHere "/a").IsLoggable (soleEnv "w") soleSession (soleFiles "w" .empty) := by
  have asks : (questionHere "/a").Asks (soleEnv "w") "/a" "." :=
    ⟨"/a", rfl, by decide, by cbv, rfl⟩
  let l : Lookup := ⟨"/a", ".", solePath "w", soleFiles "w" .empty, [soleItem]⟩
  have finds : soleSession.settings.values.Finds (soleEnv "w") l := finds_sole "w" (by cbv) rfl
  have own_eq : l.own (soleEnv "w") = [soleItem] := by cbv
  have find_eq := SettingValues.find_of_own_ne_nil finds
    (own_eq.trans_ne (List.cons_ne_nil soleItem []))
  rw [asks.isLoggable_iff, Question.logFault?, Option.or_eq_none_iff, fault_log_eq_none_iff,
    List.forall_mem_append, atTime_questionHere]
  refine ⟨rfl, List.forall_mem_singleton.2 (.inl (by decide)), ?_⟩
  rw [find_eq]
  refine List.forall_mem_cons.2 ⟨.inl (Lookup.hasBytes_loadedLine.2 (by decide)), ?_⟩
  exact List.forall_mem_singleton.2 (.inl (hasBytes_exactLine _ _))

/-- A question after another is answered as without the log. -/
theorem result_ask_askAll_sole :
    let env := soleEnv "w"
    let fs := soleFiles "w" .empty
    let before := [questionHere "/w/b.c"]
    quietSession.IsUnopenable env fs ∧ (questionHere "/a").IsLoggable env soleSession fs ∧
      ((questionHere "/a").ask env (soleSession.askAll env fs before).1
        (soleSession.askAll env fs before).2).result =
          ((questionHere "/a").ask env quietSession fs).result := by
  obtain ⟨_, same⟩ := result_ask_askAll_iff (soleEnv "w") soleSession (soleFiles "w" .empty)
  refine ⟨isUnopenable_quietSession, isLoggable_questionHere, ?_⟩
  exact (same quietSession [questionHere "/w/b.c"] (questionHere "/a") rfl isUnopenable_quietSession
    (isApart_questionHere "/a")).2 (.inl isLoggable_questionHere)

/-- A path that has no bytes. -/
def surrogatePath : Text := [.char '/', .surrogate 0x4ff]

/-- A question for a path that has no bytes ends with a fault of the log, though no search looks at the
log, and without it there is an answer. -/
theorem result_ask_surrogate :
    let env := soleEnv "w"
    let fs := soleFiles "w" .empty
    let q := questionHere surrogatePath
    q.IsApart env soleSession.settings.values fs (fs.writtenAt env.cwd soleSession.logFile) ∧
      quietSession.settings.values = soleSession.settings.values ∧ quietSession.IsUnopenable env fs ∧
      (∃ fault, (q.ask env soleSession fs).result = .error (.access (.unencodable fault))) ∧
      ∃ answer, (q.ask env quietSession fs).result = .ok answer := by
  have asks : (questionHere surrogatePath).Asks (soleEnv "w") surrogatePath "." :=
    ⟨surrogatePath, rfl, by decide, by cbv, rfl⟩
  refine ⟨isApart_questionHere _, rfl, isUnopenable_quietSession, ?_, ?_⟩
  · let line : Text := "Query " ++ surrogatePath ++ " (search from " ++ "." ++ ")"
    have refused : ¬ soleSession.Tolerates (soleEnv "w") (soleFiles "w" .empty) line := by
      have opened : (soleFiles "w" .empty).append (soleEnv "w").cwd soleSession.logFile .empty =
          .ok (soleFiles "w" .empty) := rfl
      rintro (hasBytes | ⟨fault, failed⟩)
      · exact absurd hasBytes (by decide)
      · exact absurd (opened.symm.trans failed) (by simp)
    obtain ⟨fault, stopped⟩ : ∃ fault, (soleSession.log (soleEnv "w") (soleFiles "w" .empty)
        [line]).2.2 = some (.unencodable fault) := fault_log_cons_of_not_tolerates refused
    have opening_eq : soleSession.opening surrogatePath "." = [line] := rfl
    obtain ⟨name, file_eq, ne, path_eq, place_eq⟩ := asks
    refine ⟨fault, ?_⟩
    rw [Question.ask, file_eq, result_query_of_named ne path_eq rfl place_eq, opening_eq,
      atTime_questionHere]
    dsimp only
    rw [stopped]
  · have finds : soleSession.settings.values.Finds (soleEnv "w")
        ⟨surrogatePath, ".", solePath "w", soleFiles "w" .empty, [soleItem]⟩ :=
      finds_sole "w" (by cbv) rfl
    rw [asks.result_of_isUnopenable isUnopenable_quietSession, atTime_questionHere]
    exact ⟨_, congrArg Finding.result (SettingValues.find_of_finds finds)⟩

end Session

end CompileFlags
