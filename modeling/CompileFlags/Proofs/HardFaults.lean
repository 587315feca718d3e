import CompileFlags.Proofs.DatabaseFile
import CompileFlags.Proofs.NearestDirectory
import CompileFlags.Proofs.Query
import CompileFlags.Proofs.Registration

/-!
# What ends a query

A session cannot be started only if its log file is at a home directory that cannot be told. A query is
answered, or blames its database, exactly if its file has a normal form, the log file has a name that can
be used, each line can be logged or the log file cannot be opened, all registered roots can be resolved,
the database of the nearest one is `null` or a text that can be looked for, the search can be started, and
nothing stands against the database that is found but the database itself
(`Session.answersOrBlames_iff`).
-/

namespace CompileFlags

variable {env : Env} {fs : FileSystem} {path place : Text} {fault : Fault}

/-- No database is to blame for what users write. -/
lemma Path.ne_database_of_ofUser {spelling : Text} (failed : Path.ofUser env spelling = .error fault)
    (blamed : Text) (cause : DatabaseCause) : fault ≠ .database blamed cause := by
  rw [ofUser, expandUser] at failed
  cases unknown : homeFault? spelling with
  | some access =>
    rw [unknown] at failed
    rw [← Except.error.inj failed]
    exact Fault.noConfusion
  | none =>
    rw [unknown] at failed
    obtain ⟨_, rfl⟩ := locate_eq_error_iff.1 failed
    exact Fault.noConfusion

namespace Registration

variable {r : Registration}

/-- Whether the database of a registration can be looked for, or there is none. -/
def IsUsable (env : Env) (fs : FileSystem) (r : Registration) : Prop :=
  r.database = .null ∨ ∃ database, r.database = .text database ∧ Path.homeFault? database = none ∧
    ∀ fault, fs.probe env.cwd (r.path env database) ≠ .error fault

/-- A registration that is read can be used. -/
lemma isUsable_of_file? {found : Option Text} (read : r.file? env fs = .ok found) :
    r.IsUsable env fs := by
  rw [file?] at read
  split at read
  · rename_i database_eq
    exact .inl database_eq
  · rename_i database database_eq
    split at read
    · exact absurd read (by simp)
    · exact absurd read (by simp)
    · rename_i known probed
      exact .inr ⟨database, database_eq, known, fun fault failed =>
        absurd (probed.symm.trans failed) (by simp)⟩
    · rename_i known probed
      exact .inr ⟨database, database_eq, known, fun fault failed =>
        absurd (probed.symm.trans failed) (by simp)⟩
  · exact absurd read (by simp)

/-- A registration that cannot be read cannot be used, and no database is to blame. -/
lemma not_isUsable_of_file? (failed : r.file? env fs = .error fault) :
    ¬ r.IsUsable env fs ∧ ∀ p cause, fault ≠ .database p cause := by
  rw [file?] at failed
  split at failed
  · exact absurd failed (by simp)
  · rename_i database database_eq
    have other {t : Text} (database_eq' : r.database = .text t) : t = database :=
      Scalar.text.inj (Value.scalar.inj (database_eq'.symm.trans database_eq))
    split at failed
    · rename_i unknown
      obtain ⟨⟩ := failed
      refine ⟨?_, by simp⟩
      rintro (isNull | ⟨t, database_eq', known, _⟩)
      · exact absurd (database_eq.symm.trans isNull) (by simp)
      · obtain rfl := other database_eq'
        exact absurd (unknown.symm.trans known) (by simp)
    · rename_i probed
      obtain ⟨⟩ := failed
      refine ⟨?_, by simp⟩
      rintro (isNull | ⟨t, database_eq', _, usable⟩)
      · exact absurd (database_eq.symm.trans isNull) (by simp)
      · obtain rfl := other database_eq'
        exact usable _ probed
    · exact absurd failed (by simp)
    · exact absurd failed (by simp)
  · rename_i notNull notText
    obtain ⟨⟩ := failed
    refine ⟨?_, by simp⟩
    rintro (isNull | ⟨t, database_eq, _⟩)
    · exact notNull isNull
    · exact notText t database_eq

end Registration

/-- The registration that decides for a path in normal form is the nearest one. -/
lemma registeredFor_eq {entries : List (Scalar × Value)} {registrations : List Registration}
    (normal : Path.IsNormal path)
    (read : entries.mapM (Registration.ofEntry env) = .ok registrations) :
    registeredFor env fs (some path) entries =
      (Path.nearest? Registration.root path registrations).elim (.ok none) (·.file? env fs) := by
  rw [registeredFor]
  cases entries with
  | nil =>
    obtain rfl : [] = registrations := Except.ok.inj read
    rfl
  | cons entry entries =>
    rw [if_neg (by simp), Path.locate_of_isLocatable (normal.isLocatable env),
      Path.absolute_of_isNormal normal]
    dsimp only
    rw [registeredDatabase, read]
    dsimp only
    cases Path.nearest? Registration.root path registrations with
    | none => rfl
    | some r => rfl

/-- Where registrations cannot be read, none decides. -/
lemma registeredFor_eq_error {entries : List (Scalar × Value)} (normal : Path.IsNormal path)
    (failed : entries.mapM (Registration.ofEntry env) = .error fault) :
    registeredFor env fs (some path) entries = .error fault := by
  rw [registeredFor]
  cases entries with
  | nil =>
    have read : ([] : List (Scalar × Value)).mapM (Registration.ofEntry env) = .ok [] := rfl
    exact absurd (read.symm.trans failed) (by simp)
  | cons entry entries =>
    rw [if_neg (by simp), Path.locate_of_isLocatable (normal.isLocatable env),
      Path.absolute_of_isNormal normal]
    dsimp only
    rw [registeredDatabase, failed]

/-- There is no answer from a database exactly if the flags of a directory are asked for and cannot be told.
-/
lemma Database.answer_eq_error_iff {db : Database} {fallback : Bool} {known : Answer} :
    db.answer env fallback known = .error fault ↔
      db.entriesFor known.queriedPath = [] ∧ fallback = true ∧ db.searchFault? env = some fault := by
  have told_iff : db.nearest env known.queriedPath = .error fault ↔ _ := nearest_eq_error_iff
  rw [answer, ← told_iff]
  cases db.entriesFor known.queriedPath with
  | cons e entries => simp
  | nil =>
    cases fallback with
    | false => simp
    | true =>
      cases db.nearest env known.queriedPath with
      | error other => simp
      | ok found =>
        cases found with
        | none => simp
        | some pair => simp

/-- No database is to blame where the flags of a directory cannot be told. -/
lemma Database.ne_database_of_searchFault? {db : Database} (failed : db.searchFault? env = some fault)
    (blamed : Text) (cause : DatabaseCause) : fault ≠ .database blamed cause := by
  have untold : db.nearest env [] = .error fault := nearest_eq_error_iff.2 failed
  obtain ⟨_, _, _, _, failed⟩ := exists_of_nearest_eq_error untold
  obtain rfl | ⟨_, rfl⟩ := Path.fault?_cases (Path.resolve_eq_error_iff.1 failed)
  · exact Fault.noConfusion
  · exact Fault.noConfusion

/-- Whether there is an answer, or a fault that blames the database. -/
def AnswersOrBlames (result : Except Fault Answer) : Prop :=
  (∃ answer, result = .ok answer) ∨ ∃ path cause, result = .error (.database path cause)

/-- Any other fault is neither. -/
lemma not_answersOrBlames {fault : Fault} (other : ∀ path cause, fault ≠ .database path cause) :
    ¬ AnswersOrBlames (.error fault) := by
  rintro (⟨answer, e⟩ | ⟨path, cause, e⟩)
  · exact absurd e (by simp)
  · exact other path cause (Except.error.inj e)

namespace SettingValues

variable {values : SettingValues}

/-- Whether the search for the database of a file ends well: all registered roots can be resolved, the
database of the nearest one can be looked for, and otherwise the search can be started. -/
structure CanLocate (env : Env) (values : SettingValues) (fs : FileSystem) (path place : Text) :
    Prop where
  registered : ∃ registrations, values.registered.mapM (Registration.ofEntry env) = .ok registrations ∧
    ∀ r, Path.nearest? Registration.root path registrations = some r → r.IsUsable env fs
  startable : registeredFor env fs (some path) values.registered = .ok none →
    Path.isLocatable env place = true

/-- Whether the search for the flags of a file ends well: that for its database does, nothing stands
against reading it but the database itself, and where the flags of a directory are asked for, those of the
database can be told. -/
structure CanSearch (env : Env) (values : SettingValues) (fs : FileSystem) (path place : Text) :
    Prop where
  canLocate : values.CanLocate env fs path place
  loadable : ∀ database, locateDatabase env fs (some path) (some place) values.registered
    (values.get "database_name") = .ok (some database) → Database.IsLoadable env fs database
  told : ∀ database db, locateDatabase env fs (some path) (some place) values.registered
    (values.get "database_name") = .ok (some database) → Database.load env fs database = .ok db →
      db.entriesFor path = [] → (values.get "fallback").isTrue = true → db.searchFault? env = none

/-- The file name of databases is a text. -/
lemma IsSettled.exists_name (settled : values.IsSettled) :
    ∃ name, values.get "database_name" = .text name := by
  have known : OrderedMap.get? ("database_name" : Text) defaults = some (.text databaseName) := by
    cbv
  exact Value.exists_text_of_kind (settled.kind_get known).symm

/-- The registrations serve a file or none exactly if all roots can be resolved, and the database of the
nearest one can be looked for. Otherwise no database is to blame. -/
lemma registeredFor_cases (fs : FileSystem) (settled : values.IsSettled)
    (writable : Json.IsWritable env.readLevels (.object values)) (normal : Path.IsNormal path) :
    let usable := ∃ registrations, values.registered.mapM (Registration.ofEntry env) = .ok registrations ∧
      ∀ r, Path.nearest? Registration.root path registrations = some r → r.IsUsable env fs
    usable ∧ (∃ found, registeredFor env fs (some path) values.registered = .ok found) ∨
    ¬ usable ∧ ∃ fault, registeredFor env fs (some path) values.registered = .error fault ∧
      ∀ p cause, fault ≠ .database p cause := by
  obtain ⟨projects, found, _⟩ := settled.exists_projects writable
  have registered : values.registered = entriesOf projects := by
    rw [SettingValues.registered, found, Value.object]
  cases read : values.registered.mapM (Registration.ofEntry env) with
  | error fault =>
    have unresolvable : ¬ Registration.AreResolvable env projects := by
      intro resolvable
      rw [registered, Registration.mapM_ofEntry resolvable] at read
      exact absurd read (by simp)
    obtain ⟨fault', failed, project, _, faulty⟩ := Registration.mapM_ofEntry_error unresolvable
    rw [← registered] at failed
    obtain rfl : fault = fault' := Except.error.inj (read.symm.trans failed)
    exact .inr ⟨by simp, fault, registeredFor_eq_error normal read,
      Path.ne_database_of_ofUser faulty⟩
  | ok registrations =>
    rw [registeredFor_eq normal read]
    cases nearest : Path.nearest? Registration.root path registrations with
    | none => exact .inl ⟨⟨registrations, rfl, by simp [nearest]⟩, _, rfl⟩
    | some r =>
      rw [Option.elim_some]
      cases served : r.file? env fs with
      | ok found =>
        refine .inl ⟨⟨registrations, rfl, fun r' nearest' => ?_⟩, found, rfl⟩
        obtain rfl := Option.some.inj (nearest.symm.trans nearest')
        exact Registration.isUsable_of_file? served
      | error fault =>
        obtain ⟨unusable, other⟩ := Registration.not_isUsable_of_file? served
        refine .inr ⟨?_, fault, rfl, other⟩
        rintro ⟨_, ⟨⟩, usable⟩
        exact unusable (usable r nearest)

/-- A database is located exactly if the search for it ends well. Otherwise none is to blame. -/
lemma locateDatabase_cases (fs : FileSystem) (settled : values.IsSettled)
    (writable : Json.IsWritable env.readLevels (.object values)) (normal : Path.IsNormal path)
    (ne : place ≠ []) :
    values.CanLocate env fs path place ∧ (∃ found, locateDatabase env fs (some path) (some place)
      values.registered (values.get "database_name") = .ok found) ∨
    ¬ values.CanLocate env fs path place ∧ ∃ fault, locateDatabase env fs (some path) (some place)
      values.registered (values.get "database_name") = .error fault ∧
        ∀ p cause, fault ≠ .database p cause := by
  obtain ⟨name, name_eq⟩ := settled.exists_name
  have start : searchStart (some path) (some place) = place := by
    rw [searchStart, Option.filter_some, if_pos (decide_eq_true ne)]
  rw [name_eq, locateDatabase, start]
  obtain ⟨usable, found, served⟩ | ⟨unusable, fault, failed, other⟩ :=
    registeredFor_cases fs settled writable normal
  · rw [served]
    cases found with
    | some database =>
      exact .inl ⟨⟨usable, fun none => absurd (served.symm.trans none) (by simp)⟩, _, rfl⟩
    | none =>
      dsimp only
      by_cases startable : Path.isLocatable env place = true
      · rw [if_pos startable]
        exact .inl ⟨⟨usable, fun _ => startable⟩, _, rfl⟩
      · rw [if_neg startable]
        exact .inr ⟨fun canLocate => startable (canLocate.startable served), _, rfl, by simp⟩
  · rw [failed]
    exact .inr ⟨fun canLocate => unusable canLocate.registered, fault, rfl, other⟩

/-- A search that comes to a database ends well exactly if nothing stands against reading it but the
database itself, and the flags of a directory can be told where they are asked for. -/
lemma answersOrBlames_find_of_located {database : Text}
    (located : locateDatabase env fs (some path) (some place) values.registered
      (values.get "database_name") = .ok (some database)) :
    AnswersOrBlames (values.find env fs path place).result ↔
      Database.IsLoadable env fs database ∧ ∀ db, Database.load env fs database = .ok db →
        db.entriesFor path = [] → (values.get "fallback").isTrue = true → db.searchFault? env = none := by
  rw [find, located]
  dsimp only
  obtain ⟨loadable, promised⟩ | ⟨notLoadable, fault, failed, other⟩ :=
    Database.load_cases env fs database
  · rw [and_iff_right loadable]
    cases loaded : Database.load env fs database with
    | error fault =>
      obtain ⟨cause, rfl⟩ := promised.blames fault loaded
      exact iff_of_true (.inr ⟨_, _, rfl⟩) (by simp)
    | ok db =>
      dsimp only
      split
      · rename_i fault answered
        obtain ⟨none, fallback, failed⟩ := Database.answer_eq_error_iff.1 answered
        refine iff_of_false (not_answersOrBlames (Database.ne_database_of_searchFault? failed)) ?_
        exact fun told => absurd (failed.symm.trans (told db rfl none fallback)) (by simp)
      · rename_i answered
        refine iff_of_true (.inl ⟨_, rfl⟩) fun db' e none fallback => ?_
        obtain rfl := Except.ok.inj e
        by_contra failed
        obtain ⟨fault, failed⟩ := Option.ne_none_iff_exists'.1 failed
        rw [Database.answer_eq_error_iff.2 ⟨none, fallback, failed⟩] at answered
        exact absurd answered (by simp)
  · refine iff_of_false ?_ fun both => notLoadable both.1
    rw [failed]
    split
    · exact absurd (Except.error.inj ‹_›) (other _ _)
    · rename_i e
      rw [Except.error.inj e] at other
      exact not_answersOrBlames other
    · rename_i e
      exact absurd e (by simp)

/-- What a query looks for ends well exactly if it can search. -/
lemma answersOrBlames_find_iff (settled : values.IsSettled)
    (writable : Json.IsWritable env.readLevels (.object values)) (normal : Path.IsNormal path)
    (ne : place ≠ []) :
    AnswersOrBlames (values.find env fs path place).result ↔ values.CanSearch env fs path place := by
  obtain ⟨canLocate, found, located⟩ | ⟨cannot, fault, failed, other⟩ :=
    locateDatabase_cases fs settled writable normal ne
  · cases found with
    | none =>
      have nothing {database : Text} (located' : locateDatabase env fs (some path) (some place)
          values.registered (values.get "database_name") = .ok (some database)) : False :=
        absurd (located.symm.trans located') (by simp)
      rw [find, located]
      exact iff_of_true (.inl ⟨_, rfl⟩) ⟨canLocate, fun _ e => (nothing e).elim,
        fun _ _ e => (nothing e).elim⟩
    | some database =>
      have only {database' : Text} (located' : locateDatabase env fs (some path) (some place)
          values.registered (values.get "database_name") = .ok (some database')) :
          database' = database := Option.some.inj (Except.ok.inj (located'.symm.trans located))
      rw [answersOrBlames_find_of_located located]
      constructor
      · rintro ⟨loadable, told⟩
        refine ⟨canLocate, fun database' located' => ?_, fun database' db located' => ?_⟩
        · exact only located' ▸ loadable
        · exact only located' ▸ told db
      · rintro ⟨_, loadable, told⟩
        exact ⟨loadable database located, fun db => told database db located⟩
  · rw [find, failed]
    exact iff_of_false (not_answersOrBlames other) fun canSearch => cannot canSearch.canLocate

end SettingValues

namespace Session

variable {s : Session} {settings : Settings} {fs' : FileSystem} {name line : Text}
  {file asked : Option Text}

/-- The files after the first lines of a query. -/
def openedFiles (env : Env) (s : Session) (fs : FileSystem) (path place : Text) : FileSystem :=
  (s.log env fs (s.opening path place)).2.1

/-- Whether a query for a path can be answered: the log file has a name that can be used, all lines can
be logged, or none can, and the search ends well. -/
structure CanAnswer (env : Env) (s : Session) (fs : FileSystem) (path place : Text) : Prop where
  usable : FileSystem.pathFault? s.logFile = none
  logged : ∀ line ∈ s.opening path place ++
    (s.settings.values.find env (s.openedFiles env fs path place) path place).log,
    s.Tolerates env fs line
  searches : s.settings.values.CanSearch env (s.openedFiles env fs path place) path place

/-- A query can be answered exactly if nothing stops its log, and what it looks for ends well. -/
lemma canAnswer_iff (settled : s.settings.values.IsSettled)
    (writable : Json.IsWritable env.readLevels (.object s.settings.values))
    (normal : Path.IsNormal path) (ne : place ≠ [])
    (usable : FileSystem.pathFault? s.logFile = none) :
    s.CanAnswer env fs path place ↔
      (s.log env fs (s.opening path place)).2.2 = none ∧
      ((s.log env fs (s.opening path place)).1.log env (s.openedFiles env fs path place)
        (s.settings.values.find env (s.openedFiles env fs path place) path place).log).2.2 = none ∧
      AnswersOrBlames
        (s.settings.values.find env (s.openedFiles env fs path place) path place).result := by
  -- a line at the end is tolerated exactly if it was before anything was logged
  have closing (lines : List Text) : ((s.log env fs (s.opening path place)).1.log env
      (s.openedFiles env fs path place) lines).2.2 = none ↔
      ∀ line ∈ lines, s.Tolerates env fs line :=
    fault_log_eq_none_iff.trans (forall₂_congr fun _ _ => tolerates_log)
  rw [fault_log_eq_none_iff, closing,
    SettingValues.answersOrBlames_find_iff settled writable normal ne]
  constructor
  · rintro ⟨_, logged, searches⟩
    obtain ⟨before, after⟩ := List.forall_mem_append.1 logged
    exact ⟨before, after, searches⟩
  · rintro ⟨before, after, searches⟩
    exact ⟨usable, List.forall_mem_append.2 ⟨before, after⟩, searches⟩

/-- The place where a search starts is never empty. -/
lemma place_ne_nil (asked : Option Text) (normal : Path.IsNormal path) :
    (asked.filter (· ≠ [])).getD path ≠ [] := by
  cases given : asked.filter (· ≠ []) with
  | none => exact Path.ne_nil_of_isAbsolute normal.absolute
  | some place => exact of_decide_eq_true (Option.filter_eq_some_iff.1 given).2

/-- A query for a file is answered, or blames its database, exactly if the file has a normal form and can be
answered for. -/
lemma answersOrBlames_query_named (settled : s.settings.values.IsSettled)
    (writable : Json.IsWritable env.readLevels (.object s.settings.values)) (ne : name ≠ []) :
    AnswersOrBlames (s.query env fs (some name) asked).result ↔
      ∃ path, Path.ofUser env name = .ok path ∧
        s.CanAnswer env fs path ((asked.filter (· ≠ [])).getD path) := by
  have filtered : (some name).filter (· ≠ []) = some name := by
    rw [Option.filter_some, if_pos (decide_eq_true ne)]
  cases resolved : Path.ofUser env name with
  | error fault =>
    have result : (s.query env fs (some name) asked).result = .error fault := by
      rw [query, filtered]
      dsimp only
      rw [resolved]
    rw [result]
    exact iff_of_false (not_answersOrBlames (Path.ne_database_of_ofUser resolved)) (by simp)
  | ok path =>
    obtain ⟨_, _, path_eq⟩ := Path.ofUser_eq_ok_iff.1 resolved
    have normal : Path.IsNormal path := path_eq ▸ Path.isNormal_absolute env _
    have place_ne := place_ne_nil asked normal
    -- the place stays opaque, or matching the stages below would compute it
    generalize place_eq : (asked.filter (· ≠ [])).getD path = place at place_ne
    have only : (∃ other, (.ok path : Except Fault Text) = .ok other ∧
        s.CanAnswer env fs other ((asked.filter (· ≠ [])).getD other)) ↔
          s.CanAnswer env fs path place := by
      rw [← place_eq]
      simp
    rw [only]
    cases usable : FileSystem.pathFault? s.logFile with
    | some fault =>
      have result : (s.query env fs (some name) asked).result = .error (.access fault) := by
        rw [query, filtered]
        dsimp only
        rw [resolved, usable]
      rw [result]
      exact iff_of_false (not_answersOrBlames (by simp)) fun canAnswer =>
        absurd (usable.symm.trans canAnswer.usable) (by simp)
    | none =>
      rw [result_query_of_named ne resolved usable place_eq.symm,
        canAnswer_iff settled writable normal place_ne usable]
      dsimp only
      rw [← openedFiles]
      split
      · rename_i failed
        rw [failed]
        exact iff_of_false (not_answersOrBlames (by simp)) (by simp)
      · rename_i opened
        rw [opened]
        split
        · rename_i failed
          rw [failed]
          exact iff_of_false (not_answersOrBlames (by simp)) (by simp)
        · rename_i closed
          rw [closed]
          simp only [true_and]

/-- A session cannot be started exactly if its log file is at a home directory that cannot be told. -/
lemma start_eq_error_iff (loaded : Settings.load env fs = (.ok settings, fs')) (fault : Fault) :
    (start env fs).1 = .error fault ↔ ∃ path,
      settings.values.get "log_file" = .text path ∧ path ≠ [] ∧
        Path.expandTidy env path = .error fault := by
  have settled := Settings.isSettled_of_load loaded
  have known : OrderedMap.get? ("log_file" : Text) SettingValues.defaults = some (.text "") := by
    cbv
  obtain ⟨path, path_eq⟩ := Value.exists_text_of_kind (settled.kind_get known).symm
  rw [start, loaded]
  dsimp only
  rw [ofSettings, Settings.logPath, path_eq]
  dsimp only
  by_cases ne : path = []
  · -- an empty name stands for the usual place, which is known
    rw [ne, if_neg (by simp [Value.isTrue])]
    refine iff_of_false (by simp) ?_
    rintro ⟨other, e, ne', _⟩
    obtain ⟨⟩ := e
    exact ne' rfl
  · rw [if_pos (by simp [Value.isTrue, ne])]
    cases expanded : Path.expandTidy env path with
    | error other =>
      constructor
      · rintro ⟨⟩
        exact ⟨path, rfl, ne, expanded⟩
      · rintro ⟨_, ⟨⟩, _, failed⟩
        rw [Except.error.inj (expanded.symm.trans failed)]
    | ok expandedPath =>
      refine iff_of_false (by simp) ?_
      rintro ⟨_, ⟨⟩, _, failed⟩
      exact absurd (expanded.symm.trans failed) (by simp)

/-- A session has the settings that it is started with. -/
lemma settings_of_ofSettings (started : ofSettings env settings = .ok s) : s.settings = settings := by
  rw [ofSettings] at started
  split at started
  · exact absurd started (by simp)
  · obtain ⟨⟩ := started
    rfl

/-- A session has the settings that are loaded for it. -/
lemma settings_of_start (loaded : Settings.load env fs = (.ok settings, fs'))
    (started : (start env fs).1 = .ok s) : s.settings = settings := by
  rw [start, loaded] at started
  exact settings_of_ofSettings started

/-- What queries end with, under settings that can be loaded. A session can be started unless its log file
is at a home directory that cannot be told. Its queries are answered, or blame the database, exactly if
there is no file to be asked for, or the file has a normal form and the session can answer for it. -/
theorem answersOrBlames_iff (loaded : Settings.load env fs = (.ok settings, fs')) :
    (∀ fault, (start env fs).1 = .error fault ↔ ∃ path,
      settings.values.get "log_file" = .text path ∧ path ≠ [] ∧
        Path.expandTidy env path = .error fault) ∧
    ∀ s, (start env fs).1 = .ok s → ∀ files file asked,
      AnswersOrBlames (s.query env files file asked).result ↔
        ∀ name, file = some name → name ≠ [] → ∃ path, Path.ofUser env name = .ok path ∧
          s.CanAnswer env files path ((asked.filter (· ≠ [])).getD path) := by
  refine ⟨start_eq_error_iff loaded, fun s started files file asked => ?_⟩
  obtain rfl := settings_of_start loaded started
  cases file with
  | none => exact iff_of_true (.inl ⟨_, rfl⟩) fun name e => absurd e (by simp)
  | some name =>
    by_cases ne : name = []
    · rw [ne]
      refine iff_of_true (.inl ⟨_, rfl⟩) fun name' e ne' => ?_
      exact absurd (Option.some.inj e).symm ne'
    · refine (answersOrBlames_query_named (Settings.isSettled_of_load loaded)
        (Settings.isWritable_of_load loaded) ne).trans ?_
      constructor
      · rintro canAnswer name' ⟨⟩ _
        exact canAnswer
      · exact fun canAnswer => canAnswer name rfl ne

/-- A document with a project that has a list in the place of its database. -/
def listDocument : String := "\x7b\"projects\": \x7b\"/p\": []\x7d\x7d"

/-- A session with that project. -/
def listSession : Session :=
  ⟨Settings.homeSettings [("/p", .list [])], "/h/.cdbflags/cdbflags.log", none⟩

/-- The settings of the document. -/
lemma load_listDocument :
    Settings.load Settings.homeEnv (Settings.homeFiles (some listDocument.toUTF8)) =
      (.ok (Settings.homeSettings [("/p", .list [])]),
        Settings.homeFiles (some listDocument.toUTF8)) :=
  Settings.load_homeFiles (by cbv)

/-- A session is started with them. -/
lemma start_listDocument :
    start Settings.homeEnv (Settings.homeFiles (some listDocument.toUTF8)) =
      (.ok listSession, Settings.homeFiles (some listDocument.toUTF8)) := by
  rw [start, load_listDocument]
  dsimp only
  have setting : (Settings.homeSettings [("/p", .list [])]).values.get "log_file" = .text "" := rfl
  rw [ofSettings, Settings.logPath, setting]
  dsimp only
  rw [if_neg (by simp [Value.isTrue])]
  rfl

/-- Files next to the document, with a log. -/
def loggedFiles (document log : ByteArray) : FileSystem where
  nodes := (Settings.homeFiles (some document)).nodes ++
    [((["h", ".cdbflags", "cdbflags.log"] : Location), Node.file log)]

/-- The log of the session can be opened. -/
lemma exists_openedFiles (document : ByteArray)
    (opening_eq : listSession.opening path place = [line]) (hasBytes : line.HasBytes) :
    ∃ log, openedFiles Settings.homeEnv listSession (Settings.homeFiles (some document)) path place =
      loggedFiles document log := by
  have opened (content : ByteArray) : (Settings.homeFiles (some document)).append
      Settings.homeEnv.cwd listSession.logFile content =
        .ok (loggedFiles document (.empty ++ content)) := by
    cbv
  refine ⟨.empty ++ (logLine Settings.homeEnv line).display.toUTF8, ?_⟩
  rw [openedFiles, opening_eq, log, appendLine_of_hasBytes hasBytes, opened]
  rfl

/-- A query for a file below no project can be answered. -/
theorem answersOrBlames_iff_listDocument :
    let fs := Settings.homeFiles (some listDocument.toUTF8)
    (start Settings.homeEnv fs).1 = .ok listSession ∧
      AnswersOrBlames (listSession.query Settings.homeEnv fs (some "/q/a.c") (some "/h")).result := by
  intro fs
  obtain ⟨_, answers⟩ := answersOrBlames_iff load_listDocument
  have started := congrArg Prod.fst start_listDocument
  refine ⟨started, (answers listSession started fs (some "/q/a.c") (some "/h")).2 ?_⟩
  rintro name ⟨⟩ _
  have resolved : Path.ofUser Settings.homeEnv "/q/a.c" = .ok "/q/a.c" := by cbv
  have place_eq : ((some "/h" : Option Text).filter (· ≠ [])).getD "/q/a.c" = "/h" := rfl
  have opening_eq : listSession.opening "/q/a.c" "/h" =
      [.ofString "Query /q/a.c (search from /h)"] := by cbv
  obtain ⟨log, files_eq⟩ :=
    exists_openedFiles listDocument.toUTF8 opening_eq (Text.hasBytes_ofString _)
  have located (document : ByteArray) : locateDatabase Settings.homeEnv (loggedFiles document log)
      (some "/q/a.c") (some "/h") listSession.settings.values.registered
      (listSession.settings.values.get "database_name") = .ok none := by
    cbv
  have found : listSession.settings.values.find Settings.homeEnv
      (openedFiles Settings.homeEnv listSession fs "/q/a.c" "/h") "/q/a.c" "/h" =
        ⟨.ok { queriedPath := "/q/a.c", searchStart := "/h" },
          ["No compilation database found"]⟩ := by
    rw [files_eq, SettingValues.find, located]
  have usable : FileSystem.pathFault? listSession.logFile = none := by cbv
  refine ⟨"/q/a.c", resolved, ?_⟩
  rw [place_eq]
  refine (canAnswer_iff (Settings.isSettled_of_load load_listDocument)
    (Settings.isWritable_of_load load_listDocument) ⟨rfl, by cbv⟩ (by decide) usable).2 ⟨?_, ?_, ?_⟩
  · rw [opening_eq]
    exact fault_log_of_hasBytes (by simp)
  · rw [found]
    exact fault_log_of_hasBytes (by simp)
  · rw [found]
    exact .inl ⟨_, rfl⟩

/-- A query for a file below a project with a list as its database ends with a fault that blames
no database. -/
theorem result_query_listDocument :
    let fs := Settings.homeFiles (some listDocument.toUTF8)
    (start Settings.homeEnv fs).1 = .ok listSession ∧
      (listSession.query Settings.homeEnv fs (some "/p/a.c") none).result =
        .error (.notPath "list") := by
  intro fs
  refine ⟨congrArg Prod.fst start_listDocument, ?_⟩
  have resolved : Path.ofUser Settings.homeEnv "/p/a.c" = .ok "/p/a.c" := by cbv
  have place_eq : Text.ofString "/p/a.c" =
      ((none : Option Text).filter (· ≠ [])).getD "/p/a.c" := rfl
  have usable : FileSystem.pathFault? listSession.logFile = none := by cbv
  have opening_eq : listSession.opening "/p/a.c" "/p/a.c" =
      [.ofString "Query /p/a.c (search from /p/a.c)"] := by cbv
  have found (files : FileSystem) : listSession.settings.values.find Settings.homeEnv files
      "/p/a.c" "/p/a.c" = ⟨.error (.notPath "list"), []⟩ := by
    cbv
  rw [result_query_of_named (by decide) resolved usable place_eq]
  dsimp only
  rw [opening_eq, fault_log_of_hasBytes (by simp), found]
  rfl

end Session

end CompileFlags
