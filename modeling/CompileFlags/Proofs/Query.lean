import CompileFlags.Proofs.ExactMatch
import CompileFlags.Proofs.Log

/-!
# Exact answers

A query that comes to a database answers with the file's own items, if it has any: their options and
directories in the order of the array, whatever the other items are and whatever the settings say
about directories (`Session.Reaches.result_query_of_tolerates`). No other query has an exact answer
(`Session.exists_reaches_of_exact`). The path of a query is in normal form, and so is the file of
every entry, so an item is found by the path it resolves to, however it is written
(`Session.Reaches.mem_own`).

The one thing that keeps a query from its answer is the log: the path of the database is logged
before the answer, and a path that has no bytes ends the query where the log file can be opened
(`Session.Reaches.result_query_of_not_tolerates`).
-/

namespace CompileFlags

/-- What a query works with when it has read a database: the path asked for, where the search
started, the path of the database, the files as the query finds them, and the items it reads. -/
structure Lookup where
  path : Text
  start : Text
  database : Text
  files : FileSystem
  items : List Value

namespace Lookup

/-- The items that resolve to the path asked for. -/
def own (env : Env) (l : Lookup) : List Value := Database.itemsFor env l.items l.path

/-- The database that is read. -/
def read (env : Env) (l : Lookup) : Database := Database.ofItems env l.database l.items

/-- The answer that the items of the path give. -/
def exactAnswer (env : Env) (l : Lookup) : Answer where
  queriedPath := l.path
  searchStart := l.start
  database := some l.database
  candidates := (l.own env).filterMap (Entry.optionsOf? env)
  directories := (l.own env).filterMap BuildCommand.directoryOf?
  kind := some .exact
  loaded := (l.read env).entries.length
  dropped := (l.read env).dropped

/-- What is known before the file is looked up. -/
def known (env : Env) (l : Lookup) : Answer where
  queriedPath := l.path
  searchStart := l.start
  database := some l.database
  loaded := (l.read env).entries.length
  dropped := (l.read env).dropped

/-- The line that is logged about the database. -/
def loadedLine (env : Env) (l : Lookup) : Text :=
  "Loaded " ++ toString (l.read env).entries.length ++ " entries from " ++ l.database ++ " (" ++
    toString (l.read env).dropped ++ " dropped)"

variable {env : Env} {l : Lookup}

/-- The line about a database has bytes if the database's path has. -/
@[simp]
lemma hasBytes_loadedLine : (l.loadedLine env).HasBytes ↔ l.database.HasBytes := by
  simp [loadedLine]

end Lookup

namespace SettingValues

variable {env : Env} {values : SettingValues} {l : Lookup}

/-- Whether the search for a database under some settings comes to one, and reads it. -/
structure Finds (env : Env) (values : SettingValues) (l : Lookup) : Prop where
  located : locateDatabase env l.files (some l.path) (some l.start) values.registered
    (values.get "database_name") = .ok (some l.database)
  holds : Database.Holds env l.files l.database l.items

/-- In the database that is read the file is looked up. -/
lemma find_of_finds (finds : values.Finds env l) :
    values.find env l.files l.path l.start =
      match (l.read env).answer env (values.get "fallback").isTrue (l.known env) with
      | .error fault => ⟨.error fault, [l.loadedLine env]⟩
      | .ok (a, line) => ⟨.ok a, [l.loadedLine env, line]⟩ := by
  have loaded : Database.load env l.files l.database = .ok (l.read env) :=
    Database.load_eq_ok_iff.2 ⟨l.items, finds.holds, rfl⟩
  rw [find, finds.located]
  dsimp only
  rw [loaded]
  rfl

lemma find_of_answer {a : Answer} {line : Text} (finds : values.Finds env l)
    (answered : (l.read env).answer env (values.get "fallback").isTrue (l.known env) = .ok (a, line)) :
    values.find env l.files l.path l.start = ⟨.ok a, [l.loadedLine env, line]⟩ := by
  rw [find_of_finds finds, answered]

/-- What is found in a database is what it answers. -/
lemma exists_answer_of_finds {a : Answer} (finds : values.Finds env l)
    (found : (values.find env l.files l.path l.start).result = .ok a) :
    ∃ line, (l.read env).answer env (values.get "fallback").isTrue (l.known env) = .ok (a, line) := by
  rw [find_of_finds finds] at found
  split at found
  · exact absurd found (by simp)
  · rename_i line answered
    obtain rfl := Except.ok.inj found
    exact ⟨line, answered⟩

/-- Where there is no database, nothing but that is found. -/
lemma find_of_located_none {fs : FileSystem} {path start : Text}
    (located : locateDatabase env fs (some path) (some start) values.registered
      (values.get "database_name") = .ok none) :
    values.find env fs path start =
      ⟨.ok { queriedPath := path, searchStart := start }, ["No compilation database found"]⟩ := by
  rw [find, located]

/-- An answer is found where there is no database, or in one. -/
lemma find_cases {fs : FileSystem} {path start : Text} {a : Answer}
    (found : (values.find env fs path start).result = .ok a) :
    locateDatabase env fs (some path) (some start) values.registered
      (values.get "database_name") = .ok none ∨
    ∃ database items, values.Finds env ⟨path, start, database, fs, items⟩ := by
  rw [find] at found
  dsimp only at found
  split at found
  · exact absurd found (by simp)
  · rename_i located
    exact .inl located
  · rename_i database located
    split at found
    · exact absurd found (by simp)
    · exact absurd found (by simp)
    · rename_i loaded
      obtain ⟨items, holds, rfl⟩ := Database.load_eq_ok_iff.1 loaded
      exact .inr ⟨database, items, located, holds⟩

/-- Items of the path asked for are what is found. -/
lemma find_of_own_ne_nil (finds : values.Finds env l) (ne : l.own env ≠ []) :
    values.find env l.files l.path l.start =
      ⟨.ok (l.exactAnswer env), [l.loadedLine env, (l.read env).exactLine l.path]⟩ := by
  have entries : (l.read env).entriesFor (l.known env).queriedPath ≠ [] :=
    mt Database.entriesFor_ofItems_eq_nil_iff.1 ne
  rw [find_of_answer finds (Database.answer_of_entriesFor_ne_nil entries)]
  simp only [Lookup.read, Database.map_options_entriesFor, Database.map_base_entriesFor]
  rfl

/-- An exact answer is found in a database only, among items of the path asked for. -/
lemma exists_finds_of_exact {fs : FileSystem} {path start : Text} {a : Answer}
    (found : (values.find env fs path start).result = .ok a) (exact : a.kind = some .exact) :
    ∃ database items, values.Finds env ⟨path, start, database, fs, items⟩ ∧
      Database.itemsFor env items path ≠ [] := by
  obtain located | ⟨database, items, finds⟩ := find_cases found
  · rw [find_of_located_none located] at found
    rw [← Except.ok.inj found] at exact
    exact absurd exact (by simp)
  · obtain ⟨line, answered⟩ := exists_answer_of_finds finds found
    refine ⟨database, items, finds, fun none => ?_⟩
    exact Database.kind_answer_of_entriesFor_eq_nil
      (Database.entriesFor_ofItems_eq_nil_iff.2 none) rfl answered exact

end SettingValues

namespace Session

variable {env : Env} {s : Session} {fs : FileSystem} {file start : Option Text} {l : Lookup}

/-- The lines that a query logs before it looks for a database. -/
def opening (s : Session) (path start : Text) : List Text :=
  ("Query " ++ path ++ " (search from " ++ start ++ ")") :: s.settings.values.complaint

/-- What a query for a file gives: what is found for it, unless a line before or after cannot be
logged. -/
lemma result_query_of_named {name path place : Text} (ne : name ≠ [])
    (path_eq : Path.ofUser env name = .ok path) (usable : FileSystem.pathFault? s.logFile = none)
    (place_eq : place = (start.filter (· ≠ [])).getD path) :
    (s.query env fs (some name) start).result =
      let opened := s.log env fs (s.opening path place)
      let finding := s.settings.values.find env opened.2.1 path place
      match opened.2.2 with
      | some fault => .error (.access fault)
      | none =>
        match (opened.1.log env opened.2.1 finding.log).2.2 with
        | some fault => .error (.access fault)
        | none => finding.result := by
  have filtered : (some name).filter (· ≠ []) = some name := by
    rw [Option.filter_some, if_pos (decide_eq_true ne)]
  cases logged : s.log env fs (s.opening path place) with
  | mk s' rest =>
    obtain ⟨files, opened⟩ := rest
    rw [query, filtered]
    dsimp only
    rw [path_eq, usable]
    dsimp only
    rw [← place_eq, ← opening, logged]
    cases opened with
    | some fault => rfl
    | none =>
      dsimp only
      split
      · rename_i closed
        rw [closed]
      · rename_i closed
        rw [closed]

/-- A session that cannot open its log gives what is found. -/
lemma result_query_of_append_eq_error {name path place : Text} {fault : AccessFault}
    {content : ByteArray} (ne : name ≠ [])
    (path_eq : Path.ofUser env name = .ok path) (usable : FileSystem.pathFault? s.logFile = none)
    (place_eq : place = (start.filter (· ≠ [])).getD path)
    (failed : fs.append env.cwd s.logFile content = .error fault) :
    (s.query env fs (some name) start).result =
      (s.settings.values.find env fs path place).result := by
  have passed {s' : Session} (same : s'.logFile = s.logFile) (lines : List Text) :
      (s'.log env fs lines).2 = (fs, none) := by
    rw [← same] at failed
    exact log_of_append_eq_error failed
  rw [result_query_of_named ne path_eq usable place_eq]
  dsimp only
  rw [passed rfl, passed logFile_log]

/-- What a query for a file leaves is what logging its first lines leaves, and maybe more lines. -/
lemma exists_log_eq_query_of_named {name path : Text} (ne : name ≠ [])
    (path_eq : Path.ofUser env name = .ok path) (usable : FileSystem.pathFault? s.logFile = none) :
    ∃ more, let lines := s.opening path ((start.filter (· ≠ [])).getD path) ++ more
      (s.query env fs (some name) start).session = (s.log env fs lines).1 ∧
        (s.query env fs (some name) start).files = (s.log env fs lines).2.1 := by
  have filtered : (some name).filter (· ≠ []) = some name := by
    rw [Option.filter_some, if_pos (decide_eq_true ne)]
  rw [query, filtered]
  dsimp only
  rw [path_eq, usable]
  dsimp only
  -- the start stays opaque, or matching the stages below would compute it
  generalize (start.filter (· ≠ [])).getD path = place
  rw [← opening]
  split
  · rename_i opened
    refine ⟨[], ?_⟩
    rw [List.append_nil, opened]
    exact ⟨rfl, rfl⟩
  · rename_i s' files opened
    refine ⟨(s.settings.values.find env files path place).log, ?_⟩
    rw [log_append, opened]
    dsimp only
    split
    · rename_i closed
      rw [closed]
      exact ⟨rfl, rfl⟩
    · rename_i closed
      rw [closed]
      exact ⟨rfl, rfl⟩

/-- What a query leaves is what logging some lines leaves. -/
lemma exists_log_eq_query (env : Env) (s : Session) (fs : FileSystem) (file start : Option Text) :
    ∃ lines, (s.query env fs file start).session = (s.log env fs lines).1 ∧
      (s.query env fs file start).files = (s.log env fs lines).2.1 := by
  cases filtered : file.filter (· ≠ []) with
  | none =>
    rw [query, filtered]
    exact ⟨[], rfl, rfl⟩
  | some name =>
    obtain ⟨rfl, ne⟩ := Option.filter_eq_some_iff.1 filtered
    cases resolved : Path.ofUser env name with
    | error fault =>
      rw [query, filtered]
      dsimp only
      rw [resolved]
      exact ⟨[], rfl, rfl⟩
    | ok path =>
      cases usable : FileSystem.pathFault? s.logFile with
      | some fault =>
        rw [query, filtered]
        dsimp only
        rw [resolved, usable]
        exact ⟨[], rfl, rfl⟩
      | none =>
        obtain ⟨more, left⟩ := exists_log_eq_query_of_named (of_decide_eq_true ne) resolved usable
        exact ⟨_, left⟩

/-- Whether a query gets past its first lines, with the path asked for, where the search starts, and the
files as they are then. -/
structure Begins (env : Env) (s : Session) (fs : FileSystem) (file start : Option Text)
    (path place : Text) (files : FileSystem) : Prop where
  named : ∃ name, file = some name ∧ name ≠ [] ∧ Path.ofUser env name = .ok path
  place_eq : place = (start.filter (· ≠ [])).getD path
  pathFault?_eq : FileSystem.pathFault? s.logFile = none
  opened : (s.log env fs (s.opening path place)).2 = (files, none)

/-- What a query gives when it has got past its first lines: what is found then, unless it cannot be
logged. -/
lemma Begins.result_query {path place : Text} {files : FileSystem}
    (begins : s.Begins env fs file start path place files) :
    (s.query env fs file start).result =
      let finding := s.settings.values.find env files path place
      match ((s.log env fs (s.opening path place)).1.log env files finding.log).2.2 with
      | some fault => .error (.access fault)
      | none => finding.result := by
  obtain ⟨name, rfl, ne, path_eq⟩ := begins.named
  rw [result_query_of_named ne path_eq begins.pathFault?_eq begins.place_eq]
  dsimp only
  rw [begins.opened]

/-- Such a query gives an answer exactly if it is found and each line about it can be logged. -/
lemma Begins.result_query_eq_ok_iff {path place : Text} {files : FileSystem} {a : Answer}
    (begins : s.Begins env fs file start path place files) :
    (s.query env fs file start).result = .ok a ↔
      (s.settings.values.find env files path place).result = .ok a ∧
        ∀ line ∈ (s.settings.values.find env files path place).log, s.Tolerates env files line := by
  have logged (lines : List Text) :
      ((s.log env fs (s.opening path place)).1.log env files lines).2.2 = none ↔
        ∀ line ∈ lines, s.Tolerates env files line := by
    rw [fault_log_eq_none_iff]
    refine forall₂_congr fun line _ => ?_
    rw [Tolerates, Tolerates, logFile_log]
  rw [begins.result_query, ← logged]
  dsimp only
  split
  · rename_i failed
    rw [failed]
    simp
  · rename_i closed
    rw [closed]
    simp

/-- A query for no file is answered with nothing. -/
lemma result_query_of_unnamed (unnamed : file.filter (· ≠ []) = none) :
    (s.query env fs file start).result = .ok {} := by
  rw [query, unnamed]

/-- A query that gives an answer is for no file, or gets past its first lines. -/
lemma exists_begins {a : Answer} (answered : (s.query env fs file start).result = .ok a) :
    file.filter (· ≠ []) = none ∨ ∃ path place files, s.Begins env fs file start path place files := by
  rw [query] at answered
  split at answered
  · rename_i unnamed
    exact .inl unnamed
  · rename_i name filtered
    obtain ⟨file_eq, ne⟩ := Option.filter_eq_some_iff.1 filtered
    dsimp only at answered
    split at answered
    · exact absurd answered (by simp)
    · exact absurd answered (by simp)
    · rename_i path path_eq pathFault?_eq
      -- the start stays opaque, or matching the stages below would compute it
      generalize start_eq : (start.filter (· ≠ [])).getD path = place at answered
      split at answered
      · exact absurd answered (by simp)
      · rename_i s' files opened
        exact .inr ⟨path, place, files, ⟨name, file_eq, of_decide_eq_true ne, path_eq⟩,
          start_eq.symm, pathFault?_eq, congrArg Prod.snd opened⟩

/-- Whether a query comes to a database, and reads it. -/
structure Reaches (env : Env) (s : Session) (fs : FileSystem) (file start : Option Text)
    (l : Lookup) : Prop where
  named : ∃ name, file = some name ∧ name ≠ [] ∧ Path.ofUser env name = .ok l.path
  start_eq : l.start = (start.filter (· ≠ [])).getD l.path
  pathFault?_eq : FileSystem.pathFault? s.logFile = none
  opened : (s.log env fs (s.opening l.path l.start)).2 = (l.files, none)
  finds : s.settings.values.Finds env l

/-- A query comes to what it finds once it has got past its first lines. -/
lemma reaches_iff : s.Reaches env fs file start l ↔
    s.Begins env fs file start l.path l.start l.files ∧ s.settings.values.Finds env l :=
  ⟨fun reached => ⟨⟨reached.named, reached.start_eq, reached.pathFault?_eq, reached.opened⟩,
      reached.finds⟩,
    fun ⟨begins, finds⟩ => ⟨begins.named, begins.place_eq, begins.pathFault?_eq, begins.opened,
      finds⟩⟩

/-- A path in normal form is asked for as it stands. -/
lemma Reaches.path_eq (reached : s.Reaches env fs file start l) {name : Text}
    (file_eq : file = some name) (normal : Path.IsNormal name) : l.path = name := by
  obtain ⟨_, file_eq', _, path_eq⟩ := reached.named
  obtain rfl : name = _ := Option.some.inj (file_eq.symm.trans file_eq')
  exact Except.ok.inj (path_eq.symm.trans (Path.ofUser_of_isNormal normal))

/-- An item that has an entry is found by the path that it resolves to. -/
lemma Reaches.mem_own (reached : s.Reaches env fs file start l) {item : Value} {c : BuildCommand}
    {source directory : Text} {e : Entry} (mem : item ∈ l.items)
    (read : BuildCommand.ofValue? item = some c) (named : c.source? = some (source, directory))
    (made : c.normalize? env = some e) (file_eq : file = some (Path.expand env source directory)) :
    item ∈ l.own env := by
  have path_eq : l.path = Path.expand env source directory :=
    reached.path_eq file_eq (Path.isNormal_expand env source directory)
  obtain ⟨source', _, named', _, e_eq, _⟩ := BuildCommand.normalize?_eq_some_iff.1 made
  obtain ⟨rfl, rfl⟩ := Prod.mk.inj (Option.some.inj (named.symm.trans named'))
  refine Database.mem_itemsFor.2 ⟨mem, e, Option.bind_eq_some_iff.2 ⟨c, read, made⟩, ?_⟩
  rw [e_eq, path_eq]

/-- The line about an exact answer has bytes. -/
lemma hasBytes_exactLine (db : Database) (path : Text) : (db.exactLine path).HasBytes := by
  simp [Database.exactLine]

/-- The line about the database is tolerated after the opening lines if its path is before them. -/
lemma tolerates_loadedLine {s' : Session} (logFile_eq : s'.logFile = s.logFile) :
    s'.Tolerates env l.files (l.loadedLine env) ↔ s.Tolerates env l.files l.database := by
  rw [Tolerates, Tolerates, Lookup.hasBytes_loadedLine, logFile_eq]

/-- A file that has items is answered with them, if the path of the database can be logged. -/
lemma Reaches.result_query_of_tolerates (reached : s.Reaches env fs file start l)
    (ne : l.own env ≠ []) (tolerated : s.Tolerates env l.files l.database) :
    (s.query env fs file start).result = .ok (l.exactAnswer env) := by
  have closed : ((s.log env fs (s.opening l.path l.start)).1.log env l.files
      [l.loadedLine env, (l.read env).exactLine l.path]).2.2 = none :=
    fault_log_cons_of_tolerates ((tolerates_loadedLine logFile_log).2 tolerated)
      (List.forall_mem_singleton.2 (hasBytes_exactLine _ _))
  rw [(reaches_iff.1 reached).1.result_query, SettingValues.find_of_own_ne_nil reached.finds ne]
  dsimp only
  rw [closed]

/-- A file that has items is not answered, if the path of the database cannot be logged. -/
lemma Reaches.result_query_of_not_tolerates (reached : s.Reaches env fs file start l)
    (ne : l.own env ≠ []) (refused : ¬ s.Tolerates env l.files l.database) :
    ∃ fault, (s.query env fs file start).result = .error (.access (.unencodable fault)) := by
  obtain ⟨fault, closed⟩ :
      ∃ fault, ((s.log env fs (s.opening l.path l.start)).1.log env l.files
        [l.loadedLine env, (l.read env).exactLine l.path]).2.2 = some (.unencodable fault) :=
    fault_log_cons_of_not_tolerates (mt (tolerates_loadedLine logFile_log).1 refused)
  refine ⟨fault, ?_⟩
  rw [(reaches_iff.1 reached).1.result_query, SettingValues.find_of_own_ne_nil reached.finds ne]
  dsimp only
  rw [closed]

/-- An exact answer is given only where the query comes to a database, and has items there. -/
lemma exists_reaches_of_exact {a : Answer} (answered : (s.query env fs file start).result = .ok a)
    (exact : a.kind = some .exact) :
    ∃ l, s.Reaches env fs file start l ∧ l.own env ≠ [] ∧ a = l.exactAnswer env := by
  obtain unnamed | ⟨path, place, files, begins⟩ := exists_begins answered
  · rw [result_query_of_unnamed unnamed] at answered
    rw [← Except.ok.inj answered] at exact
    exact absurd exact (by simp)
  · obtain ⟨found, _⟩ := begins.result_query_eq_ok_iff.1 answered
    obtain ⟨database, items, finds, own_ne⟩ := SettingValues.exists_finds_of_exact found exact
    rw [SettingValues.find_of_own_ne_nil finds own_ne] at found
    exact ⟨_, reaches_iff.2 ⟨begins, finds⟩, own_ne, (Except.ok.inj found).symm⟩

/-- What a query answers with. If it comes to a database that has items of the path asked for, it
answers with their options and directories, and it does so exactly if the path of the database has
bytes or the log file cannot be opened. No other answer is exact. An item is among those of the path
that it resolves to. -/
theorem result_query_exact (env : Env) (s : Session) (fs : FileSystem) (file start : Option Text) :
    (∀ l, s.Reaches env fs file start l → l.own env ≠ [] →
      (s.Tolerates env l.files l.database →
        (s.query env fs file start).result = .ok (l.exactAnswer env)) ∧
      (¬ s.Tolerates env l.files l.database →
        ∃ fault, (s.query env fs file start).result = .error (.access (.unencodable fault)))) ∧
    (∀ a, (s.query env fs file start).result = .ok a → a.kind = some .exact →
      ∃ l, s.Reaches env fs file start l ∧ l.own env ≠ [] ∧ a = l.exactAnswer env) ∧
    (∀ l item c source directory e, s.Reaches env fs file start l → item ∈ l.items →
      BuildCommand.ofValue? item = some c → c.source? = some (source, directory) →
      c.normalize? env = some e → file = some (Path.expand env source directory) →
      item ∈ l.own env) :=
  ⟨fun _ reached ne =>
      ⟨reached.result_query_of_tolerates ne, reached.result_query_of_not_tolerates ne⟩,
    fun _ answered exact => exists_reaches_of_exact answered exact,
    fun _ _ _ _ _ _ reached mem read named made file_eq =>
      reached.mem_own mem read named made file_eq⟩

/-- A database of one build command, whose file lies beside its directory. -/
def soleCommand : String :=
  "[\x7b\"file\":\"../a\",\"directory\":\"/w\",\"arguments\":[\"cc\",\"-D\"]\x7d]"

/-- The item of that database. -/
def soleItem : Value := .map [
  (.text "file", .text "../a"),
  (.text "directory", .text "/w"),
  (.text "arguments", .list [.text "cc", .text "-D"])]

/-- A log file, and the database in some directory. -/
def soleFiles (directory : Text) (log : ByteArray) : FileSystem where
  nodes := [
    (["log"], .file log),
    ([directory], .directory),
    ([directory, databaseName], .file soleCommand.toUTF8)]

/-- The path of the database in some directory. -/
def solePath (directory : Text) : Text := "/" ++ directory ++ ("/compile_commands.json" : Text)

/-- The directory of the database as the current one. -/
def soleEnv (directory : Text) : Env := { home := "/", cwd := ⟨[directory], 0⟩, clock := 0 }

/-- A session under the default settings. -/
def soleSession : Session := ⟨⟨"/", .defaults⟩, "/log", none⟩

/-- The text of the database is an array of one item. -/
lemma parse_soleCommand :
    Json.parse 989 (Text.unifyNewlines (Text.ofString soleCommand)) = .ok (.list [soleItem]) := by
  cbv

/-- A query for a path in normal form that has bytes gets past its first lines, which are logged. -/
lemma exists_begins_sole (directory : Text) {path : Text} (normal : Path.IsNormal path)
    (hasBytes : path.HasBytes) :
    ∃ log, soleSession.Begins (soleEnv directory) (soleFiles directory .empty) (some path) (some ".")
      path "." (soleFiles directory log) := by
  let line : Text := "Query " ++ path ++ " (search from " ++ "." ++ ")"
  have opening_eq : soleSession.opening path "." = [line] := rfl
  have lineHasBytes : line.HasBytes := by simp [line, hasBytes]
  refine ⟨.empty ++ (logLine (soleEnv directory) line).display.toUTF8, ?_⟩
  constructor
  case named =>
    exact ⟨path, rfl, Path.ne_nil_of_isAbsolute normal.absolute, Path.ofUser_of_isNormal normal⟩
  case place_eq => rfl
  case pathFault?_eq => rfl
  case opened =>
    rw [opening_eq, log, appendLine_of_hasBytes lineHasBytes]
    rfl

/-- A query finds the database, if it is in its directory. -/
lemma finds_sole (directory : Text) {path : Text} {log : ByteArray}
    (located : locateDatabase (soleEnv directory) (soleFiles directory log) (some path) (some ".") []
      (.text databaseName) = .ok (some (solePath directory)))
    (read : (soleFiles directory log).read ⟨[directory], 0⟩ (solePath directory) =
      .ok soleCommand.toUTF8) :
    soleSession.settings.values.Finds (soleEnv directory)
      ⟨path, ".", solePath directory, soleFiles directory log, [soleItem]⟩ where
  located := located
  holds := by
    have decoded : Text.decodeUtf8 soleCommand.toUTF8 = .ok (Text.ofString soleCommand) :=
      Text.decodeUtf8_toUTF8 soleCommand
    exact ⟨⟨_, _, read, decoded, parse_soleCommand⟩, by cbv⟩

/-- A query comes to the database, if it is found in its directory, with something more logged. -/
lemma exists_reaches_sole (directory : Text)
    (located : ∀ log, locateDatabase (soleEnv directory) (soleFiles directory log) (some "/a")
      (some ".") [] (.text databaseName) = .ok (some (solePath directory)))
    (read : ∀ log, (soleFiles directory log).read ⟨[directory], 0⟩ (solePath directory) =
      .ok soleCommand.toUTF8) :
    ∃ log, soleSession.Reaches (soleEnv directory) (soleFiles directory .empty) (some "/a")
      (some ".") ⟨"/a", ".", solePath directory, soleFiles directory log, [soleItem]⟩ := by
  have normal : Path.IsNormal "/a" := ⟨rfl, by cbv⟩
  obtain ⟨log, begins⟩ := exists_begins_sole directory normal (by decide)
  exact ⟨log, reaches_iff.2 ⟨begins, finds_sole directory (located log) (read log)⟩⟩

/-- A query whose log can be written is answered with the item, however its file is spelled. -/
theorem result_query_exact_soleCommand :
    ∃ l, soleSession.Reaches (soleEnv "w") (soleFiles "w" .empty) (some "/a") (some ".") l ∧
      soleItem ∈ l.own (soleEnv "w") ∧ soleSession.Tolerates (soleEnv "w") l.files l.database ∧
      (soleSession.query (soleEnv "w") (soleFiles "w" .empty) (some "/a") (some ".")).result =
        .ok {
          queriedPath := "/a", searchStart := ".", database := some "/w/compile_commands.json"
          candidates := [["-D"]], directories := ["/w"], kind := some .exact, loaded := 1 } := by
  obtain ⟨log, reached⟩ := exists_reaches_sole "w" (fun log => by cbv) (fun log => rfl)
  obtain ⟨answered, _, found⟩ :=
    result_query_exact (soleEnv "w") soleSession (soleFiles "w" .empty) (some "/a") (some ".")
  have mem : soleItem ∈ Lookup.own (soleEnv "w") _ :=
    found _ soleItem _ "../a" "/w" ⟨"/a", ["-D"], "/w"⟩ reached List.mem_cons_self rfl rfl
      (by cbv) (by cbv)
  have tolerated : soleSession.Tolerates (soleEnv "w") (soleFiles "w" log) (solePath "w") :=
    Or.inl (by decide)
  have answer := (answered _ reached (List.ne_nil_of_mem mem)).1 tolerated
  refine ⟨_, reached, mem, tolerated, answer.trans ?_⟩
  cbv

/-- A query whose log cannot name the database ends with a fault, though the database has an item of
the path asked for. -/
theorem result_query_surrogate :
    let directory : Text := [.surrogate 0x4ff]
    let env := soleEnv directory
    ∃ l fault, soleSession.Reaches env (soleFiles directory .empty) (some "/a") (some ".") l ∧
      soleItem ∈ l.own env ∧
      (soleSession.query env (soleFiles directory .empty) (some "/a") (some ".")).result =
        .error (.access (.unencodable fault)) := by
  intro directory env
  obtain ⟨log, reached⟩ := exists_reaches_sole directory (fun log => by cbv) (fun log => rfl)
  have mem : soleItem ∈ Lookup.own env _ :=
    reached.mem_own (e := ⟨"/a", ["-D"], "/w"⟩) List.mem_cons_self rfl rfl (by cbv) (by cbv)
  have refused : ¬ soleSession.Tolerates env (soleFiles directory log) (solePath directory) := by
    -- the log file is there, so that the line is tried and fails
    have opened : (soleFiles directory log).append env.cwd soleSession.logFile .empty =
        .ok (soleFiles directory (log ++ .empty)) := rfl
    rintro (hasBytes | ⟨fault, failed⟩)
    · exact absurd hasBytes (by decide)
    · exact absurd (opened.symm.trans failed) (by simp)
  obtain ⟨fault, result⟩ :=
    reached.result_query_of_not_tolerates (List.ne_nil_of_mem mem) refused
  exact ⟨_, fault, reached, mem, result⟩

end Session

end CompileFlags
