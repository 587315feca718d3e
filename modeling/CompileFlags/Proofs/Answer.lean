import CompileFlags.Proofs.NearestDirectory
import CompileFlags.Proofs.Query

/-!
# Answers

An answer holds together however a query comes by it: each candidate has its directory, there are
candidates exactly if there is a way in which they were found, and a matched directory stands exactly
with candidates that were found by it (`Answer.IsConsistent`). There are four ways to look a file up in a
database (`Database.Answers`), and what holds of an answer is told for each of them. Without the flags
of directories a query gives the same answer, unless it was found by a directory; then it gives what
is known before (`Session.consistent_query`).
-/

namespace CompileFlags

/-- What holds of every answer. -/
structure Answer.IsConsistent (a : Answer) : Prop where
  length_eq : a.candidates.length = a.directories.length
  ne_nil : ∀ candidate ∈ a.candidates, candidate ≠ []
  kind_cases : a.kind = none ∨ a.kind = some .exact ∨ a.kind = some .directory
  kind_eq_none_iff : a.kind = none ↔ a.candidates = []
  options_eq_none_iff : a.options = none ↔ a.candidates = []
  matchedDirectory_of_ne_directory : a.kind ≠ some .directory → a.matchedDirectory = none
  of_directory : a.kind = some .directory → a.candidates.length = 1 ∧
    ∃ directory, a.matchedDirectory = some directory ∧ Path.endsInSlash directory = true ∧
      directory <+: a.queriedPath
  of_no_database : a.database = none → a.loaded = 0 ∧ a.dropped = 0 ∧ a.candidates = []

/-- An answer without what was found for the file. -/
def Answer.unmatched (a : Answer) : Answer :=
  { a with candidates := [], directories := [], kind := none, matchedDirectory := none }

namespace Answer

variable {a : Answer}

lemma options_eq_none (a : Answer) : a.options = none ↔ a.candidates = [] := List.head?_eq_none_iff

/-- An answer with no match, and no counts unless there is a database, is consistent. -/
lemma isConsistent_unmatched (counts : a.database = none → a.loaded = 0 ∧ a.dropped = 0) :
    a.unmatched.IsConsistent where
  length_eq := rfl
  ne_nil candidate mem := absurd mem List.not_mem_nil
  kind_cases := .inl rfl
  kind_eq_none_iff := iff_of_true rfl rfl
  options_eq_none_iff := options_eq_none _
  matchedDirectory_of_ne_directory _ := rfl
  of_directory directory := absurd directory (by simp [unmatched])
  of_no_database none := ⟨(counts none).1, (counts none).2, rfl⟩

end Answer

namespace Database

variable {env : Env} {db : Database} {file : Text}

lemma isWellFormed_ofItems (env : Env) (path : Text) (items : List Value) :
    ∀ e ∈ (ofItems env path items).entries, e.IsWellFormed env := by
  intro e mem
  obtain ⟨_, _, _, _, made⟩ := mem_entries_ofItems.1 mem
  exact Entry.isWellFormed_of_normalize? made

/-- The nearest directory of a file begins its path, up to a slash, and has the flags of an entry. -/
lemma of_nearest_eq_some (normal : ∀ e ∈ db.entries, Path.IsNormal e.file) {key : Text}
    {flags : Flags} (nearest : db.nearest env file = .ok (some (key, flags))) :
    Path.endsInSlash key = true ∧ key <+: file ∧ ∃ e ∈ db.entries, e.flags = flags := by
  have distinct := DirectoryMap.isDistinct_ofDatabase env db
  have nearest := (nearest_eq_ok_iff.1 nearest).2.symm
  obtain ⟨found, covered, _⟩ := (DirectoryMap.nearest?_eq_some_iff distinct).1 nearest
  obtain ⟨directory, rfl, directory_eq⟩ :=
    DirectoryMap.exists_of_isSome_get? (Option.isSome_of_eq_some found)
  have normalDirectory : Path.IsNormal directory := by
    cases directory_eq with
    | inl own =>
      obtain ⟨e, mem, rfl⟩ := own
      exact (normal e mem).isNormal_parent
    | inr searched => exact searched
  rw [DirectoryMap.get?_ofDatabase env db normalDirectory.isTrimmed] at found
  refine ⟨normalDirectory.endsInSlash_asDirectory, ?_, exists_mem_of_flagsIn? found⟩
  exact List.isPrefixOf_iff_prefix.1 covered

variable {fallback : Bool} {known a : Answer} {line : Text}

/-- The ways in which a file is looked up, each with the answer and the line to be logged. -/
inductive Answers (env : Env) (db : Database) (fallback : Bool) (known : Answer) :
    Answer → Text → Prop where
  /-- The database has entries of the file. -/
  | exact : db.entriesFor known.queriedPath ≠ [] →
    Answers env db fallback known
      { known with
          candidates := (db.entriesFor known.queriedPath).map (·.options)
          directories := (db.entriesFor known.queriedPath).map (·.base)
          kind := some .exact }
      (db.exactLine known.queriedPath)
  /-- It has none, and the flags of directories are not asked for. -/
  | disabled : db.entriesFor known.queriedPath = [] → fallback = false →
    Answers env db fallback known known "No exact match, directory fallback disabled"
  /-- No directory of the file is known. -/
  | unknown : db.entriesFor known.queriedPath = [] → fallback = true →
    db.nearest env known.queriedPath = .ok none →
    Answers env db fallback known known "No known directory prefixes the file"
  /-- A directory of the file is known. -/
  | directory {directory kind : Text} {flags : Flags} :
    db.entriesFor known.queriedPath = [] → fallback = true →
    db.nearest env known.queriedPath = .ok (some (directory, flags)) →
    Answers env db fallback known
      { known with
          candidates := [flags.options], directories := [flags.base]
          kind := some .directory, matchedDirectory := some directory }
      ("Directory fallback for " ++ kind ++ ": " ++ directory)

/-- Looking a file up takes one of the ways, if it gives an answer. -/
lemma answers_of_answer (answered : db.answer env fallback known = .ok (a, line)) :
    db.Answers env fallback known a line := by
  by_cases own : db.entriesFor known.queriedPath = []
  · rw [answer, own] at answered
    dsimp only at answered
    cases fallback with
    | false =>
      obtain ⟨⟩ := answered
      exact .disabled own rfl
    | true =>
      rw [if_pos rfl] at answered
      cases nearest : db.nearest env known.queriedPath with
      | error fault =>
        rw [nearest] at answered
        exact absurd answered (by simp)
      | ok found =>
        rw [nearest] at answered
        cases found with
        | none =>
          obtain ⟨⟩ := answered
          exact .unknown own rfl nearest
        | some entry =>
          obtain ⟨⟩ := answered
          exact .directory own rfl nearest
  · rw [answer_of_entriesFor_ne_nil own] at answered
    obtain ⟨⟩ := answered
    exact .exact own

namespace Answers

/-- What is found in a database with well-formed entries is consistent. -/
lemma isConsistent (answers : db.Answers env fallback known a line)
    (wellFormed : ∀ e ∈ db.entries, e.IsWellFormed env) (unmatched : known.unmatched = known)
    (named : known.database ≠ none) : a.IsConsistent := by
  have unmatched_isConsistent : known.IsConsistent := by
    rw [← unmatched]
    exact Answer.isConsistent_unmatched fun none => absurd none named
  cases answers with
  | exact own =>
    constructor
    case length_eq => rw [List.length_map, List.length_map]
    case ne_nil =>
      intro candidate mem
      obtain ⟨e, own, rfl⟩ := List.mem_map.1 mem
      exact (wellFormed e (List.mem_of_mem_filter own)).options_ne_nil
    case kind_cases => exact .inr (.inl rfl)
    case kind_eq_none_iff => exact iff_of_false (by simp) (mt List.map_eq_nil_iff.1 own)
    case options_eq_none_iff => exact Answer.options_eq_none _
    case matchedDirectory_of_ne_directory =>
      intro
      exact (congrArg Answer.matchedDirectory unmatched).symm
    case of_directory => exact fun directory => absurd directory (by simp)
    case of_no_database => exact fun none => absurd none named
  | disabled => exact unmatched_isConsistent
  | unknown => exact unmatched_isConsistent
  | directory own allowed nearest =>
    obtain ⟨ends, begins, e, mem, flags_eq⟩ :=
      of_nearest_eq_some (fun e mem => (wellFormed e mem).file_isNormal) nearest
    subst flags_eq
    constructor
    case length_eq => rfl
    case ne_nil => exact List.forall_mem_singleton.2 (wellFormed e mem).options_ne_nil
    case kind_cases => exact .inr (.inr rfl)
    case kind_eq_none_iff => exact iff_of_false (by simp) (by simp)
    case options_eq_none_iff => exact Answer.options_eq_none _
    case matchedDirectory_of_ne_directory => exact fun other => absurd rfl other
    case of_directory => exact fun _ => ⟨rfl, _, rfl, ends, begins⟩
    case of_no_database => exact fun none => absurd none named

/-- A file that is answered by a directory has no entries. -/
lemma entriesFor_eq_nil (answers : db.Answers env fallback known a line)
    (directory : a.kind = some .directory) : db.entriesFor known.queriedPath = [] := by
  cases answers with
  | exact => exact absurd directory (by simp)
  | disabled own => exact own
  | unknown own => exact own
  | directory own => exact own

/-- What is known stays, whatever is found. -/
lemma unmatched_eq (answers : db.Answers env fallback known a line)
    (unmatched : known.unmatched = known) : a.unmatched = known := by
  cases answers with
  | exact => exact unmatched
  | disabled => exact unmatched
  | unknown => exact unmatched
  | directory => exact unmatched

/-- Without the flags of directories the same is found and logged, or what is known stands, and a line
that has bytes is logged. -/
lemma withoutFallback (answers : db.Answers env fallback known a line)
    (unmatched : known.unmatched = known) :
    ∃ line', db.answer env false known =
      .ok (if a.kind = some .directory then a.unmatched else a, line') ∧ line'.HasBytes := by
  have kind_eq : known.kind = none := (congrArg Answer.kind unmatched).symm
  have disabled (own : db.entriesFor known.queriedPath = []) :
      db.answer env false known =
        .ok (known, ("No exact match, directory fallback disabled" : Text)) := by
    rw [answer, own]
    rfl
  cases answers with
  | exact own =>
    rw [answer_of_entriesFor_ne_nil own, if_neg (by simp)]
    exact ⟨_, rfl, Session.hasBytes_exactLine db known.queriedPath⟩
  | disabled own =>
    rw [disabled own, if_neg (by simp [kind_eq])]
    exact ⟨_, rfl, Text.hasBytes_ofString _⟩
  | unknown own =>
    rw [disabled own, if_neg (by simp [kind_eq])]
    exact ⟨_, rfl, Text.hasBytes_ofString _⟩
  | directory own =>
    rw [disabled own, if_pos rfl, ← unmatched]
    exact ⟨_, rfl, Text.hasBytes_ofString _⟩

end Answers

end Database

lemma Lookup.unmatched_known {env : Env} {l : Lookup} :
    (l.known env).unmatched = l.known env := rfl

namespace SettingValues

variable {env : Env} {values : SettingValues} {fs : FileSystem} {path start : Text} {a : Answer}

/-- Settings with the flags of directories switched off. -/
def withoutFallback (values : SettingValues) : SettingValues :=
  OrderedMap.put "fallback" (.bool false) values

lemma get_withoutFallback (values : SettingValues) {name : Text} (ne : name ≠ "fallback") :
    values.withoutFallback.get name = values.get name := by
  rw [get, withoutFallback, OrderedMap.get?_put, if_neg ne, get]

lemma get_fallback_withoutFallback (values : SettingValues) :
    values.withoutFallback.get "fallback" = .bool false := by
  rw [get, withoutFallback, OrderedMap.get?_put, if_pos rfl]
  rfl

lemma registered_withoutFallback (values : SettingValues) :
    values.withoutFallback.registered = values.registered := by
  rw [registered, registered, values.get_withoutFallback (by decide)]

lemma complaint_withoutFallback (values : SettingValues) :
    values.withoutFallback.complaint = values.complaint := by
  rw [complaint, complaint, values.get_withoutFallback (by decide)]

/-- The same database is searched for. -/
lemma locateDatabase_withoutFallback (values : SettingValues) :
    locateDatabase env fs (some path) (some start) values.withoutFallback.registered
        (values.withoutFallback.get "database_name") =
      locateDatabase env fs (some path) (some start) values.registered
        (values.get "database_name") := by
  rw [registered_withoutFallback, values.get_withoutFallback (by decide)]

/-- An answer tells that there is no database, or is found in one in some way. -/
lemma find_answers (found : (values.find env fs path start).result = .ok a) :
    locateDatabase env fs (some path) (some start) values.registered
        (values.get "database_name") = .ok none ∧
      a = { queriedPath := path, searchStart := start } ∨
    ∃ database items line, values.Finds env ⟨path, start, database, fs, items⟩ ∧
      (Database.ofItems env database items).Answers env (values.get "fallback").isTrue
        (Lookup.known env ⟨path, start, database, fs, items⟩) a line := by
  obtain located | ⟨database, items, finds⟩ := find_cases found
  · rw [find_of_located_none located] at found
    exact .inl ⟨located, (Except.ok.inj found).symm⟩
  · obtain ⟨line, answered⟩ := exists_answer_of_finds finds found
    exact .inr ⟨database, items, line, finds, Database.answers_of_answer answered⟩

lemma isConsistent_of_find (found : (values.find env fs path start).result = .ok a) :
    a.IsConsistent := by
  obtain ⟨_, rfl⟩ | ⟨database, items, line, _, answers⟩ := find_answers found
  · exact Answer.isConsistent_unmatched (a := ⟨path, start, none, [], [], none, none, 0, 0⟩)
      fun _ => ⟨rfl, rfl⟩
  · apply answers.isConsistent (Database.isWellFormed_ofItems env database items)
    · exact Lookup.unmatched_known
    · exact Option.some_ne_none database

/-- A directory is found in a database only, where the path asked for has no entry. -/
lemma exists_finds_of_directory (found : (values.find env fs path start).result = .ok a)
    (directory : a.kind = some .directory) :
    ∃ database items, values.Finds env ⟨path, start, database, fs, items⟩ ∧
      a.unmatched = Lookup.known env ⟨path, start, database, fs, items⟩ ∧
      (Database.ofItems env database items).entriesFor path = [] := by
  obtain ⟨_, rfl⟩ | ⟨database, items, line, finds, answers⟩ := find_answers found
  · exact absurd directory (by simp)
  · refine ⟨database, items, finds, ?_, answers.entriesFor_eq_nil directory⟩
    exact answers.unmatched_eq Lookup.unmatched_known

/-- With the flags of directories switched off the same is found, unless it is a directory; then what is
known is found. No line is logged that has no bytes, unless it is logged anyway. -/
lemma find_withoutFallback (found : (values.find env fs path start).result = .ok a) :
    (values.withoutFallback.find env fs path start).result =
        .ok (if a.kind = some .directory then a.unmatched else a) ∧
      ∀ line ∈ (values.withoutFallback.find env fs path start).log,
        line ∈ (values.find env fs path start).log ∨ line.HasBytes := by
  obtain ⟨located, rfl⟩ | ⟨database, items, line, finds, answers⟩ := find_answers found
  · have located' := (locateDatabase_withoutFallback values).trans located
    rw [find_of_located_none located, find_of_located_none located', if_neg (by simp)]
    exact ⟨rfl, fun line mem => .inl mem⟩
  · have finds' : values.withoutFallback.Finds env ⟨path, start, database, fs, items⟩ :=
      ⟨(locateDatabase_withoutFallback values).trans finds.located, finds.holds⟩
    obtain ⟨line', answer_eq, hasBytes⟩ := answers.withoutFallback Lookup.unmatched_known
    have allowed : (values.withoutFallback.get "fallback").isTrue = false := by
      rw [get_fallback_withoutFallback]
      rfl
    obtain ⟨_, answered⟩ := exists_answer_of_finds finds found
    rw [find_of_answer finds answered, find_of_answer finds' (allowed ▸ answer_eq)]
    refine ⟨rfl, fun line mem => ?_⟩
    -- the line about the database is the same, and the one about the file has bytes
    cases mem with
    | head => exact .inl List.mem_cons_self
    | tail _ mem => exact .inr (List.mem_singleton.1 mem ▸ hasBytes)

end SettingValues

namespace Session

variable {env : Env} {s : Session} {fs files : FileSystem} {file start : Option Text}
  {path place : Text} {a : Answer}

/-- A session with the flags of directories switched off. -/
def withoutFallback (s : Session) : Session :=
  { s with settings := { s.settings with values := s.settings.values.withoutFallback } }

lemma opening_withoutFallback (s : Session) (path place : Text) :
    s.withoutFallback.opening path place = s.opening path place := by
  rw [opening, opening, withoutFallback, SettingValues.complaint_withoutFallback]

/-- A query gets past its first lines all the same. -/
lemma Begins.withoutFallback (begins : s.Begins env fs file start path place files) :
    s.withoutFallback.Begins env fs file start path place files := by
  constructor
  case named => exact begins.named
  case place_eq => exact begins.place_eq
  case pathFault?_eq => exact begins.pathFault?_eq
  case opened =>
    have same : s.withoutFallback.logFile = s.logFile := rfl
    rw [opening_withoutFallback, log_congr same]
    exact begins.opened

/-- The answer of a query is consistent. If it was found by a directory, the database that was read has
no entry of the path asked for. With the flags of directories switched off, the same query from the same
files gives the same answer, or if it was found by a directory, what was known before. -/
theorem consistent_query (answered : (s.query env fs file start).result = .ok a) :
    a.IsConsistent ∧
    (a.kind = some .directory → ∃ l, s.Reaches env fs file start l ∧ a.unmatched = l.known env ∧
      ∀ e ∈ (l.read env).entries, e.file ≠ a.queriedPath) ∧
    (s.withoutFallback.query env fs file start).result =
      .ok (if a.kind = some .directory then a.unmatched else a) := by
  obtain unnamed | ⟨path, place, files, begins⟩ := exists_begins answered
  · rw [result_query_of_unnamed unnamed] at answered
    obtain rfl := Except.ok.inj answered
    refine ⟨?_, fun directory => absurd directory (by simp), ?_⟩
    · exact Answer.isConsistent_unmatched (a := {}) fun _ => ⟨rfl, rfl⟩
    · rw [result_query_of_unnamed unnamed, if_neg (by simp)]
  · obtain ⟨found, tolerated⟩ := begins.result_query_eq_ok_iff.1 answered
    refine ⟨SettingValues.isConsistent_of_find found, ?_, ?_⟩
    · intro directory
      obtain ⟨database, items, finds, unmatched_eq, own⟩ :=
        SettingValues.exists_finds_of_directory found directory
      refine ⟨_, reaches_iff.2 ⟨begins, finds⟩, unmatched_eq, ?_⟩
      intro e mem file_eq
      have queriedPath_eq : a.queriedPath = path := congrArg Answer.queriedPath unmatched_eq
      have chosen := List.filter_eq_nil_iff.1 own e mem
      exact chosen (decide_eq_true (file_eq.trans queriedPath_eq))
    · obtain ⟨found', lines⟩ := SettingValues.find_withoutFallback found
      refine begins.withoutFallback.result_query_eq_ok_iff.2 ⟨found', ?_⟩
      intro line mem
      cases lines line mem with
      | inl logged => exact tolerated line logged
      | inr hasBytes => exact .inl hasBytes

/-- The answer for a header beside the file of the only entry. -/
def headerAnswer : Answer where
  queriedPath := "/b.h"
  searchStart := "."
  database := some "/w/compile_commands.json"
  candidates := [["-D"]]
  directories := ["/w"]
  kind := some .directory
  matchedDirectory := some "/"
  loaded := 1

/-- The header is answered by the directory of the file. -/
lemma result_query_header :
    (soleSession.query (soleEnv "w") (soleFiles "w" .empty) (some "/b.h") (some ".")).result =
      .ok headerAnswer := by
  have normal : Path.IsNormal "/b.h" := ⟨rfl, by cbv⟩
  obtain ⟨log, begins⟩ := exists_begins_sole "w" normal (by decide)
  let l : Lookup := ⟨"/b.h", ".", solePath "w", soleFiles "w" log, [soleItem]⟩
  have begins : soleSession.Begins (soleEnv "w") (soleFiles "w" .empty) (some "/b.h") (some ".")
      l.path l.start l.files := begins
  have finds : soleSession.settings.values.Finds (soleEnv "w") l := finds_sole "w" (by cbv) rfl
  have read_eq : l.read (soleEnv "w") = ⟨solePath "w", [⟨"/a", ["-D"], "/w"⟩], 0⟩ := by cbv
  have known_eq : l.known (soleEnv "w") = headerAnswer.unmatched := by
    rw [Lookup.known, read_eq]
    rfl
  have allowed : (soleSession.settings.values.get "fallback").isTrue = true := rfl
  have answer_eq : Database.answer (soleEnv "w") ⟨solePath "w", [⟨"/a", ["-D"], "/w"⟩], 0⟩ true
      headerAnswer.unmatched = .ok (headerAnswer, ("Directory fallback for header: /" : Text)) := by
    decide +kernel
  have named : (solePath "w").HasBytes := by decide
  rw [begins.result_query_eq_ok_iff, SettingValues.find_of_finds finds, allowed, known_eq, read_eq,
    answer_eq, List.forall_mem_cons, List.forall_mem_singleton]
  refine ⟨rfl, .inl ?_, .inl (Text.hasBytes_ofString _)⟩
  exact Lookup.hasBytes_loadedLine.2 named

/-- Its answer is consistent, and without the flags of directories it has none. -/
theorem consistent_query_header :
    let query (s : Session) :=
      (s.query (soleEnv "w") (soleFiles "w" .empty) (some "/b.h") (some ".")).result
    query soleSession = .ok headerAnswer ∧ headerAnswer.IsConsistent ∧
      query soleSession.withoutFallback = .ok headerAnswer.unmatched := by
  obtain ⟨consistent, _, without⟩ := consistent_query result_query_header
  exact ⟨result_query_header, consistent, without⟩

end Session

end CompileFlags
