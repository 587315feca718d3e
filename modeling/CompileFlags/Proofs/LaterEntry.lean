import CompileFlags.Proofs.DirectoryMap

/-!
# A later entry

An entry that is appended to a database adds directories, its own and those that its flags search, and
gives them its flags; a directory that was known only because it is searched takes them over. All other
directories keep the flags they have (`DirectoryMap.refines_concat`). So a file gets the same flags as
before or those of the new entry, and its nearest directory becomes no shorter
(`Database.nearest_concat`). This goes on however many entries are appended
(`Database.nearest?_foldl_concat`).
-/

namespace CompileFlags

/-- The directories, with a slash at the end, that an entry gives its flags to. -/
def Entry.keys (env : Env) (e : Entry) : List Text :=
  Path.asDirectory e.directory :: e.flags.searchDirectories env

/-- A database with one more entry at its end. -/
def Database.concat (db : Database) (e : Entry) : Database :=
  { db with entries := db.entries ++ [e] }

namespace DirectoryMap

/-- Whether each directory has the flags that it has in another map, or is among some that are given
new flags. -/
def Refines (added : List Text) (flags : Flags) (m m' : DirectoryMap) : Prop :=
  ∀ directory, m'.get? directory = m.get? directory ∨
    directory ∈ added ∧ m'.get? directory = some flags

variable {added : List Text} {flags : Flags} {m m' : DirectoryMap} {file : Text}

lemma Refines.refl (m : DirectoryMap) : Refines added flags m m := fun _ => .inl rfl

/-- No directory is forgotten. -/
lemma Refines.isSome_get? (refines : Refines added flags m m') {directory : Text}
    (known : (m.get? directory).isSome = true) : (m'.get? directory).isSome = true := by
  cases refines directory with
  | inl same => rw [same, known]
  | inr given => exact Option.isSome_of_eq_some given.2

/-- The nearest directory is the same, with the same flags, or one that has been given new flags. -/
lemma Refines.nearest?_cases (refines : Refines added flags m m') (distinct : m.IsDistinct)
    (distinct' : m'.IsDistinct) :
    m'.nearest? file = m.nearest? file ∨ ∃ key ∈ added, m'.nearest? file = some (key, flags) := by
  cases nearest : m'.nearest? file with
  | none =>
    left
    symm
    rw [nearest?_eq_none_iff] at nearest ⊢
    intro key known
    exact nearest key (refines.isSome_get? known)
  | some entry =>
    obtain ⟨key, found⟩ := entry
    obtain ⟨found', covered, longest⟩ := (nearest?_eq_some_iff distinct').1 nearest
    cases refines key with
    | inl same =>
      left
      symm
      apply (nearest?_eq_some_iff distinct).2
      refine ⟨same.symm.trans found', covered, ?_⟩
      intro other known
      exact longest other (refines.isSome_get? known)
    | inr given =>
      right
      obtain ⟨mem, given⟩ := given
      obtain rfl := Option.some.inj (found'.symm.trans given)
      exact ⟨key, mem, rfl⟩

/-- Where there was a nearest directory there is one, and no shorter one. -/
lemma Refines.exists_nearest? (refines : Refines added flags m m') (distinct : m.IsDistinct)
    (distinct' : m'.IsDistinct) {key : Text} {old : Flags}
    (nearest : m.nearest? file = some (key, old)) :
    ∃ key' new, m'.nearest? file = some (key', new) ∧ key.length ≤ key'.length := by
  obtain ⟨found, covered, _⟩ := (nearest?_eq_some_iff distinct).1 nearest
  have known := refines.isSome_get? (Option.isSome_of_eq_some found)
  cases nearest' : m'.nearest? file with
  | none =>
    have uncovered := nearest?_eq_none_iff.1 nearest' key known
    exact absurd (covered.symm.trans uncovered) (by simp)
  | some entry =>
    obtain ⟨key', new⟩ := entry
    obtain ⟨_, _, longest⟩ := (nearest?_eq_some_iff distinct').1 nearest'
    exact ⟨key', new, rfl, longest key known covered⟩

variable {env : Env} {db : Database} {e : Entry}

/-- An entry whose directory is known after the first pass adds nothing. -/
lemma ofDatabase_concat_of_contains
    (known : (ofEntries db.entries).contains (Path.asDirectory e.directory) = true) :
    ofDatabase env (db.concat e) = ofDatabase env db := by
  rw [ofDatabase, Database.concat, ofEntries_concat, add, if_pos known, ofDatabase]

/-- The directory of an entry is known after the first pass. -/
lemma contains_ofEntries {entries : List Entry} {other : Entry} (mem : other ∈ entries)
    (same : other.directory = e.directory) :
    (ofEntries entries).contains (Path.asDirectory e.directory) = true := by
  rw [contains_eq_isSome_get?, get?_ofEntries _ e.isTrimmed_directory, Option.isSome_map,
    Entry.firstIn?, List.find?_isSome]
  exact ⟨other, mem, decide_eq_true same⟩

/-- The search directories of an entry whose directory is new come last. -/
lemma searchPairs_concat
    (unknown : ¬ (ofEntries db.entries).contains (Path.asDirectory e.directory) = true) :
    (ofEntries (db.concat e).entries).searchPairs env =
      (ofEntries db.entries).searchPairs env ++
        (e.flags.searchDirectories env).map (·, e.flags) := by
  rw [Database.concat, ofEntries_concat, add, if_neg unknown, searchPairs, List.flatMap_append,
    List.flatMap_singleton, searchPairs]

/-- An entry gives its flags to directories of its own, and the others keep theirs. -/
lemma refines_concat (env : Env) (db : Database) (e : Entry) :
    Refines (e.keys env) e.flags (ofDatabase env db) (ofDatabase env (db.concat e)) := by
  by_cases known : (ofEntries db.entries).contains (Path.asDirectory e.directory) = true
  · rw [ofDatabase_concat_of_contains known]
    exact .refl _
  · intro directory
    rw [ofDatabase, ofDatabase, addSearchPaths_eq, addSearchPaths_eq, get?_addAll, get?_addAll,
      searchPairs_concat known, OrderedMap.get?_append, OrderedMap.get?_map_const,
      Database.concat, ofEntries_concat, get?_add]
    -- a directory gets its flags from its entries, from what these search, or from the new entry
    cases (ofEntries db.entries).get? directory with
    | some flags => exact .inl rfl
    | none =>
      by_cases own : Path.asDirectory e.directory = directory
      · rw [if_pos own]
        exact .inr ⟨own ▸ List.mem_cons_self, rfl⟩
      · rw [if_neg own]
        cases OrderedMap.get? directory ((ofEntries db.entries).searchPairs env) with
        | some flags => exact .inl rfl
        | none =>
          by_cases searched : directory ∈ e.flags.searchDirectories env
          · rw [if_pos searched]
            exact .inr ⟨List.mem_cons_of_mem _ searched, rfl⟩
          · rw [if_neg searched]
            exact .inl rfl

end DirectoryMap

namespace Database

variable {env : Env} {db : Database} {file key : Text} {old : Flags}

/-- A file gets the flags it had, or those of the appended entry. -/
lemma nearest?_concat_cases (env : Env) (db : Database) (e : Entry) (file : Text) :
    (db.concat e).nearest? env file = db.nearest? env file ∨
      ∃ key ∈ e.keys env, (db.concat e).nearest? env file = some (key, e.flags) :=
  (DirectoryMap.refines_concat env db e).nearest?_cases (DirectoryMap.isDistinct_ofDatabase env db)
    (DirectoryMap.isDistinct_ofDatabase env (db.concat e))

/-- The nearest directory of a file becomes no shorter. -/
lemma exists_nearest?_concat (e : Entry) (nearest : db.nearest? env file = some (key, old)) :
    ∃ key' new, (db.concat e).nearest? env file = some (key', new) ∧ key.length ≤ key'.length :=
  (DirectoryMap.refines_concat env db e).exists_nearest? (DirectoryMap.isDistinct_ofDatabase env db)
    (DirectoryMap.isDistinct_ofDatabase env (db.concat e)) nearest

/-- However many entries are appended, a file gets the flags it had or those of one of them, and its
nearest directory becomes no shorter. -/
theorem nearest?_foldl_concat (env : Env) (db : Database) (later : List Entry) (file : Text) :
    ((later.foldl concat db).nearest? env file = db.nearest? env file ∨
      ∃ e ∈ later, ∃ key ∈ e.keys env,
        (later.foldl concat db).nearest? env file = some (key, e.flags)) ∧
    ∀ key old, db.nearest? env file = some (key, old) →
      ∃ key' new, (later.foldl concat db).nearest? env file = some (key', new) ∧
        key.length ≤ key'.length := by
  induction later generalizing db with
  | nil => exact ⟨.inl rfl, fun key old nearest => ⟨key, old, nearest, Nat.le_refl _⟩⟩
  | cons e later ih =>
    obtain ⟨cases', noShorter⟩ := ih (db.concat e)
    rw [List.foldl_cons]
    constructor
    · cases cases' with
      | inl same =>
        rw [same]
        cases nearest?_concat_cases env db e file with
        | inl same => exact .inl same
        | inr given => exact .inr ⟨e, List.mem_cons_self, given⟩
      | inr given =>
        obtain ⟨other, mem, given⟩ := given
        exact .inr ⟨other, List.mem_cons_of_mem e mem, given⟩
    · intro key old nearest
      obtain ⟨key', new, nearest', le⟩ := exists_nearest?_concat e nearest
      obtain ⟨key'', newest, nearest'', le'⟩ := noShorter key' new nearest'
      exact ⟨key'', newest, nearest'', le.trans le'⟩

/-- What the appended entry searches is looked at exactly if its directory is new, and after all else. -/
lemma searchFault?_concat (env : Env) (db : Database) (e : Entry) :
    (db.concat e).searchFault? env =
      (db.searchFault? env).or
        (if ∃ other ∈ db.entries, other.directory = e.directory then none
        else e.flags.searchFault? env) := by
  have step := DirectoryMap.ofEntries_concat db.entries e
  rw [searchFault?, searchFault?, ← DirectoryMap.searchFault?_ofEntries,
    ← DirectoryMap.searchFault?_ofEntries, concat, step, DirectoryMap.add]
  by_cases known : ∃ other ∈ db.entries, other.directory = e.directory
  · obtain ⟨other, mem, same⟩ := known
    rw [if_pos (DirectoryMap.contains_ofEntries mem same), if_pos ⟨other, mem, same⟩, Option.or_none]
  · have unknown : ¬ (DirectoryMap.ofEntries db.entries).contains
        (Path.asDirectory e.directory) = true := by
      rw [DirectoryMap.contains_eq_isSome_get?, DirectoryMap.get?_ofEntries _ e.isTrimmed_directory,
        Option.isSome_map, Entry.firstIn?, List.find?_isSome]
      simpa using known
    rw [if_neg unknown, if_neg known, DirectoryMap.searchFault?, List.findSome?_append,
      DirectoryMap.searchFault?]
    simp

lemma nearest_concat_of_known (env : Env) {e : Entry} (file : Text)
    (known : ∃ other ∈ db.entries, other.directory = e.directory) :
    (db.concat e).nearest env file = db.nearest env file := by
  obtain ⟨other, mem, same⟩ := known
  have fault_eq := searchFault?_concat env db e
  rw [if_pos ⟨other, mem, same⟩, Option.or_none] at fault_eq
  rw [nearest, nearest, build_eq, build_eq, fault_eq,
    DirectoryMap.ofDatabase_concat_of_contains (DirectoryMap.contains_ofEntries mem same)]

/-- An entry that is appended refines the answers for directories, unless it takes them away: that is so
exactly if its directory has no entry yet and what it searches cannot be resolved. Otherwise a file gets
the flags it had, or those of the entry by a directory of the entry; and where it had a nearest directory
it has one that is no shorter. Nothing changes at all if the directory of the entry has entries already. -/
theorem nearest_concat (env : Env) (db : Database) (e : Entry) (file : Text) :
    (∀ fault, (db.concat e).nearest env file = .error fault ↔
      db.nearest env file = .error fault ∨
        (∃ found, db.nearest env file = .ok found) ∧
          (∀ other ∈ db.entries, other.directory ≠ e.directory) ∧
          e.flags.searchFault? env = some fault) ∧
    (∀ found found', db.nearest env file = .ok found → (db.concat e).nearest env file = .ok found' →
      (found' = found ∨
        ∃ key ∈ e.keys env, (DirectoryMap.ofDatabase env (db.concat e)).contains key = true ∧
          found' = some (key, e.flags)) ∧
      ∀ key old, found = some (key, old) →
        ∃ key' new, found' = some (key', new) ∧ key.length ≤ key'.length) ∧
    ((∃ other ∈ db.entries, other.directory = e.directory) →
      (db.concat e).nearest env file = db.nearest env file) := by
  refine ⟨?_, ?_, nearest_concat_of_known env file⟩
  · intro fault
    rw [nearest_eq_error_iff, nearest_eq_error_iff, searchFault?_concat]
    simp only [nearest_eq_ok_iff, exists_and_left, exists_eq, and_true]
    cases db.searchFault? env with
    | some own => simp
    | none =>
      -- the search paths of an entry are looked at only if it is the first of its directory
      by_cases known : ∃ other ∈ db.entries, other.directory = e.directory
      · rw [if_pos known]
        obtain ⟨other, mem, same⟩ := known
        simpa using fun new => absurd same (new other mem)
      · rw [if_neg known]
        simpa using fun _ => by simpa using known
  · intro found found' told told'
    obtain ⟨_, rfl⟩ := nearest_eq_ok_iff.1 told
    obtain ⟨_, rfl⟩ := nearest_eq_ok_iff.1 told'
    refine ⟨?_, fun _ _ => exists_nearest?_concat e⟩
    cases nearest?_concat_cases env db e file with
    | inl same => exact .inl same
    | inr given =>
      obtain ⟨key, mem, nearest⟩ := given
      obtain ⟨found, _⟩ := (DirectoryMap.nearest?_eq_some_iff
        (DirectoryMap.isDistinct_ofDatabase env (db.concat e))).1 nearest
      refine .inr ⟨key, mem, ?_, nearest⟩
      rw [DirectoryMap.contains_eq_isSome_get?, found]
      rfl

/-- An entry in a directory that was only searched takes it over, and another one in a directory that
has an entry changes nothing. -/
theorem nearest_concat_searched :
    let env : Env := { home := "/", cwd := ⟨[], 0⟩, clock := 0 }
    let db : Database := ⟨"db", [⟨"/p/a.c", ["-Iinc"], "/p"⟩], 0⟩
    let inner : Entry := ⟨"/p/inc/b.c", ["-DB"], "/p"⟩
    let beside : Entry := ⟨"/p/c.c", ["-DC"], "/p"⟩
    let file : Text := "/p/inc/x.h"
    db.nearest env file = .ok (some (("/p/inc/" : Text), ⟨["-Iinc"], "/p"⟩)) ∧
      (db.concat inner).nearest env file = .ok (some (("/p/inc/" : Text), inner.flags)) ∧
      (∃ key' new, some (("/p/inc/" : Text), inner.flags) = some (key', new) ∧
        ("/p/inc/" : Text).length ≤ key'.length) ∧
      (∃ other ∈ db.entries, other.directory = beside.directory) ∧
      (db.concat beside).nearest env file = db.nearest env file := by
  intro env db inner beside file
  have nearest : db.nearest env file = .ok (some (("/p/inc/" : Text), ⟨["-Iinc"], "/p"⟩)) := by
    decide +kernel
  have taken : (db.concat inner).nearest env file =
      .ok (some (("/p/inc/" : Text), inner.flags)) := by
    decide +kernel
  have known : ∃ other ∈ db.entries, other.directory = beside.directory := by decide +kernel
  obtain ⟨_, refines, _⟩ := nearest_concat env db inner file
  obtain ⟨_, _, same⟩ := nearest_concat env db beside file
  exact ⟨nearest, taken, (refines _ _ nearest taken).2 _ _ rfl, known, same known⟩

/-- An entry in a directory of its own takes the flags of all files away, if it searches the directory of
a user that cannot be looked up. -/
theorem nearest_concat_unaskable :
    let env : Env := { home := "/", cwd := ⟨[], 0⟩, clock := 0 }
    let db : Database := ⟨"db", [⟨"/p/a.c", ["-DA"], "/p"⟩], 0⟩
    let e : Entry := ⟨"/q/b.c", ["-I~\x00x"], "/q"⟩
    db.nearest env "/p/x.h" = .ok (some (("/p/" : Text), ⟨["-DA"], "/p"⟩)) ∧
      (db.concat e).nearest env "/p/x.h" = .error (.access .nullCharacter) := by
  decide +kernel

end Database

end CompileFlags
