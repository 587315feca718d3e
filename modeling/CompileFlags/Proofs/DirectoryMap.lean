import CompileFlags.DirectoryMap
import CompileFlags.Proofs.OrderedMap
import CompileFlags.Proofs.Path.Nearest
import CompileFlags.Proofs.Path.Resolve
import Mathlib.Data.List.Find
import Mathlib.Data.List.Induction
import Mathlib.Data.List.Nodup

/-!
# What the directory map holds

The directory map is built in two passes: every entry adds its own directory, and then the flags of
every known directory add the directories that they search. As the first flags of a directory stay,
a directory has the flags of its first entry; that entry represents it. A directory without entries
has the flags of the first representative that searches it (`Database.flagsIn?`), and the map gives
exactly these (`get?_ofDatabase`). An entry that does not represent its directory adds nothing.

There is a map at all if every directory that a representative searches can be resolved
(`Database.nearest_eq_ok_iff`, `Database.searchFault?_eq_none_iff`).
-/

namespace CompileFlags

namespace Entry

/-- The directory of an entry's file. -/
def directory (e : Entry) : Text := Path.parent e.file

/-- The directory of an entry has no slash at its end but that of the root. -/
lemma isTrimmed_directory (e : Entry) : Path.IsTrimmed e.directory := Path.isTrimmed_parent e.file

/-- The first of some entries that lie in a directory. -/
def firstIn? (entries : List Entry) (directory : Text) : Option Entry :=
  entries.find? (·.directory = directory)

/-- Whether an entry is the first of some entries that lie in its directory. -/
def Represents (entries : List Entry) (e : Entry) : Prop :=
  firstIn? entries e.directory = some e

instance (entries : List Entry) (e : Entry) : Decidable (Represents entries e) :=
  inferInstanceAs (Decidable (_ = _))

/-- The directories that the options of an entry search for headers. -/
def searched (env : Env) (e : Entry) : List Text :=
  (SearchPath.directories e.options).map (Path.expand env · e.base)

variable {entries : List Entry} {e : Entry}

/-- The earlier entries decide who is first. -/
lemma firstIn?_append (earlier later : List Entry) (directory : Text) :
    firstIn? (earlier ++ later) directory =
      (firstIn? earlier directory).or (firstIn? later directory) :=
  List.find?_append

/-- Entries that come later do not change who represents a directory that has an entry. -/
lemma represents_append_iff (mem : e ∈ entries) (later : List Entry) :
    Represents (entries ++ later) e ↔ Represents entries e := by
  rw [Represents, Represents, firstIn?_append]
  cases h : firstIn? entries e.directory with
  | none => exact absurd (List.find?_eq_none.1 h e mem) (by simp)
  | some first => rfl

/-- An entry that represents its directory is one of the entries. -/
lemma Represents.mem (represents : Represents entries e) : e ∈ entries :=
  List.mem_of_find?_eq_some represents

end Entry

namespace Database

/-- The flags for a directory: those of its first entry, or if it has none those of the first entry
that represents its own directory and searches this one. -/
def flagsIn? (env : Env) (db : Database) (directory : Text) : Option Flags :=
  ((Entry.firstIn? db.entries directory).or
    (db.entries.find? fun e => Entry.Represents db.entries e ∧ directory ∈ e.searched env)).map
      Entry.flags

/-- The flags for a directory are those of an entry. -/
lemma exists_mem_of_flagsIn? {env : Env} {db : Database} {directory : Text} {flags : Flags}
    (found : db.flagsIn? env directory = some flags) : ∃ e ∈ db.entries, e.flags = flags := by
  obtain ⟨e, first, flags_eq⟩ := Option.map_eq_some_iff.1 found
  refine ⟨e, ?_, flags_eq⟩
  cases Option.or_eq_some_iff.1 first with
  | inl first => exact List.mem_of_find?_eq_some first
  | inr searching => exact List.mem_of_find?_eq_some searching.2

end Database

namespace DirectoryMap

/-- The flags of a known directory. -/
def get? (m : DirectoryMap) (directory : Text) : Option Flags :=
  OrderedMap.get? directory m.entries

/-- Whether no directory is known twice. -/
def IsDistinct (m : DirectoryMap) : Prop := (m.entries.map Prod.fst).Nodup

/-- Adds directories with their flags, one after the other. -/
def addAll (m : DirectoryMap) (pairs : List (Text × Flags)) : DirectoryMap :=
  pairs.foldl (fun m pair => m.add pair.1 pair.2) m

variable {m : DirectoryMap}

/-- A directory is known exactly if it has flags. -/
lemma contains_eq_isSome_get? (m : DirectoryMap) (directory : Text) :
    m.contains directory = (m.get? directory).isSome :=
  OrderedMap.contains_eq_isSome_get? directory m.entries

/-- The flags that a directory has stay, whatever is added. -/
lemma get?_add (m : DirectoryMap) (added directory : Text) (flags : Flags) :
    (m.add added flags).get? directory =
      (m.get? directory).or (if added = directory then some flags else none) := by
  rw [add]
  split
  · rename_i known
    rw [contains_eq_isSome_get?] at known
    by_cases h : added = directory
    · obtain ⟨old, e⟩ := Option.isSome_iff_exists.1 known
      rw [← h, e]
      rfl
    · rw [if_neg h, Option.or_none]
  · rw [get?, OrderedMap.get?_append, OrderedMap.get?, OrderedMap.get?]
    simp only [beq_iff_eq]
    rfl

/-- Of all that is added for a directory, the first is kept. -/
lemma get?_addAll (m : DirectoryMap) (pairs : List (Text × Flags)) (directory : Text) :
    (m.addAll pairs).get? directory =
      (m.get? directory).or (OrderedMap.get? directory pairs) := by
  induction pairs generalizing m with
  | nil => exact (Option.or_none).symm
  | cons pair pairs ih =>
    have step : m.addAll (pair :: pairs) = (m.add pair.1 pair.2).addAll pairs := rfl
    rw [step, ih, get?_add, Option.or_assoc, OrderedMap.get?]
    simp only [beq_iff_eq]
    split
    · rfl
    · rfl

/-- No directory becomes known twice. -/
lemma IsDistinct.add (distinct : m.IsDistinct) (added : Text) (flags : Flags) :
    (m.add added flags).IsDistinct := by
  rw [DirectoryMap.add]
  split
  · exact distinct
  · rename_i unknown
    rw [DirectoryMap.contains, OrderedMap.contains_iff] at unknown
    rw [IsDistinct, List.map_append]
    refine List.Nodup.append distinct (List.nodup_singleton _) fun d mem mem' => ?_
    have e : d = added := List.mem_singleton.1 mem'
    exact unknown (e ▸ mem)

/-- No directory becomes known twice, however many are added. -/
lemma IsDistinct.addAll (distinct : m.IsDistinct) (pairs : List (Text × Flags)) :
    (m.addAll pairs).IsDistinct := by
  induction pairs generalizing m with
  | nil => exact distinct
  | cons pair pairs ih => exact ih (distinct.add pair.1 pair.2)

/-- The directories that the flags of the known directories search, each with these flags. -/
def searchPairs (env : Env) (m : DirectoryMap) : List (Text × Flags) :=
  m.entries.flatMap fun entry => (entry.2.searchDirectories env).map (·, entry.2)

/-- The first pass adds the directory of each entry. -/
lemma ofEntries_eq (entries : List Entry) :
    ofEntries entries =
      empty.addAll (entries.map fun e => (Path.asDirectory e.directory, e.flags)) := by
  rw [addAll, List.foldl_map]
  rfl

/-- The second pass adds the directories that known flags search. -/
lemma addSearchPaths_eq (env : Env) (m : DirectoryMap) :
    m.addSearchPaths env = m.addAll (m.searchPairs env) := by
  rw [addAll, searchPairs, List.foldl_flatMap]
  simp only [List.foldl_map]
  rfl

/-- One more entry adds its directory. -/
lemma ofEntries_concat (entries : List Entry) (e : Entry) :
    ofEntries (entries ++ [e]) = (ofEntries entries).add (Path.asDirectory e.directory) e.flags :=
  List.foldl_append

/-- A directory has an entry, or is known after the first pass, as the case may be. -/
lemma get?_ofEntries (entries : List Entry) {directory : Text}
    (trimmed : Path.IsTrimmed directory) :
    (ofEntries entries).get? (Path.asDirectory directory) =
      (Entry.firstIn? entries directory).map Entry.flags := by
  have same (e : Entry) : Path.asDirectory e.directory = Path.asDirectory directory ↔
      e.directory = directory := e.isTrimmed_directory.asDirectory_inj trimmed
  rw [ofEntries_eq, get?_addAll, OrderedMap.get?_map, Entry.firstIn?]
  simp only [same]
  rfl

/-- After the first pass, the first flags of some kind are those of the first entry of that kind
among the representatives. -/
lemma find?_ofEntries (p : Flags → Bool) (entries : List Entry) :
    ((ofEntries entries).entries.find? fun entry => p entry.2) =
      (entries.find? fun e => Entry.Represents entries e ∧ p e.flags).map fun e =>
        (Path.asDirectory e.directory, e.flags) := by
  induction entries using List.reverseRecOn with
  | nil => rfl
  | append_singleton entries e ih =>
    have earlier : (entries.find? fun other =>
        Entry.Represents (entries ++ [e]) other ∧ p other.flags) =
        entries.find? fun other => Entry.Represents entries other ∧ p other.flags :=
      List.find?_congr fun other mem => by
        simp only [Entry.represents_append_iff mem]
    have known : (ofEntries entries).contains (Path.asDirectory e.directory) =
        (Entry.firstIn? entries e.directory).isSome := by
      rw [contains_eq_isSome_get?, get?_ofEntries entries e.isTrimmed_directory,
        Option.isSome_map]
    rw [List.find?_append, earlier, Option.map_or, ← ih, ofEntries_concat, add, known]
    cases h : Entry.firstIn? entries e.directory with
    | none =>
      have represents : Entry.Represents (entries ++ [e]) e := by
        rw [Entry.Represents, Entry.firstIn?_append, h]
        simp [Entry.firstIn?]
      rw [Option.isSome_none, if_neg Bool.false_ne_true, List.find?_append]
      simp [represents]
    | some first =>
      rw [Option.isSome_some, if_pos rfl]
      -- `e` adds nothing; if it equals the first entry of its directory, that one is found before it
      cases found : (ofEntries entries).entries.find? fun entry => p entry.2 with
      | some entry => rfl
      | none =>
        rw [ih, Option.map_eq_none_iff, List.find?_eq_none] at found
        have not : ¬ (Entry.Represents (entries ++ [e]) e ∧ p e.flags = true) := by
          rintro ⟨represents, holds⟩
          have mem : e ∈ entries := by
            rw [Entry.Represents, Entry.firstIn?_append, h] at represents
            exact List.mem_of_find?_eq_some (h.trans represents)
          exact found e mem (decide_eq_true ⟨(Entry.represents_append_iff mem [e]).1 represents, holds⟩)
        simp [not]

/-- The map gives for each directory the flags that the database has for it. -/
theorem get?_ofDatabase (env : Env) (db : Database) {directory : Text}
    (trimmed : Path.IsTrimmed directory) :
    (ofDatabase env db).get? (Path.asDirectory directory) = db.flagsIn? env directory := by
  have searched (e : Entry) : Path.asDirectory directory ∈ e.flags.searchDirectories env ↔
      directory ∈ e.searched env := by
    simp only [Flags.searchDirectories, Entry.searched, List.mem_map]
    refine exists_congr fun p => and_congr_right fun _ => ?_
    exact (Path.isNormal_expand env p e.base).isTrimmed.asDirectory_inj trimmed
  rw [ofDatabase, addSearchPaths_eq, get?_addAll, get?_ofEntries _ trimmed, searchPairs,
    OrderedMap.get?_flatMap, find?_ofEntries fun flags =>
      decide (Path.asDirectory directory ∈ flags.searchDirectories env),
    Database.flagsIn?, Option.map_or, Option.map_map]
  simp only [decide_eq_true_eq, searched]
  rfl

/-- No directory of a database is known twice. -/
lemma isDistinct_ofDatabase (env : Env) (db : Database) : (ofDatabase env db).IsDistinct := by
  have none : empty.IsDistinct := List.nodup_nil
  rw [ofDatabase, addSearchPaths_eq, ofEntries_eq]
  exact (none.addAll _).addAll _

/-- A known directory is that of an entry, or one in normal form that is searched. -/
lemma exists_of_isSome_get? {env : Env} {db : Database} {key : Text}
    (known : ((ofDatabase env db).get? key).isSome = true) :
    ∃ directory, key = Path.asDirectory directory ∧
      ((∃ e ∈ db.entries, directory = e.directory) ∨ Path.IsNormal directory) := by
  rw [ofDatabase, addSearchPaths_eq, get?_addAll, Option.isSome_or, Bool.or_eq_true] at known
  cases known with
  | inl known =>
    rw [ofEntries_eq, get?_addAll] at known
    obtain ⟨flags, found⟩ := Option.isSome_iff_exists.1 known
    obtain ⟨e, mem, pair⟩ := List.mem_map.1 (OrderedMap.mem_of_get? found)
    exact ⟨e.directory, (Prod.ext_iff.1 pair).1.symm, .inl ⟨e, mem, rfl⟩⟩
  | inr known =>
    obtain ⟨flags, found⟩ := Option.isSome_iff_exists.1 known
    obtain ⟨entry, _, mem⟩ := List.mem_flatMap.1 (OrderedMap.mem_of_get? found)
    obtain ⟨searched, mem, pair⟩ := List.mem_map.1 mem
    obtain ⟨p, _, e⟩ := List.mem_map.1 mem
    refine ⟨Path.expand env p entry.2.base, ?_, .inr (Path.isNormal_expand env p entry.2.base)⟩
    exact (Prod.ext_iff.1 pair).1.symm.trans e.symm

/-- Where no directory is known twice, the nearest one is the longest that covers the file. -/
lemma nearest?_eq_some_iff (distinct : m.IsDistinct) {file key : Text} {flags : Flags} :
    m.nearest? file = some (key, flags) ↔
      m.get? key = some flags ∧ Path.covers key file = true ∧
        ∀ other, (m.get? other).isSome = true → Path.covers other file = true →
          other.length ≤ key.length := by
  constructor
  · intro nearest
    refine ⟨?_, Path.covers_of_nearest? nearest, ?_⟩
    · exact (OrderedMap.get?_eq_some_iff distinct).2 (Path.mem_of_nearest? nearest)
    · intro other known covered
      obtain ⟨otherFlags, found⟩ := Option.isSome_iff_exists.1 known
      exact Path.length_le_of_nearest? nearest (OrderedMap.mem_of_get? found) covered
  · rintro ⟨found, covered, longest⟩
    have mem := OrderedMap.mem_of_get? found
    cases nearest : m.nearest? file with
    | none =>
      have not := Path.nearest?_eq_none_iff.1 nearest _ mem
      exact absurd covered (by simp [not])
    | some entry =>
      have coveredEntry := Path.covers_of_nearest? nearest
      have foundEntry := (OrderedMap.get?_eq_some_iff distinct).2 (Path.mem_of_nearest? nearest)
      have le := longest entry.1 (Option.isSome_of_eq_some foundEntry) coveredEntry
      have ge := Path.length_le_of_nearest? nearest mem covered
      have same := Path.eq_of_covers covered coveredEntry (Nat.le_antisymm ge le)
      have sameFlags : some entry.2 = some flags := foundEntry.symm.trans (same ▸ found)
      rw [same, ← Option.some.inj sameFlags]

/-- No directory is nearest exactly if no known directory covers the file. -/
lemma nearest?_eq_none_iff {file : Text} :
    m.nearest? file = none ↔
      ∀ key, (m.get? key).isSome = true → Path.covers key file = false := by
  rw [nearest?, Path.nearest?_eq_none_iff]
  constructor
  · intro not key known
    obtain ⟨flags, found⟩ := Option.isSome_iff_exists.1 known
    exact not _ (OrderedMap.mem_of_get? found)
  · intro not entry mem
    refine not entry.1 ?_
    rw [get?, ← OrderedMap.contains_eq_isSome_get?, OrderedMap.contains_iff]
    exact List.mem_map_of_mem mem

/-- After the first pass, the first flags whose search directories cannot be told are those of the first
such representative. -/
lemma searchFault?_ofEntries (env : Env) (entries : List Entry) :
    (ofEntries entries).searchFault? env =
      (entries.find? fun e => Entry.Represents entries e ∧ (e.flags.searchFault? env).isSome).bind
        fun e => e.flags.searchFault? env := by
  have first (known : List (Text × Flags)) :
      (known.findSome? fun entry => entry.2.searchFault? env) =
        (known.find? fun entry => (entry.2.searchFault? env).isSome).bind
          fun entry => entry.2.searchFault? env := by
    induction known with
    | nil => rfl
    | cons entry known ih =>
      rw [List.findSome?_cons, List.find?_cons]
      cases failed : entry.2.searchFault? env with
      | none => exact ih
      | some fault => exact failed.symm
  rw [searchFault?, first, find?_ofEntries fun flags => (flags.searchFault? env).isSome,
    Option.bind_map]
  rfl

end DirectoryMap

namespace Database

variable {env : Env} {db : Database} {file : Text}

/-- The first reason for which the directories of a database cannot be told: that of the first entry
which represents its directory and searches what cannot be resolved. -/
def searchFault? (env : Env) (db : Database) : Option Fault :=
  (db.entries.find? fun e =>
    Entry.Represents db.entries e ∧ (e.flags.searchFault? env).isSome).bind
      fun e => e.flags.searchFault? env

/-- There is a map unless one of the directories cannot be told. -/
lemma build_eq (env : Env) (db : Database) :
    DirectoryMap.build env db =
      match db.searchFault? env with
      | some fault => .error fault
      | none => .ok (DirectoryMap.ofDatabase env db) := by
  have known : (DirectoryMap.ofEntries db.entries).searchFault? env = db.searchFault? env :=
    DirectoryMap.searchFault?_ofEntries env db.entries
  cases failed : db.searchFault? env with
  | none => simp only [DirectoryMap.build, known, failed]
  | some fault => simp only [DirectoryMap.build, known, failed]

lemma build_eq_ok_iff {m : DirectoryMap} :
    DirectoryMap.build env db = .ok m ↔
      db.searchFault? env = none ∧ m = DirectoryMap.ofDatabase env db := by
  rw [build_eq]
  cases db.searchFault? env with
  | none => simp [eq_comm]
  | some fault => simp

lemma nearest_eq_ok_iff {found : Option (Text × Flags)} :
    db.nearest env file = .ok found ↔ db.searchFault? env = none ∧ found = db.nearest? env file := by
  rw [nearest, build_eq]
  cases db.searchFault? env with
  | none => simp [Except.map, nearest?, eq_comm]
  | some fault => simp [Except.map]

lemma nearest_eq_error_iff {fault : Fault} :
    db.nearest env file = .error fault ↔ db.searchFault? env = some fault := by
  rw [nearest, build_eq]
  cases db.searchFault? env with
  | none => simp [Except.map]
  | some fault => simp [Except.map]

/-- The directories of a database can be told exactly if those that its representatives search can be
resolved. -/
lemma searchFault?_eq_none_iff :
    db.searchFault? env = none ↔ ∀ e, Entry.Represents db.entries e →
      ∀ p ∈ SearchPath.directories e.options, Path.fault? env p e.base = none := by
  have flags_iff (e : Entry) : e.flags.searchFault? env = none ↔
      ∀ p ∈ SearchPath.directories e.options, Path.fault? env p e.base = none :=
    Path.firstFault?_eq_none_iff
  have failing {e : Entry} (found : (db.entries.find? fun e =>
      Entry.Represents db.entries e ∧ (e.flags.searchFault? env).isSome) = some e) :
      Entry.Represents db.entries e ∧ e.flags.searchFault? env ≠ none := by
    simpa [Option.isSome_iff_ne_none] using List.find?_some found
  rw [searchFault?, Option.bind_eq_none_iff]
  constructor
  · intro resolved e represents
    rw [← flags_iff]
    by_contra failed
    have there : (db.entries.find? fun e =>
        Entry.Represents db.entries e ∧ (e.flags.searchFault? env).isSome).isSome = true := by
      rw [List.find?_isSome]
      exact ⟨e, represents.mem, decide_eq_true ⟨represents, Option.isSome_iff_ne_none.2 failed⟩⟩
    obtain ⟨first, found⟩ := Option.isSome_iff_exists.1 there
    exact (failing found).2 (resolved first found)
  · intro resolved e found
    exact absurd ((flags_iff e).2 (resolved e (failing found).1)) (failing found).2

/-- In other words: where each of them is resolved to some path. -/
lemma searchFault?_eq_none_iff_resolve :
    db.searchFault? env = none ↔ ∀ e, Entry.Represents db.entries e →
      ∀ p ∈ SearchPath.directories e.options, ∃ q, Path.resolve env p e.base = .ok q := by
  simp only [searchFault?_eq_none_iff, Path.resolve_eq_ok_iff, exists_and_left, exists_eq, and_true]

end Database

end CompileFlags
