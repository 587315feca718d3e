import CompileFlags.Proofs.Database
import CompileFlags.Session

/-!
# The items of a file

The entries of a file are those of the items of the array that resolve to it, in the order of the
array (`Database.entriesFor_ofItems`). If there are any, they are the answer, whatever else the
database holds and whether or not a directory would do (`Database.answer_of_entriesFor_ne_nil`);
else there is no exact answer (`Database.kind_answer_of_entriesFor_eq_nil`).
-/

namespace CompileFlags

/-- The options of the entry of an item. -/
def Entry.optionsOf? (env : Env) (item : Value) : Option (List Text) :=
  (Entry.ofValue? env item).map (·.options)

/-- The directory that an item names. -/
def BuildCommand.directoryOf? (item : Value) : Option Text :=
  (BuildCommand.ofValue? item).bind (·.directory)

/-- The directory that an item names is the base of its entry. -/
lemma BuildCommand.directoryOf?_of_entry {env : Env} {item : Value} {e : Entry}
    (entry : Entry.ofValue? env item = some e) : directoryOf? item = some e.base := by
  obtain ⟨c, read, made⟩ := Option.bind_eq_some_iff.1 entry
  obtain ⟨_, _, source, _⟩ := normalize?_eq_some_iff.1 made
  rw [directoryOf?, read]
  exact (source?_eq_some_iff.1 source).2.1

namespace Database

variable {env : Env} {path file : Text} {items : List Value}

/-- The items of an array that have an entry for a file. -/
def itemsFor (env : Env) (items : List Value) (file : Text) : List Value :=
  items.filter fun item => (Entry.ofValue? env item).any (·.file = file)

/-- An item of an array is one of a file if its entry is. -/
lemma mem_itemsFor {item : Value} :
    item ∈ itemsFor env items file ↔
      item ∈ items ∧ ∃ e, Entry.ofValue? env item = some e ∧ e.file = file := by
  rw [itemsFor, List.mem_filter, Option.any_eq_true]
  simp only [decide_eq_true_eq]

/-- The entries of a file are those of its items. -/
lemma entriesFor_ofItems :
    (ofItems env path items).entriesFor file =
      (itemsFor env items file).filterMap (Entry.ofValue? env) := by
  rw [entriesFor, ofItems, List.filter_filterMap, itemsFor, List.filterMap_filter]
  congr 1
  funext item
  cases Entry.ofValue? env item with
  | none => rfl
  | some e =>
    rw [Option.filter_some, Option.any_some]

/-- A file that has items has entries. -/
lemma entriesFor_ofItems_eq_nil_iff :
    (ofItems env path items).entriesFor file = [] ↔ itemsFor env items file = [] := by
  rw [entriesFor_ofItems, List.filterMap_eq_nil_iff, List.eq_nil_iff_forall_not_mem]
  refine forall_congr' fun item => ⟨fun none_of_mem mem => ?_, fun not_mem mem => absurd mem not_mem⟩
  obtain ⟨_, e, entry, _⟩ := mem_itemsFor.1 mem
  exact absurd ((none_of_mem mem).symm.trans entry) (by simp)

/-- The options of a file's entries are those of its items. -/
lemma map_options_entriesFor :
    ((ofItems env path items).entriesFor file).map (·.options) =
      (itemsFor env items file).filterMap (Entry.optionsOf? env) := by
  rw [entriesFor_ofItems, List.map_filterMap]
  rfl

/-- The bases of a file's entries are the directories that its items name. -/
lemma map_base_entriesFor :
    ((ofItems env path items).entriesFor file).map (·.base) =
      (itemsFor env items file).filterMap BuildCommand.directoryOf? := by
  rw [entriesFor_ofItems, List.map_filterMap]
  refine List.filterMap_congr fun item mem => ?_
  obtain ⟨_, e, entry, _⟩ := mem_itemsFor.1 mem
  rw [entry, BuildCommand.directoryOf?_of_entry entry]
  rfl

variable {db : Database} {fallback : Bool} {known : Answer}

/-- The line that is logged about an exact answer. -/
def exactLine (db : Database) (file : Text) : Text :=
  "Exact match: " ++ toString (db.entriesFor file).length ++ " candidate(s)"

/-- A file that has entries is answered with them, whatever the settings allow. -/
lemma answer_of_entriesFor_ne_nil (ne : db.entriesFor known.queriedPath ≠ []) :
    db.answer env fallback known =
      .ok ({ known with
          candidates := (db.entriesFor known.queriedPath).map (·.options)
          directories := (db.entriesFor known.queriedPath).map (·.base)
          kind := some .exact },
        db.exactLine known.queriedPath) := by
  rw [answer, exactLine]
  split
  · exact absurd ‹_› ne
  · rfl

/-- A file that has no entries has no exact answer. -/
lemma kind_answer_of_entriesFor_eq_nil (none : db.entriesFor known.queriedPath = [])
    (unknown : known.kind = .none) {a : Answer} {line : Text}
    (answered : db.answer env fallback known = .ok (a, line)) : a.kind ≠ some .exact := by
  rw [answer, none] at answered
  dsimp only at answered
  split at answered
  · split at answered
    · exact absurd answered (by simp)
    · obtain ⟨⟩ := answered
      rw [unknown]; simp
    · obtain ⟨⟩ := answered
      simp
  · obtain ⟨⟩ := answered
    rw [unknown]; simp

end Database

end CompileFlags
