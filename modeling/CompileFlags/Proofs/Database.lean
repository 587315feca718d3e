import CompileFlags.Database
import CompileFlags.Proofs.Entry
import CompileFlags.Proofs.Path.Resolve
import Mathlib

/-!
# What a database holds

A text is accepted as a database if it is a JSON array whose paths can be resolved; its entries are
those of the items that have one, in their order (`Database.parse_eq_ok_iff`). A file is accepted if
its content is such a text (`Database.load_eq_ok_iff`). Every entry of an accepted text is well
formed, whether its build command gave a command line or a list of arguments
(`Database.isWellFormed_of_parse`).
-/

namespace CompileFlags.Database

variable {env : Env} {levels : Nat} {path text : Text} {db : Database} {items : List Value}

/-- The paths of an array can be resolved if those of each of its build commands can: of its file, and of
the arguments that may be the file too. -/
lemma fault?_eq_none_iff :
    fault? env items = none ↔
      ∀ item ∈ items, ∀ c, BuildCommand.ofValue? item = some c →
        ∀ file directory, c.source? = some (file, directory) →
          ∀ p ∈ file :: relevantArguments ((c.words?.getD []).drop 1),
            Path.fault? env p directory = none := by
  rw [fault?, List.findSome?_eq_none_iff]
  simp only [List.mem_filterMap, forall_exists_index, and_imp]
  constructor
  · intro none item mem c read file directory source p named
    have own := none c item mem read
    rw [BuildCommand.fault?, source] at own
    exact Path.firstFault?_eq_none_iff.1 own p named
  · intro resolved c item mem read
    rw [BuildCommand.fault?]
    split
    · rfl
    · rename_i file directory source
      exact Path.firstFault?_eq_none_iff.2 (resolved item mem c read file directory source)

/-- A text is accepted if it is an array whose paths can be resolved. -/
lemma ofText_eq_ok_iff :
    ofText env levels path text = .ok db ↔
      ∃ items, Json.parse levels text = .ok (.list items) ∧ fault? env items = none ∧
        db = ofItems env path items := by
  rw [ofText]
  constructor
  · intro accepted
    split at accepted
    · exact absurd accepted (by simp)
    · exact absurd accepted (by simp)
    · exact absurd accepted (by simp)
    · rename_i items array
      split at accepted
      · exact absurd accepted (by simp)
      · rename_i resolved
        exact ⟨items, array, resolved, (Except.ok.inj accepted).symm⟩
    · exact absurd accepted (by simp)
  · rintro ⟨items, array, resolved, rfl⟩
    rw [array]
    dsimp only
    rw [resolved]

lemma parse_eq_ok_iff :
    parse env path text = .ok db ↔
      ∃ items, Json.parse env.readLevels text = .ok (.list items) ∧ fault? env items = none ∧
        db = ofItems env path items :=
  ofText_eq_ok_iff

/-- Whether the file at a path holds an array whose paths can be resolved, with these items. -/
structure Holds (env : Env) (fs : FileSystem) (path : Text) (items : List Value) : Prop where
  array : ∃ bytes text, fs.read env.cwd path = .ok bytes ∧ Text.decodeUtf8 bytes = .ok text ∧
    Json.parse (env.readLevels - 1) (Text.unifyNewlines text) = .ok (.list items)
  resolved : fault? env items = none

/-- A file is accepted if it holds an array whose paths can be resolved. -/
lemma load_eq_ok_iff {fs : FileSystem} :
    load env fs path = .ok db ↔ ∃ items, Holds env fs path items ∧ db = ofItems env path items := by
  rw [load]
  constructor
  · intro loaded
    split at loaded
    · exact absurd loaded (by simp)
    · exact absurd loaded (by simp)
    · rename_i bytes read
      split at loaded
      · exact absurd loaded (by simp)
      · rename_i text decoded
        obtain ⟨items, array, resolved, rfl⟩ := ofText_eq_ok_iff.1 loaded
        exact ⟨items, ⟨⟨bytes, text, read, decoded, array⟩, resolved⟩, rfl⟩
  · rintro ⟨items, ⟨⟨bytes, text, read, decoded, array⟩, resolved⟩, rfl⟩
    rw [read]
    dsimp only
    rw [decoded]
    exact ofText_eq_ok_iff.2 ⟨items, array, resolved, rfl⟩

/-- The entries of an array are those of its items. -/
lemma mem_entries_ofItems {e : Entry} :
    e ∈ (ofItems env path items).entries ↔
      ∃ item ∈ items, ∃ c, BuildCommand.ofValue? item = some c ∧ c.normalize? env = some e := by
  simp only [ofItems, List.mem_filterMap, Entry.ofValue?, Option.bind_eq_some_iff]

/-- Every entry of an accepted text is well formed. -/
theorem isWellFormed_of_parse (parsed : parse env path text = .ok db) :
    ∀ e ∈ db.entries, e.IsWellFormed env := by
  obtain ⟨items, _, _, rfl⟩ := parse_eq_ok_iff.1 parsed
  intro e mem
  obtain ⟨item, _, c, _, made⟩ := mem_entries_ofItems.1 mem
  exact Entry.isWellFormed_of_normalize? made

/-- A build command in the home directory, with `--` for its output. -/
def terminatorAsOutput : Text :=
  "[\x7b\"directory\":\"~\",\"file\":\"./a.c\"," ++
    "\"arguments\":[\"cc\",\"-o\",\"--\",\"-c\",\"a.c\",\"-DX\"]\x7d]"

/-- An output named `--` ends nothing, and a relative home directory is resolved. -/
theorem isWellFormed_of_parse_terminatorAsOutput :
    let env : Env := { home := "h", cwd := ⟨["w"], 0⟩, clock := 0 }
    let e : Entry := ⟨"/w/h/a.c", ["-DX"], "~"⟩
    parse env "db" terminatorAsOutput = .ok ⟨"db", [e], 0⟩ ∧ e.IsWellFormed env := by
  intro env e
  have parsed : parse env "db" terminatorAsOutput = .ok ⟨"db", [e], 0⟩ := by cbv
  exact ⟨parsed, isWellFormed_of_parse parsed e List.mem_cons_self⟩

end CompileFlags.Database
