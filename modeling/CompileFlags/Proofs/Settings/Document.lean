import CompileFlags.Proofs.Json.Document
import CompileFlags.Settings.Store
import Mathlib

/-!
# Settings as a document

Settings that come from a document are settled: the known ones stand first, no name stands twice, and
a known setting is of its default's kind (`SettingValues.IsSettled`). A document made from settled
settings gives them back, but for floating-point numbers (`Settings.decode_render`); of a plain value
nothing at all is lost (`Value.reread_of_isPlain`).
-/

namespace CompileFlags

/-- How deep brackets may be nested so that they are both written and read. -/
def Env.levels (env : Env) : Nat := min env.readLevels env.writeLevels

lemma Env.four_le_min_levels (env : Env) : 4 ≤ env.levels :=
  le_min env.four_le_levels.1 env.four_le_levels.2

namespace Value

/-- Whether a scalar is a text of characters, a short enough whole number, a truth value or `null`. -/
def IsPlainScalar : Scalar → Prop
  | .int n => (Nat.toDigits 10 n.natAbs).length ≤ Text.maxDigits
  | .float _ => False
  | .text t => t.HasBytes
  | .foreign _ => False
  | _ => True

/-- Whether a value is made of characters, truth values and short enough whole numbers, within some
levels. -/
abbrev IsPlain (levels : Nat) (v : Value) : Prop := v.IsMadeOf IsPlainScalar levels

variable {levels : Nat} {v : Value}

/-- A plain value can be written. -/
lemma isWritable_of_isPlain (plain : v.IsPlain levels) : Json.IsWritable levels v := by
  refine plain.mono fun s plain => ?_
  cases s with
  | float x => exact plain.elim
  | text t => exact Json.isSeparable_of_hasBytes plain
  | _ => exact plain

/-- Nothing of a plain value is lost. -/
lemma reread_of_isPlain (plain : v.IsPlain levels) : v.reread = v := by
  refine plain.reread_eq_self fun s plain => ?_
  cases s with
  | float x => exact plain.elim
  | _ => rfl

/-- A map is of its own kind. -/
lemma exists_entries_of_kind (kind : v.kind = "dict") : ∃ entries, v = .map entries := by
  cases v with
  | map entries => exact ⟨entries, rfl⟩
  | list items => exact absurd kind (by simp [Value.kind])
  | scalar s =>
    cases s with
    | foreign o =>
      have kind : o.kind = "dict" := kind
      have isForeign := o.isForeign
      rw [kind] at isForeign
      exact absurd (by decide) isForeign
    | _ => exact absurd kind (by simp [Value.kind])

/-- A text is of its own kind. -/
lemma exists_text_of_kind (kind : v.kind = "str") : ∃ t, v = .text t := by
  cases v with
  | map entries => exact absurd kind (by simp [Value.kind])
  | list items => exact absurd kind (by simp [Value.kind])
  | scalar s =>
    cases s with
    | text t => exact ⟨t, rfl⟩
    | foreign o =>
      have kind : o.kind = "str" := kind
      have isForeign := o.isForeign
      rw [kind] at isForeign
      exact absurd (by decide) isForeign
    | _ => exact absurd kind (by simp [Value.kind])

/-- A value is of the same kind where it is read. -/
@[simp]
lemma kind_reread (v : Value) : v.reread.kind = v.kind := by
  cases v with
  | scalar s => cases s <;> rfl
  | list items => rfl
  | map entries => rfl

end Value

namespace SettingValues

/-- Whether the value of a known setting is of its default's kind. -/
def HasKind (name : Text) (value : Value) : Prop :=
  ∀ usual, OrderedMap.get? name defaults = some usual → usual.kind = value.kind

/-- Whether settings are as a document gives them: the known ones first, no name twice, and each of
its kind. -/
structure IsSettled (values : SettingValues) : Prop where
  first : defaults.map Prod.fst <+: values.map Prod.fst
  distinct : (values.map Prod.fst).Nodup
  kind : ∀ entry ∈ values, HasKind entry.1 entry.2

variable {values : SettingValues} {levels : Nat}

/-- The names of the known settings are all different. -/
lemma distinct_defaults : (defaults.map Prod.fst).Nodup := by decide

/-- The defaults are settled. -/
lemma isSettled_defaults : IsSettled defaults where
  first := List.prefix_rfl
  distinct := distinct_defaults
  kind entry mem usual found := by
    have own := (OrderedMap.get?_eq_some_iff distinct_defaults).2 mem
    rw [Option.some.inj (found.symm.trans own)]

/-- Settings stay settled where others of the right kinds are written. -/
lemma IsSettled.putAll (settled : values.IsSettled) (entries : SettingValues)
    (kind : ∀ entry ∈ entries, HasKind entry.1 entry.2) :
    IsSettled (OrderedMap.putAll entries values) where
  first := settled.first.trans (OrderedMap.isPrefix_map_fst_putAll entries values)
  distinct := OrderedMap.nodup_putAll entries settled.distinct
  kind entry mem := (OrderedMap.mem_putAll mem).elim (kind entry) (settled.kind entry)

/-- Settings stay settled where a value of the right kind is set. -/
lemma IsSettled.put (settled : values.IsSettled) {name : Text} {value : Value}
    (kind : HasKind name value) : IsSettled (OrderedMap.put name value values) :=
  settled.putAll [(name, value)] (List.forall_mem_singleton.2 kind)

/-- The defaults are plain. -/
lemma isPlain_of_mem_defaults {entry : Text × Value} (mem : entry ∈ defaults) :
    Text.HasBytes entry.1 ∧ entry.2.IsPlain 1 := by
  have none : Value.IsPlain 1 (.object []) := .object (by simp) List.nodup_nil (by simp)
  simp only [defaults, List.mem_cons, List.not_mem_nil, or_false] at mem
  rcases mem with rfl | rfl | rfl | rfl
  · exact ⟨by decide, .scalar (by decide : Text.HasBytes databaseName)⟩
  · exact ⟨by decide, .scalar trivial⟩
  · exact ⟨by decide, none⟩
  · exact ⟨by decide, .scalar (by decide : Text.HasBytes "")⟩

/-- The defaults are a plain map. -/
lemma isPlain_defaults : (Value.object defaults).IsPlain 2 :=
  .object_of_forall (by decide) distinct_defaults fun _ mem => isPlain_of_mem_defaults mem

/-- A setting that can be used stands in its document, and is of the right kind. -/
lemma mem_valid {entries : List (Scalar × Value)} {entry : Text × Value}
    (mem : entry ∈ valid entries) :
    (.text entry.1, entry.2) ∈ entries ∧ HasKind entry.1 entry.2 := by
  obtain ⟨⟨key, value⟩, there, used⟩ := List.mem_filterMap.1 mem
  dsimp only at used
  split at used
  · split at used
    · rename_i unknown
      obtain ⟨⟩ := used
      exact ⟨there, fun usual found =>
        absurd (unknown.symm.trans found) (Option.some_ne_none usual).symm⟩
    · rename_i own found
      split at used
      · rename_i sameKind
        obtain ⟨⟩ := used
        refine ⟨there, fun usual found' => ?_⟩
        rw [← Option.some.inj (found.symm.trans found'), sameKind]
      · exact absurd used (Option.some_ne_none entry).symm
  · exact absurd used (Option.some_ne_none entry).symm

/-- The settings of a document are settled. -/
lemma isSettled_ofDocument (document : Value) : IsSettled (ofDocument document) := by
  cases document with
  | scalar s => exact isSettled_defaults
  | list items => exact isSettled_defaults
  | map entries => exact isSettled_defaults.putAll _ fun _ mem => (mem_valid mem).2

/-- A setting of a document is one of the defaults, or stands in the document. -/
lemma mem_ofDocument {document : Value} {entry : Text × Value} (mem : entry ∈ ofDocument document) :
    entry ∈ defaults ∨ ∃ entries, document = .map entries ∧ (.text entry.1, entry.2) ∈ entries := by
  cases document with
  | scalar s => exact .inl mem
  | list items => exact .inl mem
  | map entries =>
    exact (OrderedMap.mem_putAll mem).symm.imp_right fun mem => ⟨entries, rfl, (mem_valid mem).1⟩

/-- Of settings of the right kinds, all can be used. -/
lemma valid_entriesOf (kind : ∀ entry ∈ values, HasKind entry.1 entry.2) :
    valid (entriesOf values) = values := by
  induction values with
  | nil => rfl
  | cons entry values ih =>
    obtain ⟨first, others⟩ := List.forall_mem_cons.1 kind
    rw [valid] at ih ⊢
    rw [entriesOf_cons, List.filterMap_cons, ih others]
    dsimp only
    cases found : OrderedMap.get? entry.1 defaults with
    | none => rfl
    | some usual =>
      dsimp only
      rw [if_pos (first usual found)]

/-- The document of settled settings gives them. -/
lemma IsSettled.ofDocument_object (settled : values.IsSettled) :
    ofDocument (.object values) = values := by
  rw [Value.object, ofDocument, valid_entriesOf settled.kind,
    OrderedMap.putAll_of_isPrefix settled.first settled.distinct]

/-- The value of a known setting is of its default's kind. -/
lemma IsSettled.kind_get (settled : values.IsSettled) {name : Text} {usual : Value}
    (known : OrderedMap.get? name defaults = some usual) : usual.kind = (values.get name).kind := by
  have there : name ∈ values.map Prod.fst := by
    refine settled.first.subset (OrderedMap.contains_iff.1 ?_)
    rw [OrderedMap.contains_eq_isSome_get?, known]
    rfl
  have found := OrderedMap.contains_iff.2 there
  rw [OrderedMap.contains_eq_isSome_get?] at found
  obtain ⟨value, found⟩ := Option.isSome_iff_exists.1 found
  rw [get, found]
  exact settled.kind _ (OrderedMap.mem_of_get? found) usual known

/-- A setting with a value that is not `null` is there. -/
lemma mem_of_get {name : Text} {value : Value} (found : values.get name = value)
    (ne : value ≠ .null) : (name, value) ∈ values := by
  rw [get] at found
  cases got : OrderedMap.get? name values with
  | none =>
    rw [got] at found
    exact absurd found.symm ne
  | some other =>
    rw [got] at found
    obtain rfl : other = value := found
    exact OrderedMap.mem_of_get? got

/-- The projects of settled settings are a map. -/
lemma IsSettled.get_projects (settled : values.IsSettled) :
    ∃ entries, values.get "projects" = .map entries := by
  have known : OrderedMap.get? ("projects" : Text) defaults = some (.map []) := by cbv
  exact Value.exists_entries_of_kind (settled.kind_get known).symm

/-- The projects of settled settings are a map of what the settings are made of. -/
lemma IsSettled.exists_projects {P : Scalar → Prop} (settled : values.IsSettled)
    (made : (Value.object values).IsMadeOf P levels) :
    ∃ projects, values.get "projects" = .object projects ∧
      (Value.object projects).IsMadeOf P (levels - 1) := by
  obtain ⟨entries, found⟩ := settled.get_projects
  have there : (("projects" : Text), Value.map entries) ∈ values := mem_of_get found (by simp)
  have madeProjects := (made.of_mem (mem_entriesOf.2 there)).2
  obtain ⟨projects, rfl⟩ := madeProjects.exists_members
  exact ⟨projects, found, madeProjects⟩

/-- A map of projects is of the right kind. -/
lemma hasKind_projects (projects : List (Text × Value)) : HasKind "projects" (.object projects) := by
  intro usual found
  obtain rfl : usual = .map [] := Option.some.inj (found.symm.trans (by cbv))
  rfl

/-- The projects that are changed are those of the setting. -/
lemma projects_of_get {projects : List (Text × Value)}
    (found : values.get "projects" = .object projects) :
    values.projects = .ok (entriesOf projects) := by
  rw [SettingValues.projects, found, Value.object]
  cases entriesOf projects with
  | nil => rfl
  | cons entry entries => rfl

/-- Settings as they are read where they were written. -/
def reread (values : SettingValues) : SettingValues :=
  values.map fun entry => (entry.1, entry.2.reread)

/-- A setting is read with its value. -/
lemma get_reread (name : Text) : values.reread.get name = (values.get name).reread := by
  induction values with
  | nil => rfl
  | cons entry values ih =>
    rw [get, get] at ih ⊢
    rw [SettingValues.reread, List.map_cons, ← SettingValues.reread, OrderedMap.get?,
      OrderedMap.get?]
    split
    · rfl
    · exact ih

/-- Nothing of plain settings is lost where they are read. -/
lemma reread_eq_self (plain : (Value.object values).IsPlain levels) : values.reread = values := by
  obtain ⟨_, _, _, all⟩ := plain.of_object
  refine (List.map_congr_left fun entry mem => ?_).trans (List.map_id values)
  exact congrArg (entry.1, ·) (Value.reread_of_isPlain (all entry mem))

/-- Settings stay settled where they are read. -/
lemma IsSettled.reread (settled : values.IsSettled) : values.reread.IsSettled := by
  have names : values.reread.map Prod.fst = values.map Prod.fst := List.map_map ..
  refine ⟨names ▸ settled.first, names ▸ settled.distinct, fun entry mem => ?_⟩
  obtain ⟨old, there, rfl⟩ := List.mem_map.1 mem
  intro usual found
  rw [Value.kind_reread]
  exact settled.kind old there usual found

end SettingValues

/-- The file of settled settings gives them. -/
theorem Settings.decode_render {env : Env} {values : SettingValues} (settled : values.IsSettled)
    (writable : Json.IsWritable env.readLevels (.object values))
    (written : Json.IsWritable env.writeLevels (.object values)) :
    decode env (Json.render env.writeLevels values.toDocument).bytes = .ok values.reread := by
  obtain ⟨text, decoded, parsed⟩ := Json.parse_bytes writable written
  have document : values.toDocument = .object values := rfl
  have reread : (Value.object values).reread = .object values.reread := by
    rw [Value.object, Value.reread, rereadEntries_entriesOf]
    rfl
  rw [decode, document, decoded]
  dsimp only
  rw [parsed, reread]
  exact congrArg Except.ok settled.reread.ofDocument_object

end CompileFlags
