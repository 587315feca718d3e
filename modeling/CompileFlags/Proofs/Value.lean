import CompileFlags.Proofs.Json.Number
import CompileFlags.Proofs.OrderedMap

/-!
# Values that can be kept

A value that is kept as a document comes back as it was, but for floating-point numbers, for which the
number that their digits spell is read (`Value.reread`). What a value is made of, and how deep its lists
and maps go, is said by one relation (`Value.IsMadeOf`): of which scalars, and within how many levels.
-/

namespace CompileFlags

/-- A scalar as it is read where it was written: as it was, but for floating-point numbers. -/
def Scalar.reread : Scalar → Scalar
  | .float x => .float (Json.rereadFloat x)
  | s => s

mutual

/-- A value as it is read where it was written. -/
def Value.reread : Value → Value
  | .scalar s => .scalar s.reread
  | .list items => .list (rereadItems items)
  | .map entries => .map (rereadEntries entries)

/-- The items of a list as they are read where they were written. -/
def rereadItems : List Value → List Value
  | [] => []
  | v :: rest => v.reread :: rereadItems rest

/-- The entries of a map as they are read where they were written. -/
def rereadEntries : List (Scalar × Value) → List (Scalar × Value)
  | [] => []
  | (k, v) :: rest => (k, v.reread) :: rereadEntries rest

end

/-- Texts are the same key if they are equal. -/
lemma Scalar.text_beq_text (s t : Text) : (Scalar.text s == .text t) = (s == t) := by
  have same : (Scalar.text s == .text t) = true ↔ s = t := decide_eq_true_iff
  rw [Bool.eq_iff_iff, same, beq_iff_eq]

/-- Members, which are known by texts, as the entries of a map. -/
def entriesOf (members : List (Text × Value)) : List (Scalar × Value) :=
  members.map fun member => (.text member.1, member.2)

/-- The map of some members. -/
def Value.object (members : List (Text × Value)) : Value := .map (entriesOf members)

/-- The entry of a member stands before those of the others. -/
lemma entriesOf_cons (m : Text × Value) (members : List (Text × Value)) :
    entriesOf (m :: members) = (.text m.1, m.2) :: entriesOf members := rfl

/-- A member is an entry. -/
lemma mem_entriesOf {name : Text} {v : Value} {members : List (Text × Value)} :
    (.text name, v) ∈ entriesOf members ↔ (name, v) ∈ members := by
  rw [entriesOf, List.mem_map]
  constructor
  · rintro ⟨m, mem, e⟩
    obtain ⟨⟩ := e
    exact mem
  · exact fun mem => ⟨_, mem, rfl⟩

/-- Members are known by the entries they make. -/
lemma entriesOf_inj {members others : List (Text × Value)}
    (e : entriesOf members = entriesOf others) : members = others := by
  refine List.map_injective_iff.2 (fun m other e => ?_) e
  obtain ⟨name, v⟩ := m
  obtain ⟨name', v'⟩ := other
  obtain ⟨⟩ := e
  rfl

/-- Members are read with their values. -/
lemma rereadEntries_entriesOf (members : List (Text × Value)) :
    rereadEntries (entriesOf members) = entriesOf (members.map fun m => (m.1, m.2.reread)) := by
  induction members with
  | nil => rfl
  | cons m members ih =>
    rw [entriesOf_cons, rereadEntries, ih]
    rfl

/-- A map is read as it was if its values are. -/
lemma Value.reread_object {members : List (Text × Value)} (same : ∀ m ∈ members, m.2.reread = m.2) :
    (object members).reread = .object members := by
  have same' : (members.map fun m => (m.1, m.2.reread)) = members :=
    (List.map_congr_left fun m mem => congrArg (m.1, ·) (same m mem)).trans (List.map_id members)
  rw [object, reread, rereadEntries_entriesOf, same']

/-- Members are written to the entries as they are to each other. -/
lemma put_entriesOf (name : Text) (v : Value) (members : List (Text × Value)) :
    OrderedMap.put (.text name) v (entriesOf members) =
      entriesOf (OrderedMap.put name v members) := by
  induction members with
  | nil => rfl
  | cons m members ih =>
    rw [entriesOf, List.map_cons, ← entriesOf, OrderedMap.put, OrderedMap.put, ih]
    rw [Scalar.text_beq_text]
    split
    · rfl
    · rfl

/-- Several members are written to the entries as they are to each other. -/
lemma putAll_entriesOf (others members : List (Text × Value)) :
    OrderedMap.putAll (entriesOf others) (entriesOf members) =
      entriesOf (OrderedMap.putAll others members) := by
  induction others generalizing members with
  | nil => rfl
  | cons other others ih =>
    have step := ih (OrderedMap.put other.1 other.2 members)
    rw [← put_entriesOf] at step
    exact step

/-- Whether a value is made of scalars with a property, in lists and maps of at most so many levels, where
maps are known by texts with the property, each once. -/
inductive Value.IsMadeOf (P : Scalar → Prop) : Nat → Value → Prop where
  | scalar {levels : Nat} {s : Scalar} (holds : P s) : IsMadeOf P levels (.scalar s)
  | list {levels : Nat} {items : List Value} (all : ∀ v ∈ items, IsMadeOf P levels v) :
    IsMadeOf P (levels + 1) (.list items)
  | object {levels : Nat} {members : List (Text × Value)} (names : ∀ m ∈ members, P (.text m.1))
    (distinct : (members.map Prod.fst).Nodup) (all : ∀ m ∈ members, IsMadeOf P levels m.2) :
    IsMadeOf P (levels + 1) (.object members)

namespace Value.IsMadeOf

variable {P Q : Scalar → Prop} {levels more : Nat} {v : Value} {members : List (Text × Value)}
  {name : Text}

/-- A property may be exchanged for one that follows from it. -/
lemma mono (made : v.IsMadeOf P levels) (follows : ∀ s, P s → Q s) : v.IsMadeOf Q levels := by
  induction made with
  | scalar holds => exact .scalar (follows _ holds)
  | list all ih => exact .list ih
  | object names distinct all ih => exact .object (fun m mem => follows _ (names m mem)) distinct ih

/-- There may be more levels. -/
lemma of_le (made : v.IsMadeOf P levels) (le : levels ≤ more) : v.IsMadeOf P more := by
  induction made generalizing more with
  | scalar holds => exact .scalar holds
  | list all ih =>
    obtain ⟨more, rfl⟩ := Nat.exists_eq_add_of_le' (Nat.one_le_of_lt le)
    exact .list fun v mem => ih v mem (Nat.le_of_succ_le_succ le)
  | object names distinct all ih =>
    obtain ⟨more, rfl⟩ := Nat.exists_eq_add_of_le' (Nat.one_le_of_lt le)
    exact .object names distinct fun m mem => ih m mem (Nat.le_of_succ_le_succ le)

/-- A map has members. -/
lemma exists_members {entries : List (Scalar × Value)} (made : IsMadeOf P levels (.map entries)) :
    ∃ members, entries = entriesOf members := by
  generalize e : Value.map entries = m at made
  cases made with
  | object names distinct all => exact ⟨_, Value.map.inj e⟩
  | _ => exact absurd e (by simp)

/-- The names of a map have the property and are all different, and its values are made alike. -/
lemma of_object (made : IsMadeOf P levels (.object members)) :
    0 < levels ∧ (∀ m ∈ members, P (.text m.1)) ∧ (members.map Prod.fst).Nodup ∧
      ∀ m ∈ members, m.2.IsMadeOf P (levels - 1) := by
  generalize e : Value.object members = m at made
  cases made with
  | object names distinct all =>
    obtain rfl := entriesOf_inj (Value.map.inj e)
    exact ⟨Nat.succ_pos _, names, distinct, all⟩
  | _ => exact absurd e (by simp [Value.object])

/-- A map is made of what its members are made of. -/
lemma object_of_forall (pos : 0 < levels) (distinct : (members.map Prod.fst).Nodup)
    (each : ∀ m ∈ members, P (.text m.1) ∧ m.2.IsMadeOf P (levels - 1)) :
    IsMadeOf P levels (.object members) := by
  obtain ⟨inner, rfl⟩ := Nat.exists_eq_succ_of_ne_zero (Nat.ne_zero_of_lt pos)
  exact .object (fun m mem => (each m mem).1) distinct fun m mem => (each m mem).2

/-- A value in a map is made alike. -/
lemma of_mem {entries : List (Scalar × Value)} (made : IsMadeOf P levels (.map entries))
    (mem : (.text name, v) ∈ entries) : P (.text name) ∧ v.IsMadeOf P (levels - 1) := by
  obtain ⟨members, rfl⟩ := made.exists_members
  obtain ⟨_, names, _, all⟩ := of_object made
  have mem' := mem_entriesOf.1 mem
  exact ⟨names _ mem', all _ mem'⟩

/-- A value that is made alike may be written to a map. -/
lemma put (made : IsMadeOf P levels (.object members)) (holds : P (.text name))
    (madeValue : v.IsMadeOf P (levels - 1)) :
    IsMadeOf P levels (.object (OrderedMap.put name v members)) := by
  obtain ⟨pos, names, distinct, all⟩ := made.of_object
  refine object_of_forall pos (OrderedMap.nodup_put name v distinct) fun m mem => ?_
  obtain rfl | mem := OrderedMap.mem_put mem
  · exact ⟨holds, madeValue⟩
  · exact ⟨names m mem, all m mem⟩

/-- Members may be left out of a map. -/
lemma filter (made : IsMadeOf P levels (.object members)) (keeps : Text × Value → Bool) :
    IsMadeOf P levels (.object (members.filter keeps)) := by
  obtain ⟨pos, names, distinct, all⟩ := made.of_object
  refine object_of_forall pos (distinct.sublist (List.filter_sublist.map Prod.fst)) fun m mem => ?_
  exact ⟨names m (List.mem_of_mem_filter mem), all m (List.mem_of_mem_filter mem)⟩

end Value.IsMadeOf

/-- Items that are read as they were written make the same list. -/
lemma rereadItems_eq_self {items : List Value} (same : ∀ v ∈ items, v.reread = v) :
    rereadItems items = items := by
  induction items with
  | nil => rfl
  | cons v items ih =>
    obtain ⟨first, others⟩ := List.forall_mem_cons.1 same
    rw [rereadItems, first, ih others]

/-- A value is read as it was written if its scalars are. -/
lemma Value.IsMadeOf.reread_eq_self {P : Scalar → Prop} {levels : Nat} {v : Value}
    (made : v.IsMadeOf P levels)
    (same : ∀ s, P s → s.reread = s) : v.reread = v := by
  induction made with
  | scalar holds => exact congrArg Value.scalar (same _ holds)
  | list all ih => exact congrArg Value.list (rereadItems_eq_self ih)
  | object names distinct all ih => exact reread_object ih

end CompileFlags
