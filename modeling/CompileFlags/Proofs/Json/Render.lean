import CompileFlags.Json.Writer
import CompileFlags.Proofs.Value

/-!
# Documents that are written whole

A value is writable within some levels if its whole numbers are short enough, its texts separable, its
maps known by texts, each once, and its brackets go no deeper (`IsWritable`). Such a value is written
whole (`render_of_isWritable`), as the text that `writeValue` gives. The chunks that are written follow
each other (`Makes.append`), so what a part of a document adds is known from the part alone; and a
document is complete only if each part is (`isComplete_append_iff`), so no bracket in it is too deep
(`isWritable_of_render`).
-/

namespace CompileFlags.Json

mutual

/-- The text of a value that stands at a level. -/
def writeValue (level : Nat) : Value → List Char
  | .scalar s => writeScalar s
  | .list [] => ['[', ']']
  | .list (v :: rest) => '[' :: writeItems (level + 1) (v :: rest) ++ newline level ++ [']']
  | .map [] => ['\x7b', '\x7d']
  | .map (e :: rest) =>
    '\x7b' :: writeMembers (level + 1) (e :: rest) ++ newline level ++ ['\x7d']

/-- The text of the items of a list. -/
def writeItems (level : Nat) : List Value → List Char
  | [] => []
  | v :: rest =>
    newline level ++ writeValue level v ++ (if rest.isEmpty then [] else [',']) ++
      writeItems level rest

/-- The text of the members of an object. -/
def writeMembers (level : Nat) : List (Scalar × Value) → List Char
  | [] => []
  | (k, v) :: rest =>
    newline level ++ writeString (memberKey k) ++ ':' :: ' ' :: writeValue level v ++
      (if rest.isEmpty then [] else [',']) ++ writeMembers level rest

end

/-- Whether a scalar can be written so that it is read. -/
def IsWritableScalar : Scalar → Prop
  | .int n => (Nat.toDigits 10 n.natAbs).length ≤ Text.maxDigits
  | .text t => IsSeparable t
  | .foreign _ => False
  | _ => True

/-- Whether a value can be written within some levels so that it is read. -/
abbrev IsWritable (levels : Nat) (v : Value) : Prop := v.IsMadeOf IsWritableScalar levels

/-- Whether chunks make a text. -/
def Makes (written : List Chunk) (text : List Char) : Prop := Draft.ofChunks written = ⟨text, none⟩

variable {written others : List Chunk} {text more : List Char} {levels level inner : Nat} {v : Value}

/-- What was written before stays, and the rest follows it. -/
lemma Makes.ofChunks_append (makes : Makes written text) :
    Draft.ofChunks (written ++ others) =
      ⟨text ++ (Draft.ofChunks others).text, (Draft.ofChunks others).fault?⟩ := by
  rw [Makes] at makes
  induction written generalizing text with
  | nil =>
    obtain ⟨⟩ := makes
    rfl
  | cons chunk written ih =>
    cases chunk with
    | error fault => exact absurd makes (by simp [Draft.ofChunks])
    | ok first =>
      obtain ⟨text_eq, whole⟩ := Draft.mk.inj makes
      have makes' : Draft.ofChunks written = ⟨(Draft.ofChunks written).text, none⟩ := by rw [← whole]
      rw [List.cons_append, Draft.ofChunks, ih makes', ← text_eq, List.append_assoc]

lemma makes_nil : Makes [] [] := rfl

lemma makes_cons (text : List Char) (makes : Makes others more) :
    Makes (.ok text :: others) (text ++ more) := by
  rw [Makes, Draft.ofChunks, makes]

lemma makes_singleton (text : List Char) : Makes [.ok text] text := by
  have makes := makes_cons text makes_nil
  rwa [List.append_nil] at makes

lemma Makes.append (makes : Makes written text) (makes' : Makes others more) :
    Makes (written ++ others) (text ++ more) := by
  rw [Makes, makes.ofChunks_append, makes']

/-- A scalar that is read again has no fault. -/
lemma IsWritableScalar.scalarFault?_eq_none {s : Scalar} (writable : IsWritableScalar s) :
    scalarFault? s = none := by
  cases s with
  | int n => exact if_neg (Nat.not_lt.2 writable)
  | foreign o => exact writable.elim
  | _ => rfl

/-- A text that has no fault makes itself. -/
lemma makes_of_iff {fault? : Option RenderFault} :
    Makes [.of fault? more] text ↔ fault? = none ∧ more = text := by
  cases fault? with
  | none => simp [Makes, Chunk.of, Draft.ofChunks]
  | some fault => simp [Makes, Chunk.of, Draft.ofChunks]

/-- Items are written one by one. -/
lemma itemChunks_cons (levels level : Nat) (before : List Char) (v : Value) (rest : List Value) :
    itemChunks levels level before (v :: rest) =
      itemChunks levels level before [v] ++ itemChunks levels level [','] rest := by
  rw [itemChunks.eq_def, itemChunks.eq_def levels level before [v]]
  dsimp only
  rw [itemChunks, List.append_nil]

/-- An item is written behind what opens its line. -/
lemma makes_item (before : List Char) (makes : Makes (chunks levels level v) text) :
    Makes (itemChunks levels level before [v]) (before ++ newline level ++ text) := by
  rw [itemChunks.eq_def]
  dsimp only
  rw [itemChunks, List.append_nil]
  split
  · exact makes_cons _ makes
  · exact makes_cons _ makes
  · exact makes_cons _ makes
  · rename_i s _
    rw [chunks, makes_of_iff] at makes
    obtain ⟨whole, rfl⟩ := makes
    exact makes_of_iff.2 ⟨whole, rfl⟩

/-- Items are written whole if each is. -/
lemma makes_itemChunks {items : List Value} (before : List Char) (ne : items ≠ [])
    (each : ∀ v ∈ items, Makes (chunks levels level v) (writeValue level v)) :
    Makes (itemChunks levels level before items) (before ++ writeItems level items) := by
  induction items generalizing before with
  | nil => exact absurd rfl ne
  | cons v items ih =>
    obtain ⟨first, each⟩ := List.forall_mem_cons.1 each
    rw [itemChunks_cons]
    cases items with
    | nil =>
      have makes := (makes_item before first).append (makes_nil)
      simpa [writeItems, itemChunks] using makes
    | cons w items =>
      have makes := (makes_item before first).append (ih [','] (List.cons_ne_nil _ _) each)
      simpa [writeItems] using makes

/-- A member is written behind what opens its line. -/
lemma memberChunks_cons (levels level : Nat) (before : List Chunk) (m : Text × Value)
    (rest : List (Text × Value)) :
    memberChunks levels level before (entriesOf (m :: rest)) =
      before ++ .ok (writeString m.1) :: .ok [':', ' '] :: (chunks levels level m.2 ++
        memberChunks levels level [.ok (',' :: newline level)] (entriesOf rest)) := by
  rw [entriesOf_cons, memberChunks]
  simp [keyFault?, scalarFault?, memberKey]

/-- Members are written whole if their values are. -/
lemma makes_memberChunks {members : List (Text × Value)} {before : List Chunk} (text : List Char)
    (ne : members ≠ []) (opens : Makes before (text ++ newline level))
    (each : ∀ m ∈ members, Makes (chunks levels level m.2) (writeValue level m.2)) :
    Makes (memberChunks levels level before (entriesOf members))
      (text ++ writeMembers level (entriesOf members)) := by
  induction members generalizing before text with
  | nil => exact absurd rfl ne
  | cons m members ih =>
    obtain ⟨first, each⟩ := List.forall_mem_cons.1 each
    rw [memberChunks_cons, entriesOf_cons, writeMembers]
    have named (others : List Char) (makes : Makes
        (memberChunks levels level [.ok (',' :: newline level)] (entriesOf members)) others) :=
      opens.append (makes_cons (writeString m.1) (makes_cons [':', ' '] (first.append makes)))
    cases members with
    | nil => simpa [entriesOf, writeMembers, memberKey] using named [] makes_nil
    | cons w members =>
      have makes := named _ (ih [','] (List.cons_ne_nil _ _) (makes_singleton _) each)
      simpa [entriesOf_cons, memberKey] using makes

/-- What is writable is written whole, wherever it stands within its levels. -/
lemma makes_chunks (level : Nat) (writable : IsWritable inner v) (le : level + inner ≤ levels) :
    Makes (chunks levels level v) (writeValue level v) := by
  -- along the value, whose parts stand one level farther in
  induction writable generalizing level with
  | scalar writable =>
    rw [chunks, writeValue]
    exact makes_of_iff.2 ⟨writable.scalarFault?_eq_none, rfl⟩
  | @list inner items all ih =>
    have shallow : ¬ levels ≤ level := by omega
    rw [chunks, if_neg shallow]
    cases items with
    | nil => exact makes_singleton _
    | cons v items =>
      have written := makes_itemChunks ['['] (List.cons_ne_nil _ _)
        fun w mem => ih w mem (level + 1) (by omega)
      rw [if_neg (by simp), writeValue, List.append_assoc]
      exact written.append (makes_cons _ (makes_singleton _))
  | @object inner members names distinct all ih =>
    have shallow : ¬ levels ≤ level := by omega
    rw [Value.object, chunks, if_neg shallow]
    cases members with
    | nil => exact makes_singleton _
    | cons m members =>
      have opens := makes_cons ['\x7b'] (makes_singleton (newline (level + 1)))
      have written := makes_memberChunks ['\x7b'] (List.cons_ne_nil m members) opens
        fun w mem => ih w mem (level + 1) (by omega)
      have whole := written.append (makes_cons (newline level) (makes_singleton ['\x7d']))
      rw [memberChunks_cons] at whole ⊢
      rw [if_neg (by simp [entriesOf]), entriesOf_cons, writeValue, ← entriesOf_cons]
      simpa using whole

/-- Whether chunks end with no fault. -/
def IsComplete (written : List Chunk) : Prop := (Draft.ofChunks written).fault? = none

/-- Where chunks do not make a text, there is a first one that cannot be written, and just those before it
have been written. -/
lemma exists_chunks_of_fault? {fault : RenderFault}
    (ended : (Draft.ofChunks written).fault? = some fault) :
    ∃ (before : List (List Char)) (rest : List Chunk), written = before.map .ok ++ .error fault :: rest ∧
      (Draft.ofChunks written).text = before.flatten := by
  induction written with
  | nil => exact absurd ended (by simp [Draft.ofChunks])
  | cons chunk written ih =>
    cases chunk with
    | error first =>
      obtain rfl : first = fault := Option.some.inj ended
      exact ⟨[], written, rfl, rfl⟩
    | ok text =>
      obtain ⟨before, rest, written_eq, text_eq⟩ := ih ended
      refine ⟨text :: before, rest, congrArg (.ok text :: ·) written_eq, ?_⟩
      exact congrArg (text ++ ·) text_eq

/-- Chunks are complete if each part is. -/
lemma isComplete_append_iff : IsComplete (written ++ others) ↔ IsComplete written ∧ IsComplete others := by
  induction written with
  | nil => simp [IsComplete, Draft.ofChunks]
  | cons chunk written ih =>
    cases chunk with
    | error fault => simp [IsComplete, Draft.ofChunks]
    | ok text => exact ih

/-- An item is written whole only if its value is. -/
lemma IsComplete.of_item {before : List Char} (whole : IsComplete (itemChunks levels level before [v])) :
    IsComplete (chunks levels level v) := by
  rw [itemChunks.eq_def] at whole
  dsimp only at whole
  have written := (isComplete_append_iff.1 whole).1
  split at written
  · exact written
  · exact written
  · exact written
  · rename_i s _
    rw [chunks]
    cases fault : scalarFault? s with
    | none => rfl
    | some fault' =>
      rw [fault] at written
      exact absurd written (by simp [IsComplete, Chunk.of, Draft.ofChunks])

/-- Items are written whole only if each value is. -/
lemma IsComplete.of_items {items : List Value} {before : List Char}
    (whole : IsComplete (itemChunks levels level before items)) :
    ∀ v ∈ items, IsComplete (chunks levels level v) := by
  induction items generalizing before with
  | nil => exact List.forall_mem_nil _
  | cons v items ih =>
    rw [itemChunks_cons] at whole
    obtain ⟨first, rest⟩ := isComplete_append_iff.1 whole
    exact List.forall_mem_cons.2 ⟨first.of_item, ih rest⟩

/-- Members are written whole only if each value is. -/
lemma IsComplete.of_members {members : List (Text × Value)} {before : List Chunk}
    (whole : IsComplete (memberChunks levels level before (entriesOf members))) :
    ∀ m ∈ members, IsComplete (chunks levels level m.2) := by
  induction members generalizing before with
  | nil => exact List.forall_mem_nil _
  | cons m members ih =>
    rw [memberChunks_cons] at whole
    have behind : IsComplete (chunks levels level m.2 ++
        memberChunks levels level [.ok (',' :: newline level)] (entriesOf members)) :=
      (isComplete_append_iff.1 whole).2
    obtain ⟨first, rest⟩ := isComplete_append_iff.1 behind
    exact List.forall_mem_cons.2 ⟨first, ih rest⟩

/-- What is written whole goes no deeper than what can be written. -/
lemma isMadeOf_of_isComplete {P : Scalar → Prop} (level : Nat) (made : v.IsMadeOf P inner)
    (whole : IsComplete (chunks levels level v)) : v.IsMadeOf P (levels - level) := by
  -- along the value; a list or a map that is written whole leaves a level for its parts
  induction made generalizing level with
  | scalar holds => exact .scalar holds
  | @list inner items all ih =>
    rw [chunks] at whole
    split at whole
    · exact absurd whole (by simp [IsComplete, Draft.ofChunks])
    rename_i shallow
    obtain ⟨left, left_eq⟩ : ∃ left, levels - level = left + 1 := ⟨levels - (level + 1), by omega⟩
    have inside : levels - (level + 1) = left := by omega
    rw [left_eq]
    split at whole
    · rename_i isEmpty
      obtain rfl := List.isEmpty_iff.1 isEmpty
      exact .list (List.forall_mem_nil _)
    · have each := IsComplete.of_items (isComplete_append_iff.1 whole).1
      exact .list fun w mem => inside ▸ ih w mem (level + 1) (each w mem)
  | @object inner members names distinct all ih =>
    rw [Value.object, chunks] at whole
    split at whole
    · exact absurd whole (by simp [IsComplete, Draft.ofChunks])
    rename_i shallow
    obtain ⟨left, left_eq⟩ : ∃ left, levels - level = left + 1 := ⟨levels - (level + 1), by omega⟩
    have inside : levels - (level + 1) = left := by omega
    rw [left_eq]
    split at whole
    · rename_i isEmpty
      rw [entriesOf, List.isEmpty_map] at isEmpty
      obtain rfl := List.isEmpty_iff.1 isEmpty
      exact .object names distinct (List.forall_mem_nil _)
    · have written := (isComplete_append_iff.1 (isComplete_append_iff.1 whole).1).2
      have each := IsComplete.of_members written
      exact .object names distinct fun m mem => inside ▸ ih m mem (level + 1) (each m mem)

/-- What is writable is written whole. -/
lemma render_of_isWritable (writable : IsWritable levels v) :
    render levels v = ⟨writeValue 0 v, none⟩ :=
  makes_chunks 0 writable (Nat.zero_add levels).le

/-- What is read is writable if it is written whole. -/
lemma isWritable_of_render {more : Nat} (writable : IsWritable levels v)
    (whole : (render more v).fault? = none) : IsWritable more v :=
  isMadeOf_of_isComplete 0 writable whole

end CompileFlags.Json
