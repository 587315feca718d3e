import CompileFlags.Proofs.Json.Value

/-!
# Surrogates in JSON

A high surrogate and a low one right after it are written as the character that the two stand for
(`escapeOne_pair`), so a text and the text with such characters in place of the surrogates
(`paired`) are written alike. The latter is separable, and is the text itself if that is
(`paired_eq_self_iff`). So what is read of a written value is the value with its texts paired
(`parse_render_paired_append`).
-/

namespace CompileFlags

namespace Json

variable {c d : CodePoint} {t : Text}

/-- Whether two code points are a high surrogate and a low one. -/
def isPair (c d : CodePoint) : Bool := isHighSurrogate c.number && isLowSurrogate d.number

/-- The character that two surrogates stand for. -/
def pair (c d : CodePoint) : CodePoint :=
  .ofNumber (0x10000 + (c.number - 0xd800) * 0x400 + (d.number - 0xdc00))

/-- A text with the character for each pair of surrogates in it. -/
def paired : Text → Text
  | [] => []
  | [c] => [c]
  | c :: d :: rest => if isPair c d then pair c d :: paired rest else c :: paired (d :: rest)

/-- Two surrogates stand for a character, with a number made of theirs. -/
lemma exists_pair_eq (isPair : isPair c d = true) :
    ∃ character : Char, pair c d = .char character ∧
      character.toNat = 0x10000 + (c.number - 0xd800) * 0x400 + (d.number - 0xdc00) := by
  simp only [Json.isPair, isHighSurrogate, isLowSurrogate, Bool.and_eq_true,
    decide_eq_true_eq] at isPair
  rw [pair]
  generalize number_eq : 0x10000 + (c.number - 0xd800) * 0x400 + (d.number - 0xdc00) = n
  have valid : n.isValidChar := .inr (by omega)
  refine ⟨Char.ofNat n, ?_, ?_⟩
  · rw [CodePoint.ofNumber, dif_neg (by omega)]
  · rw [Char.ofNat, dif_pos valid]
    rfl

lemma escapeOne_of_surrogate (surrogate : 0xd800 ≤ c.number ∧ c.number ≤ 0xdfff) :
    escapeOne c = unitEscape c.number := by
  cases c with
  | surrogate n => rfl
  | char c =>
    have number_eq : c.val.toNat = (CodePoint.char c).number := rfl
    rcases c.valid with low | high
    · omega
    · omega

/-- A character that takes two numbers is written by those of two surrogates. -/
lemma escapeChar_of_le {c : Char} (le : 0x10000 ≤ c.toNat) :
    escapeChar c = unitEscape (0xd800 + (c.toNat - 0x10000) / 0x400) ++
      unitEscape (0xdc00 + (c.toNat - 0x10000) % 0x400) := by
  have ne {small : Char} (lt : small.toNat < 0x10000) : c ≠ small := by
    rintro rfl
    omega
  have unprintable : (decide (' ' ≤ c) && decide (c ≤ '~')) = false := by
    rw [Bool.and_eq_false_iff]
    right
    rw [decide_eq_false_iff_not, Char.le_def, UInt32.le_iff_toNat_le, Nat.not_le]
    exact Nat.lt_of_lt_of_le (by decide) le
  rw [escapeChar, if_neg (ne (by decide)), if_neg (ne (by decide)), if_neg (ne (by decide)),
    if_neg (ne (by decide)), if_neg (ne (by decide)), if_neg (ne (by decide)),
    if_neg (ne (by decide)), unprintable, if_neg Bool.false_ne_true, if_neg (Nat.not_lt.2 le)]

/-- Two surrogates are written as their character is. -/
lemma escapeOne_pair (isPair : isPair c d = true) :
    escapeOne (pair c d) = escapeOne c ++ escapeOne d := by
  obtain ⟨character, pair_eq, number_eq⟩ := exists_pair_eq isPair
  simp only [Json.isPair, isHighSurrogate, isLowSurrogate, Bool.and_eq_true,
    decide_eq_true_eq] at isPair
  have high : 0xd800 + (character.toNat - 0x10000) / 0x400 = c.number := by omega
  have low : 0xdc00 + (character.toNat - 0x10000) % 0x400 = d.number := by omega
  rw [pair_eq, escapeOne, escapeChar_of_le (by omega), high, low,
    escapeOne_of_surrogate (by omega), escapeOne_of_surrogate (by omega)]

/-- The character for two surrogates is none. -/
lemma not_surrogate_pair (isPair : isPair c d = true) :
    isHighSurrogate (pair c d).number = false ∧ isLowSurrogate (pair c d).number = false := by
  obtain ⟨character, pair_eq, _⟩ := exists_pair_eq isPair
  rw [pair_eq]
  exact not_surrogate_of_char character

/-- A text is written as it is with its surrogates paired. -/
lemma writeString_paired (t : Text) : writeString (paired t) = writeString t := by
  have same : (paired t).flatMap escapeOne = t.flatMap escapeOne := by
    induction t using paired.induct with
    | case1 => rfl
    | case2 c => rfl
    | case3 c d rest isPair ih =>
      rw [paired, if_pos isPair, List.flatMap_cons, ih, escapeOne_pair isPair, List.flatMap_cons,
        List.flatMap_cons, List.append_assoc]
    | case4 c d rest apart ih =>
      rw [paired, if_neg apart, List.flatMap_cons, ih, ← List.flatMap_cons]
  rw [writeString, writeString, same]

/-- A low surrogate that a text starts with when its surrogates are paired was there before. -/
lemma head?_of_head?_paired (head : (paired t).head? = some d)
    (isLow : isLowSurrogate d.number = true) : t.head? = some d := by
  cases t using paired.fun_cases with
  | case1 => exact head
  | case2 c => exact head
  | case3 c d' rest isPair =>
    rw [paired, if_pos isPair] at head
    obtain rfl := Option.some.inj head
    rw [(not_surrogate_pair isPair).2] at isLow
    exact absurd isLow Bool.false_ne_true
  | case4 c d' rest apart =>
    rw [paired, if_neg apart] at head
    exact head

/-- A text is separable when its surrogates are paired. -/
lemma isSeparable_paired (t : Text) : IsSeparable (paired t) := by
  induction t using paired.induct with
  | case1 => exact .nil
  | case2 c => exact .singleton c
  | case3 c d rest isPair ih =>
    rw [paired, if_pos isPair]
    refine List.isChain_cons.2 ⟨fun e head high => ?_, ih⟩
    rw [(not_surrogate_pair isPair).1] at high
    exact absurd high.1 Bool.false_ne_true
  | case4 c d rest apart ih =>
    rw [paired, if_neg apart]
    refine List.isChain_cons.2 ⟨fun e head high => apart ?_, ih⟩
    -- only the next code point itself can be a low surrogate behind this one
    obtain rfl := Option.some.inj (head?_of_head?_paired head high.2)
    exact Bool.and_eq_true_iff.2 high

/-- The texts without a pair of surrogates are those that pairing leaves as they are. -/
lemma paired_eq_self_iff : paired t = t ↔ IsSeparable t := by
  constructor
  · intro same
    rw [← same]
    exact isSeparable_paired t
  · intro separable
    induction t using paired.induct with
    | case1 => rfl
    | case2 c => rfl
    | case3 c d rest isPair ih =>
      have apart := (List.isChain_cons_cons.1 separable).1
      exact absurd (Bool.and_eq_true_iff.1 isPair) apart
    | case4 c d rest apart ih =>
      rw [paired, if_neg apart, ih (List.isChain_cons_cons.1 separable).2]

/-- Characters stay as they are. -/
lemma paired_of_hasBytes (hasBytes : t.HasBytes) : paired t = t :=
  paired_eq_self_iff.2 (isSeparable_of_hasBytes hasBytes)

end Json

/-- A scalar with the surrogates of its text paired. -/
def Scalar.paired : Scalar → Scalar
  | .text t => .text (Json.paired t)
  | s => s

mutual

/-- A value with the surrogates of its texts paired. -/
def Value.paired : Value → Value
  | .scalar s => .scalar s.paired
  | .list items => .list (pairedItems items)
  | .map entries => .map (pairedEntries entries)

/-- The items of a list with the surrogates of their texts paired. -/
def pairedItems : List Value → List Value
  | [] => []
  | v :: rest => v.paired :: pairedItems rest

/-- The entries of a map with the surrogates of their texts paired. -/
def pairedEntries : List (Scalar × Value) → List (Scalar × Value)
  | [] => []
  | (k, v) :: rest => (k.paired, v.paired) :: pairedEntries rest

end

lemma pairedItems_eq_map (items : List Value) : pairedItems items = items.map Value.paired := by
  induction items with
  | nil => rfl
  | cons v items ih => rw [pairedItems, ih, List.map_cons]

lemma pairedEntries_entriesOf (members : List (Text × Value)) :
    pairedEntries (entriesOf members) =
      entriesOf (members.map fun m => (Json.paired m.1, m.2.paired)) := by
  induction members with
  | nil => rfl
  | cons m members ih =>
    rw [entriesOf_cons, pairedEntries, ih]
    rfl

namespace Value.IsMadeOf

variable {P : Scalar → Prop} {levels : Nat}

/-- What the items of a list are made of with their surrogates paired, the list is made of too. -/
lemma paired_list {items : List Value} (all : ∀ v ∈ items, v.paired.IsMadeOf P levels) :
    (Value.list items).paired.IsMadeOf P (levels + 1) := by
  rw [Value.paired, pairedItems_eq_map]
  exact .list (List.forall_mem_map.2 all)

/-- What the members of a map are made of with their surrogates paired, the map is made of too, if
its names are made of characters. -/
lemma paired_object {members : List (Text × Value)} (hasBytes : ∀ m ∈ members, m.1.HasBytes)
    (distinct : (members.map Prod.fst).Nodup)
    (each : ∀ m ∈ members, P (.text m.1) ∧ m.2.paired.IsMadeOf P levels) :
    (Value.object members).paired.IsMadeOf P (levels + 1) := by
  have names : (members.map fun m => (Json.paired m.1, m.2.paired)) =
      members.map fun m => (m.1, m.2.paired) :=
    List.map_congr_left fun m mem => by rw [Json.paired_of_hasBytes (hasBytes m mem)]
  rw [Value.object, Value.paired, pairedEntries_entriesOf, names]
  refine object_of_forall levels.succ_pos ?_ (List.forall_mem_map.2 each)
  rw [List.map_map]
  exact distinct

end Value.IsMadeOf

namespace Json

variable {levels more : Nat} {v : Value} {rest : Text}

lemma writeScalar_paired (s : Scalar) : writeScalar s.paired = writeScalar s := by
  cases s with
  | text t => exact writeString_paired t
  | _ => rfl

lemma scalarFault?_paired (s : Scalar) : scalarFault? s.paired = scalarFault? s := by
  cases s <;> rfl

lemma keyFault?_paired (k : Scalar) : keyFault? k.paired = keyFault? k := by
  cases k <;> rfl

lemma writeString_memberKey_paired (k : Scalar) :
    writeString (memberKey k.paired) = writeString (memberKey k) := by
  cases k with
  | text t => exact writeString_paired t
  | _ => rfl

lemma isEmpty_pairedItems (items : List Value) : (pairedItems items).isEmpty = items.isEmpty := by
  cases items <;> rfl

lemma isEmpty_pairedEntries (entries : List (Scalar × Value)) :
    (pairedEntries entries).isEmpty = entries.isEmpty := by
  cases entries <;> rfl

/-- An item is written as it is with its surrogates paired if its value is. -/
lemma itemChunks_singleton_paired {levels level : Nat} (before : List Char)
    (same : chunks levels level v.paired = chunks levels level v) :
    itemChunks levels level before [v.paired] = itemChunks levels level before [v] := by
  rw [itemChunks.eq_def, itemChunks.eq_def levels level before [v]]
  cases v with
  | scalar s =>
    cases s with
    | text t =>
      dsimp only [Value.paired, Scalar.paired]
      rw [← writeScalar_paired (.text t)]
      rfl
    | _ => rfl
  | list items => exact congrArg (fun written => (.ok (before ++ newline level) :: written) ++ _) same
  | map entries => exact congrArg (fun written => (.ok (before ++ newline level) :: written) ++ _) same

mutual

/-- A value is written as it is with its surrogates paired. -/
lemma chunks_paired (levels level : Nat) (v : Value) :
    chunks levels level v.paired = chunks levels level v := by
  cases v with
  | scalar s => rw [Value.paired, chunks, chunks, scalarFault?_paired, writeScalar_paired]
  | list items =>
    rw [Value.paired, chunks, chunks, isEmpty_pairedItems, itemChunks_paired levels (level + 1) ['['] items]
  | map entries =>
    rw [Value.paired, chunks, chunks, isEmpty_pairedEntries,
      memberChunks_paired levels (level + 1) [] entries]

lemma itemChunks_paired (levels level : Nat) (before : List Char) (items : List Value) :
    itemChunks levels level before (pairedItems items) = itemChunks levels level before items := by
  cases items with
  | nil => rfl
  | cons v rest =>
    have first := chunks_paired levels level v
    rw [pairedItems, itemChunks_cons, itemChunks_cons levels level before v,
      itemChunks_paired levels level [','] rest, itemChunks_singleton_paired before first]

lemma memberChunks_paired (levels level : Nat) (before : List Chunk)
    (entries : List (Scalar × Value)) :
    memberChunks levels level before (pairedEntries entries) = memberChunks levels level before entries := by
  cases entries with
  | nil => rfl
  | cons e rest =>
    obtain ⟨k, v⟩ := e
    rw [pairedEntries, memberChunks, memberChunks, keyFault?_paired, writeString_memberKey_paired,
      chunks_paired levels level v, memberChunks_paired levels level _ rest]

end

/-- What is read of a written value is the value with the surrogates of its texts paired, whatever
blanks follow. -/
theorem parse_render_paired_append (writable : IsWritable levels v.paired)
    (written : IsWritable more v.paired) (blank : ∀ c ∈ rest, isBlank c = true) :
    (render more v).fault? = none ∧
      parse levels (Text.ofChars (render more v).text ++ rest) = .ok v.paired.reread := by
  have draft_eq : render more v = ⟨writeValue 0 v.paired, none⟩ := by
    rw [← render_of_isWritable written, render, render, chunks_paired]
  rw [draft_eq]
  exact ⟨rfl, parse_writeValue_append writable blank⟩

end Json

end CompileFlags
