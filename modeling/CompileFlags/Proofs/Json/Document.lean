import CompileFlags.Proofs.Bytes
import CompileFlags.Proofs.Json.Value
import CompileFlags.Text.Blank

/-!
# JSON documents as files

A written value holds line feeds, but no carriage return (`return_not_mem_writeValue`), so the line
breaks of a document stay as they are when it is read from its file (`parse_bytes`).
-/

namespace CompileFlags

/-- A text without carriage returns has its line breaks as they should be. -/
lemma Text.unifyNewlines_of_not_mem {t : Text} (none : .char '\r' ∉ t) : unifyNewlines t = t := by
  induction t using unifyNewlines.induct with
  | case1 => rfl
  | case2 rest ih => exact absurd List.mem_cons_self none
  | case3 c rest other ih =>
    rw [List.mem_cons, not_or] at none
    rw [unifyNewlines, ih none.2, if_neg (Ne.symm none.1)]
    exact other

namespace Json

variable {levels more : Nat} {v : Value}

/-- Digits are no carriage returns. -/
lemma return_not_mem_digits {digits : List Char} (all : ∀ d ∈ digits, d.isDigit = true) :
    '\r' ∉ digits :=
  fun mem => absurd (all _ mem) (by decide)

/-- Hexadecimal digits are no carriage returns. -/
lemma return_not_mem_toDigits (n : Nat) : '\r' ∉ Nat.toDigits 16 n := by
  have single : ∀ d < 16, '\r' ≠ d.digitChar := by decide
  induction n using Nat.base_induction 16 (by decide) with
  | single n lt =>
    rw [Nat.toDigits_of_lt_base lt, List.mem_singleton]
    exact single n lt
  | digit n d lt pos ih =>
    rw [← Nat.toDigits_append_toDigits (by decide) pos lt, Nat.toDigits_of_lt_base lt,
      List.mem_append, List.mem_singleton]
    exact not_or.2 ⟨ih, single d lt⟩

/-- A numeric escape holds no carriage return. -/
lemma return_not_mem_unitEscape (n : Nat) : '\r' ∉ unitEscape n := by
  have digits : '\r' ∉ Text.hex 4 n := by
    rw [Text.hex, List.mem_append, not_or]
    exact ⟨fun mem => absurd (List.eq_of_mem_replicate mem) (by decide), return_not_mem_toDigits n⟩
  simp [unitEscape, digits]

/-- What stands for a code point in a string holds no carriage return. -/
lemma return_not_mem_of_escaped {c : CodePoint} {written : List Char} (escaped : Escaped c written) :
    '\r' ∉ written := by
  cases escaped with
  | @plain c _ _ printable =>
    rw [List.mem_singleton]
    rintro rfl
    exact absurd printable (by decide)
  | @short c letter isShort =>
    have ne : '\r' ≠ letter := by
      rintro rfl
      exact Option.some_ne_none c isShort.symm
    simp [ne]
  | unit lt => exact return_not_mem_unitEscape _
  | pair isHigh isLow number_eq =>
    rw [List.mem_append, not_or]
    exact ⟨return_not_mem_unitEscape _, return_not_mem_unitEscape _⟩

/-- A written text holds no carriage return. -/
lemma return_not_mem_writeString (t : Text) : '\r' ∉ writeString t := by
  have escaped (c : CodePoint) : '\r' ∉ escapeOne c := return_not_mem_of_escaped (escaped_escapeOne c)
  simp [writeString, List.mem_flatMap, escaped]

/-- A written floating-point number holds no carriage return. -/
lemma return_not_mem_float (x : Float) : '\r' ∉ writeScalar (.float x) := by
  obtain word | ⟨whole, tail, isWhole, isTail, written⟩ := writeScalar_float_cases x
  · have noWord : ∀ word ∈ floatWords, '\r' ∉ word := by decide
    exact noWord _ word
  · have inWhole := return_not_mem_digits isWhole.isDigit
    have inTail : '\r' ∉ tail := by
      cases isTail with
      | fraction ne all => simp [return_not_mem_digits all]
      | exponent isSign ne all => obtain rfl | rfl := isSign <;> simp [return_not_mem_digits all]
      | both ne_part all_part isSign ne all =>
        obtain rfl | rfl := isSign <;>
          simp [return_not_mem_digits all, return_not_mem_digits all_part]
    rw [written]
    split <;> simp [inWhole, inTail]

/-- A written scalar holds no carriage return. -/
lemma return_not_mem_scalar {s : Scalar} (writable : IsWritableScalar s) (level : Nat) :
    '\r' ∉ writeValue level (.scalar s) := by
  rw [writeValue]
  cases s with
  | null => decide
  | bool b => cases b <;> decide
  | int n =>
    have digits := return_not_mem_digits fun d => isDigit_of_mem_toDigits (n := n.natAbs) d
    rw [writeScalar_int]
    split <;> simp [digits]
  | float x => exact return_not_mem_float x
  | text t => exact return_not_mem_writeString t
  | foreign o => exact writable.elim

/-- A line break holds no carriage return. -/
lemma return_not_mem_newline (level : Nat) : '\r' ∉ newline level := by
  simp [newline]

/-- Items hold no carriage return if no value does. -/
lemma return_not_mem_writeItems {level : Nat} {items : List Value}
    (each : ∀ v ∈ items, '\r' ∉ writeValue level v) : '\r' ∉ writeItems level items := by
  induction items with
  | nil => simp [writeItems]
  | cons v items ih =>
    obtain ⟨first, others⟩ := List.forall_mem_cons.1 each
    rw [writeItems]
    split <;> simp [first, ih others, return_not_mem_newline]

/-- Members hold no carriage return if no value does. -/
lemma return_not_mem_writeMembers {level : Nat} {members : List (Text × Value)}
    (each : ∀ m ∈ members, '\r' ∉ writeValue level m.2) :
    '\r' ∉ writeMembers level (entriesOf members) := by
  induction members with
  | nil => simp [entriesOf, writeMembers]
  | cons m members ih =>
    obtain ⟨first, others⟩ := List.forall_mem_cons.1 each
    rw [entriesOf_cons, writeMembers]
    split <;> simp [first, ih others, return_not_mem_newline, return_not_mem_writeString]

/-- A written value holds no carriage return. -/
lemma return_not_mem_writeValue (writable : IsWritable levels v) (level : Nat) :
    '\r' ∉ writeValue level v := by
  induction writable generalizing level with
  | scalar writable => exact return_not_mem_scalar writable level
  | @list _ items all ih =>
    cases items with
    | nil => simp [writeValue]
    | cons v items =>
      have inItems := return_not_mem_writeItems fun w mem => ih w mem (level + 1)
      simp [writeValue, inItems, return_not_mem_newline]
  | @object _ members separable distinct all ih =>
    cases members with
    | nil => simp [Value.object, entriesOf, writeValue]
    | cons m members =>
      have inMembers := return_not_mem_writeMembers fun other mem => ih other mem (level + 1)
      rw [entriesOf_cons] at inMembers
      simp [Value.object, entriesOf_cons, writeValue, inMembers, return_not_mem_newline]

/-- The document of a value is read from its file as the value. -/
theorem parse_bytes (writable : IsWritable levels v) (written : IsWritable more v) :
    ∃ text, Text.decodeUtf8 (render more v).bytes = .ok text ∧
      parse levels (Text.unifyNewlines text) = .ok v.reread := by
  have text_eq : Text.ofString (String.ofList (writeValue 0 v)) = Text.ofChars (writeValue 0 v) := by
    rw [Text.ofString, String.toList_ofList]
  have none : .char '\r' ∉ Text.ofChars (writeValue 0 v) := by
    rw [Text.ofChars, List.mem_map]
    rintro ⟨c, mem, e⟩
    obtain rfl := CodePoint.char.inj e
    exact return_not_mem_writeValue writable 0 mem
  refine ⟨Text.ofString (String.ofList (writeValue 0 v)), ?_, ?_⟩
  · rw [render_of_isWritable written]
    exact Text.decodeUtf8_toUTF8 _
  · rw [text_eq, Text.unifyNewlines_of_not_mem none, parse_writeValue writable]

end Json

end CompileFlags
