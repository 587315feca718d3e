import CompileFlags.Text.Utf8
import Mathlib.Data.List.Basic

/-!
# Texts and their bytes

A text has bytes if it holds characters only (`Text.HasBytes`); then it can be encoded
(`Text.encodeUtf8_of_hasBytes`). What is encoded is read as it was (`Text.decodeUtf8_toUTF8`), and
nothing but characters is ever read (`Text.hasBytes_of_decodeUtf8`).
-/

namespace CompileFlags.Text

variable {t u : Text}

/-- Whether a text holds characters only, so that there are bytes for it. -/
def HasBytes (t : Text) : Prop := ∀ c ∈ t, c.char?.isSome = true

instance (t : Text) : Decidable t.HasBytes :=
  inferInstanceAs (Decidable (∀ c ∈ t, c.char?.isSome = true))

/-- The text of a string has bytes. -/
@[simp]
lemma hasBytes_ofString (s : String) : HasBytes (ofString s) := by
  intro c mem
  rw [ofString, List.mem_map] at mem
  obtain ⟨character, _, rfl⟩ := mem
  rfl

/-- Two texts have bytes together if each has. -/
@[simp]
lemma hasBytes_append : HasBytes (t ++ u) ↔ HasBytes t ∧ HasBytes u :=
  List.forall_mem_append

/-- No fault is found in a text if all its surrogates are allowed. -/
lemma firstEncodingFault_eq_none_iff_forall {allowed : Fin 0x800 → Bool} {position : Nat} :
    firstEncodingFault allowed position t = none ↔
      ∀ n, CodePoint.surrogate n ∈ t → allowed n = true := by
  induction t generalizing position with
  | nil => simp [firstEncodingFault]
  | cons c rest ih =>
    cases c with
    | char character => simp [firstEncodingFault, ih]
    | surrogate m =>
      rw [firstEncodingFault]
      by_cases isAllowed : allowed m = true
      · rw [if_pos isAllowed, ih]
        simp [isAllowed]
      · rw [if_neg isAllowed]
        simp [isAllowed]

/-- No fault is found in a text if it has bytes. -/
lemma firstEncodingFault_eq_none_iff {position : Nat} :
    firstEncodingFault (fun _ => false) position t = none ↔ t.HasBytes := by
  rw [firstEncodingFault_eq_none_iff_forall]
  constructor
  · intro none c mem
    cases c with
    | char character => rfl
    | surrogate n => exact none n mem
  · exact fun hasBytes n mem => hasBytes _ mem

/-- A text that has bytes can be encoded. -/
lemma encodeUtf8_of_hasBytes (h : t.HasBytes) : encodeUtf8 t = .ok t.display.toUTF8 := by
  rw [encodeUtf8, firstEncodingFault_eq_none_iff.2 h]

/-- A text that has no bytes cannot be encoded. -/
lemma exists_encodeUtf8_eq_error (h : ¬ t.HasBytes) : ∃ fault, encodeUtf8 t = .error fault := by
  rw [encodeUtf8]
  cases found : firstEncodingFault (fun _ => false) 0 t with
  | none => exact absurd (firstEncodingFault_eq_none_iff.1 found) h
  | some fault => exact ⟨fault, rfl⟩

/-- The bytes of a string are read as the string. -/
lemma decodeUtf8_toUTF8 (s : String) : decodeUtf8 s.toUTF8 = .ok (ofString s) := by
  have read : String.fromUTF8? s.toUTF8 = some s := dif_pos s.isValidUTF8
  rw [decodeUtf8, read]

/-- Bytes are read as a text exactly if they are those of a string. -/
lemma decodeUtf8_eq_ok_iff {bytes : ByteArray} :
    decodeUtf8 bytes = .ok t ↔ ∃ s : String, bytes = s.toUTF8 ∧ t = s := by
  constructor
  · intro read
    rw [decodeUtf8] at read
    split at read
    · rename_i s found
      obtain ⟨⟩ := read
      refine ⟨s, ?_, rfl⟩
      rw [String.fromUTF8?] at found
      split at found
      · rw [← Option.some.inj found]
        rfl
      · exact absurd found (by simp)
    · split at read
      · exact absurd read (by simp)
      · exact absurd read (by simp)
  · rintro ⟨s, rfl, rfl⟩
    exact decodeUtf8_toUTF8 s

/-- What is read from bytes holds characters only. -/
lemma hasBytes_of_decodeUtf8 {bytes : ByteArray} (read : decodeUtf8 bytes = .ok t) : t.HasBytes := by
  obtain ⟨s, _, rfl⟩ := decodeUtf8_eq_ok_iff.1 read
  exact hasBytes_ofString s

end CompileFlags.Text
