import CompileFlags.Json.Writer
import CompileFlags.Proofs.Bytes
import CompileFlags.Proofs.Json.Steps
import Mathlib.Data.List.Chain

/-!
# Texts in JSON

A text is written between double quotes, with an escape for each code point that cannot stand there
as it is. Reading undoes this (`string_writeString`), but for one thing: where a high surrogate stands
before a low one, their escapes are read as the character that the two make together. A text in which
this does not happen is separable. No text that is read is anything else (`isSeparable_of_string`), so
it can be written and read again without loss.
-/

namespace CompileFlags

/-- The text that some characters are. -/
abbrev Text.ofChars (cs : List Char) : Text := cs.map .char

/-- A first character comes first in the text. -/
lemma Text.ofChars_cons (c : Char) (cs : List Char) : ofChars (c :: cs) = .char c :: ofChars cs := rfl

/-- The text of several characters is made of their texts. -/
lemma Text.ofChars_append (cs ds : List Char) : ofChars (cs ++ ds) = ofChars cs ++ ofChars ds :=
  List.map_append

/-- A code point is known by its number. -/
@[simp]
lemma CodePoint.ofNumber_number (c : CodePoint) : CodePoint.ofNumber c.number = c := by
  cases c with
  | char c =>
    have notSurrogate : ¬ (0xd800 ≤ c.toNat ∧ c.toNat < 0xe000) := by
      have number_eq : c.val.toNat = c.toNat := rfl
      rcases c.valid with low | high
      · omega
      · omega
    rw [number, ofNumber, dif_neg notSurrogate, Char.ofNat_toNat]
  | surrogate n =>
    have lt := n.isLt
    rw [number, ofNumber, dif_pos ⟨by omega, by omega⟩]
    simp

namespace Json

/-- A digit is read as its value. -/
lemma hexDigit?_digitChar : ∀ d < 16, hexDigit? (.char d.digitChar) = some d := by decide

/-- The digits of a number are read as the number. -/
lemma ofHex?_toDigits (n : Nat) : ofHex? (Text.ofChars (Nat.toDigits 16 n)) = some n := by
  induction n using Nat.base_induction 16 (by decide) with
  | single n lt =>
    rw [Nat.toDigits_of_lt_base lt]
    simp [ofHex?, hexDigit?_digitChar n lt]
  | digit n d lt pos ih =>
    rw [← Nat.toDigits_append_toDigits (by decide) pos lt, Nat.toDigits_of_lt_base lt]
    rw [ofHex?] at ih ⊢
    rw [Text.ofChars, List.map_append, List.foldlM_append, ih]
    simp [hexDigit?_digitChar d lt]

/-- Zeros in front of digits change nothing. -/
lemma ofHex?_zeros (count : Nat) (digits : Text) :
    ofHex? (Text.ofChars (List.replicate count '0') ++ digits) = ofHex? digits := by
  induction count with
  | zero => rfl
  | succ count ih =>
    rw [ofHex?] at ih ⊢
    exact ih

/-- Four digits are enough for a number of sixteen bits. -/
lemma length_hex {n : Nat} (lt : n < 0x10000) : (Text.hex 4 n).length = 4 := by
  have le := (Nat.length_toDigits_le_iff (b := 16) (k := 4) (by decide) (by decide)).2 lt
  rw [Text.hex, List.length_append, List.length_replicate]
  omega

/-- A number with zeros in front is read as the number. -/
lemma ofHex?_hex (width n : Nat) : ofHex? (Text.ofChars (Text.hex width n)) = some n := by
  rw [Text.hex, Text.ofChars, List.map_append, ← Text.ofChars, ofHex?_zeros, ofHex?_toDigits]

section Escapes

variable {n high low : Nat} {c : CodePoint} {opening tail t rest : Text}

/-- A surrogate that can come first of two is a number of sixteen bits. -/
lemma lt_of_isHighSurrogate (isHigh : isHighSurrogate high = true) : high < 0x10000 := by
  simp only [isHighSurrogate, Bool.and_eq_true, decide_eq_true_eq] at isHigh
  omega

/-- A surrogate that can come second of two is a number of sixteen bits. -/
lemma lt_of_isLowSurrogate (isLow : isLowSurrogate low = true) : low < 0x10000 := by
  simp only [isLowSurrogate, Bool.and_eq_true, decide_eq_true_eq] at isLow
  omega

/-- No surrogate can come both first and second of two. -/
lemma not_low_of_isHighSurrogate (isHigh : isHighSurrogate high = true) :
    isLowSurrogate high = false := by
  simp only [isHighSurrogate, Bool.and_eq_true, decide_eq_true_eq] at isHigh
  simp only [isLowSurrogate, Bool.and_eq_false_iff, decide_eq_false_iff_not]
  omega

/-- A numeric escape has six characters. -/
lemma length_unitEscape (lt : n < 0x10000) : (unitEscape n).length = 6 := by
  rw [unitEscape, List.length_cons, List.length_cons, length_hex lt]

/-- Four digits are taken together. -/
lemma take_hex (lt : n < 0x10000) (tail : Text) :
    (Text.ofChars (Text.hex 4 n) ++ tail).take 4 = Text.ofChars (Text.hex 4 n) :=
  List.take_left' (by rw [Text.ofChars, List.length_map, length_hex lt])

/-- Behind four digits is what follows them. -/
lemma drop_hex (lt : n < 0x10000) (tail : Text) :
    (Text.ofChars (Text.hex 4 n) ++ tail).drop 4 = tail :=
  List.drop_left' (by rw [Text.ofChars, List.length_map, length_hex lt])

/-- Four digits in front of something else are those of an escape. -/
lemma spelled_hex (lt : n < 0x10000) (ne : tail ≠ []) :
    ((Text.ofChars (Text.hex 4 n) ++ tail).drop 4).isEmpty = false ∧
      ofHex? ((Text.ofChars (Text.hex 4 n) ++ tail).take 4) = some n := by
  rw [take_hex lt, drop_hex lt, ofHex?_hex]
  exact ⟨List.isEmpty_eq_false_iff.2 ne, rfl⟩

/-- A number that is no high surrogate is read by itself. -/
lemma unicodeEscape_of_not_high (lt : n < 0x10000) (notHigh : isHighSurrogate n = false)
    (ne : tail ≠ []) :
    unicodeEscape (Text.ofChars (Text.hex 4 n) ++ tail) = .ok (.ofNumber n, 4) := by
  obtain ⟨goesOn, spelled⟩ := spelled_hex lt ne
  have reads := ReadsUnicode.single goesOn spelled fun isHigh => by simp [notHigh] at isHigh
  exact reads.unicodeEscape_eq

/-- Two surrogates are read as one character. -/
lemma unicodeEscape_pair (isHigh : isHighSurrogate high = true) (isLow : isLowSurrogate low = true)
    (ne : tail ≠ []) :
    unicodeEscape (Text.ofChars (Text.hex 4 high) ++ (Text.ofChars (unitEscape low) ++ tail)) =
      .ok (.ofNumber (0x10000 + (high - 0xd800) * 0x400 + (low - 0xdc00)), 10) := by
  have high_lt := lt_of_isHighSurrogate isHigh
  have second_ne : Text.ofChars (unitEscape low) ++ tail ≠ [] := by simp [unitEscape]
  obtain ⟨_, spelled⟩ := spelled_hex high_lt second_ne
  obtain ⟨goesOn, spelled'⟩ := spelled_hex (lt_of_isLowSurrogate isLow) ne
  have reads := ReadsUnicode.pair isHigh isLow spelled (drop_hex high_lt _) goesOn spelled'
  exact reads.unicodeEscape_eq

/-- What may follow a high surrogate so that the two are kept apart: anything but the escape of a low
one. -/
inductive Apart : Text → Prop where
  | text {tail : Text} (ne : tail ≠ [])
    (no : ∀ more, tail ≠ .char '\\' :: .char 'u' :: more) : Apart tail
  | escape {n : Nat} {tail : Text} (lt : n < 0x10000) (notLow : isLowSurrogate n = false)
    (ne : tail ≠ []) : Apart (Text.ofChars (unitEscape n) ++ tail)

/-- A high surrogate is read by itself if it is kept apart from what follows. -/
lemma unicodeEscape_of_apart (isHigh : isHighSurrogate high = true) (apart : Apart tail) :
    unicodeEscape (Text.ofChars (Text.hex 4 high) ++ tail) = .ok (.ofNumber high, 4) := by
  have lt := lt_of_isHighSurrogate isHigh
  refine ReadsUnicode.unicodeEscape_eq ?_
  cases apart with
  | text ne no =>
    obtain ⟨goesOn, spelled⟩ := spelled_hex lt ne
    refine .single goesOn spelled fun _ more drop_eq => ?_
    exact (no more ((drop_hex lt tail).symm.trans drop_eq)).elim
  | @escape n tail lt' notLow ne =>
    have second_ne : Text.ofChars (unitEscape n) ++ tail ≠ [] := by simp [unitEscape]
    obtain ⟨goesOn, spelled⟩ := spelled_hex lt second_ne
    refine .single goesOn spelled fun _ more drop_eq => ?_
    obtain rfl : Text.ofChars (Text.hex 4 n) ++ tail = more :=
      (List.cons.inj (List.cons.inj ((drop_hex lt _).symm.trans drop_eq)).2).2
    exact .inr ⟨n, (spelled_hex lt' ne).2, notLow⟩

/-- How a code point is written in a string. -/
inductive Escaped : CodePoint → List Char → Prop where
  /-- As it is. -/
  | plain {c : Char} (ne_quote : c ≠ '"') (ne_backslash : c ≠ '\\') (printable : 0x20 ≤ c.toNat) :
    Escaped c [c]
  /-- By a letter. -/
  | short {c : CodePoint} {letter : Char} (isShort : shortEscape? letter = some c) :
    Escaped c ['\\', letter]
  /-- By its number. -/
  | unit {c : CodePoint} (lt : c.number < 0x10000) : Escaped c (unitEscape c.number)
  /-- By the numbers of two surrogates. -/
  | pair {c : CodePoint} {high low : Nat} (isHigh : isHighSurrogate high = true)
    (isLow : isLowSurrogate low = true)
    (number_eq : c.number = 0x10000 + (high - 0xd800) * 0x400 + (low - 0xdc00)) :
    Escaped c (unitEscape high ++ unitEscape low)

/-- Every code point is written in one of these ways. -/
lemma escaped_escapeOne (c : CodePoint) : Escaped c (escapeOne c) := by
  cases c with
  | surrogate n =>
    have lt : (CodePoint.surrogate n).number < 0x10000 := by
      have := n.isLt
      rw [CodePoint.number]
      omega
    exact .unit lt
  | char c =>
    have lt : c.toNat < 0x110000 := by
      have number_eq : c.val.toNat = c.toNat := rfl
      rcases c.valid with low | high
      · omega
      · omega
    rw [escapeOne, escapeChar]
    split_ifs with quote backslash feed carriage tab form bell printable small
    · exact .short (by rw [quote]; rfl)
    · exact .short (by rw [backslash]; rfl)
    · exact .short (by rw [feed]; rfl)
    · exact .short (by rw [carriage]; rfl)
    · exact .short (by rw [tab]; rfl)
    · exact .short (by rw [form]; rfl)
    · exact .short (by rw [bell]; rfl)
    · simp only [Bool.and_eq_true, decide_eq_true_eq] at printable
      exact .plain quote backslash printable.1
    · exact .unit small
    · refine .pair ?_ ?_ ?_
      · simp only [isHighSurrogate, Bool.and_eq_true, decide_eq_true_eq]
        omega
      · simp only [isLowSurrogate, Bool.and_eq_true, decide_eq_true_eq]
        omega
      · rw [CodePoint.number]
        omega

/-- A string does not end without a quote. -/
lemma ne_nil_of_chars {skip : Nat} (read : chars opening skip tail = .ok (t, rest)) : tail ≠ [] := by
  rintro rfl
  cases skip with
  | zero => exact absurd read (by simp [chars])
  | succ skip => exact absurd read (by simp [chars])

/-- An escape of a code point is read as the code point. -/
lemma chars_of_escape (text : Text) (escaped : escape opening (text ++ tail) = .ok (c, text.length))
    (read : chars opening 0 tail = .ok (t, rest)) :
    chars opening 0 (.char '\\' :: (text ++ tail)) = .ok (c :: t, rest) :=
  chars_of_escaped escaped (by rw [List.drop_left, read])

/-- A code point is read as it was written, if a high surrogate is kept apart from what follows. -/
lemma chars_escaped {written : List Char} (escaped : Escaped c written)
    (apart : isHighSurrogate c.number = true → Apart tail)
    (read : chars opening 0 tail = .ok (t, rest)) :
    chars opening 0 (Text.ofChars written ++ tail) = .ok (c :: t, rest) := by
  have ne : tail ≠ [] := ne_nil_of_chars read
  cases escaped with
  | @plain c ne_quote ne_backslash printable =>
    exact chars_of_plain ⟨by simpa using ne_quote, by simpa using ne_backslash⟩ printable read
  | @short c letter isShort => exact chars_of_escape [.char letter] (escape_of_short isShort) read
  | @unit c lt =>
    refine chars_of_escape (.char 'u' :: Text.ofChars (Text.hex 4 c.number)) ?_ read
    have length_eq : (CodePoint.char 'u' :: Text.ofChars (Text.hex 4 c.number)).length = 5 := by
      rw [List.length_cons, List.length_map, length_hex lt]
    rw [List.cons_append, length_eq]
    refine escape_of_unicode ?_
    cases isHigh : isHighSurrogate c.number with
    | true => rw [unicodeEscape_of_apart isHigh (apart isHigh), CodePoint.ofNumber_number]
    | false => rw [unicodeEscape_of_not_high lt isHigh ne, CodePoint.ofNumber_number]
  | @pair c high low isHigh isLow number_eq =>
    have text_eq : Text.ofChars (unitEscape high ++ unitEscape low) = .char '\\' ::
        (.char 'u' :: (Text.ofChars (Text.hex 4 high) ++ Text.ofChars (unitEscape low))) := by
      simp [unitEscape]
    have length_eq : (CodePoint.char 'u' :: (Text.ofChars (Text.hex 4 high) ++
        Text.ofChars (unitEscape low))).length = 11 := by
      rw [List.length_cons, List.length_append, List.length_map, List.length_map,
        length_hex (lt_of_isHighSurrogate isHigh), length_unitEscape (lt_of_isLowSurrogate isLow)]
    rw [text_eq, List.cons_append]
    refine chars_of_escape _ ?_ read
    rw [List.cons_append, List.append_assoc, length_eq]
    refine escape_of_unicode ?_
    rw [unicodeEscape_pair isHigh isLow ne, ← number_eq, CodePoint.ofNumber_number]

/-- Whether no two surrogates of a text make a character together: none that comes first of two
stands before one that comes second. -/
def IsSeparable (t : Text) : Prop :=
  t.IsChain fun c d => ¬ (isHighSurrogate c.number = true ∧ isLowSurrogate d.number = true)

/-- A written string keeps apart from a high surrogate before it, unless it starts with a low one. -/
lemma apart_written (rest : Text)
    (notLow : ∀ c, t.head? = some c → isLowSurrogate c.number = false) :
    Apart (Text.ofChars (t.flatMap escapeOne) ++ .char '"' :: rest) := by
  cases t with
  | nil => exact .text (List.cons_ne_nil _ _) (by simp)
  | cons c t =>
    rw [List.flatMap_cons, Text.ofChars, List.map_append, List.append_assoc]
    have escaped := escaped_escapeOne c
    generalize escapeOne c = written at escaped
    cases escaped with
    | plain ne_quote ne_backslash printable =>
      exact .text (List.cons_ne_nil _ _) (by simp [ne_backslash])
    | @short c letter isShort =>
      refine .text (List.cons_ne_nil _ _) fun more e => ?_
      obtain ⟨⟨⟩, _⟩ := List.cons.inj (List.cons.inj e).2
      exact absurd isShort (Option.some_ne_none c).symm
    | unit lt => exact .escape lt (notLow c rfl) (by simp)
    | @pair c high low isHigh isLow number_eq =>
      rw [List.map_append, List.append_assoc]
      exact .escape (lt_of_isHighSurrogate isHigh) (not_low_of_isHighSurrogate isHigh) (by simp)

/-- The characters of a separable text are read as they were written. -/
lemma chars_written (opening rest : Text) (separable : IsSeparable t) :
    chars opening 0 (Text.ofChars (t.flatMap escapeOne) ++ .char '"' :: rest) = .ok (t, rest) := by
  induction t with
  | nil => rfl
  | cons c t ih =>
    obtain ⟨apart, separable⟩ := List.isChain_cons.1 separable
    rw [List.flatMap_cons, Text.ofChars, List.map_append, List.append_assoc]
    -- what follows is read on its own, so it only has to keep apart from this code point
    refine chars_escaped (escaped_escapeOne c) (fun isHigh => ?_) (ih separable)
    refine apart_written rest fun d head => ?_
    rw [← Bool.not_eq_true]
    exact fun isLow => apart d head ⟨isHigh, isLow⟩

/-- A separable text is read as it was written. -/
lemma string_writeString (rest : Text) (separable : IsSeparable t) :
    string (Text.ofChars (t.flatMap escapeOne) ++ .char '"' :: rest) = .ok (t, rest) :=
  chars_written _ rest separable

/-- No character is a surrogate. -/
lemma not_surrogate_of_char (c : Char) :
    isHighSurrogate (CodePoint.char c).number = false ∧
      isLowSurrogate (CodePoint.char c).number = false := by
  have number_eq : c.val.toNat = (CodePoint.char c).number := rfl
  simp only [isHighSurrogate, isLowSurrogate, Bool.and_eq_false_iff, decide_eq_false_iff_not]
  rcases c.valid with low | high
  · omega
  · omega

/-- No number of more than sixteen bits stands for a surrogate. -/
lemma not_surrogate_of_le (le : 0x10000 ≤ n) :
    isHighSurrogate (CodePoint.ofNumber n).number = false ∧
      isLowSurrogate (CodePoint.ofNumber n).number = false := by
  rw [CodePoint.ofNumber, dif_neg (by omega)]
  exact not_surrogate_of_char _

/-- A number that stands for a surrogate is the surrogate's. -/
lemma number_ofNumber (isSurrogate : isHighSurrogate (CodePoint.ofNumber n).number = true ∨
    isLowSurrogate (CodePoint.ofNumber n).number = true) : (CodePoint.ofNumber n).number = n := by
  rw [CodePoint.ofNumber] at isSurrogate ⊢
  split at isSurrogate
  · rename_i bounds
    rw [dif_pos bounds, CodePoint.number]
    exact Nat.add_sub_cancel' bounds.1
  · obtain ⟨notHigh, notLow⟩ := not_surrogate_of_char (Char.ofNat n)
    rw [notHigh, notLow] at isSurrogate
    exact absurd isSurrogate (by decide)

/-- Whether a text starts with the escape of a low surrogate, and goes on after it. -/
def StartsLow (cs : Text) : Prop :=
  ∃ more low, cs = .char '\\' :: .char 'u' :: more ∧ more.drop 4 ≠ [] ∧
    ofHex? (more.take 4) = some low ∧ isLowSurrogate low = true

/-- Behind the mark of a numeric escape, the escape of a low surrogate is told by its digits. -/
lemma startsLow_cons {more : Text} :
    StartsLow (.char '\\' :: .char 'u' :: more) ↔ more.drop 4 ≠ [] ∧
      ∃ low, ofHex? (more.take 4) = some low ∧ isLowSurrogate low = true := by
  constructor
  · rintro ⟨more', low, e, ne, low_eq, isLow⟩
    obtain ⟨_, e⟩ := List.cons.inj e
    obtain ⟨_, rfl⟩ := List.cons.inj e
    exact ⟨ne, low, low_eq, isLow⟩
  · rintro ⟨ne, low, low_eq, isLow⟩
    exact ⟨more, low, rfl, ne, low_eq, isLow⟩

/-- What a numeric escape is read as: a high surrogate only if no low one follows, a low one only if
the escape is one. -/
lemma unicodeEscape_surrogate {more : Text} {length : Nat}
    (read : unicodeEscape more = .ok (c, length)) :
    (isHighSurrogate c.number = true → length = 4 ∧ ¬ StartsLow (more.drop 4)) ∧
      (isLowSurrogate c.number = true → StartsLow (.char '\\' :: .char 'u' :: more)) := by
  cases readsUnicode_of_unicodeEscape read with
  | @single n goesOn spelled apart =>
    -- an escape that is read by itself stands for its own number
    refine ⟨fun isHigh => ⟨rfl, ?_⟩, fun isLow => ?_⟩
    · rw [number_ofNumber (.inl isHigh)] at isHigh
      rintro ⟨after, low, drop_eq, ne, low_eq, isLow⟩
      obtain none | ⟨low', low'_eq, notLow⟩ := apart isHigh after drop_eq
      · exact ne (List.isEmpty_iff.1 none)
      · obtain rfl := Option.some.inj (low_eq.symm.trans low'_eq)
        exact Bool.false_ne_true (notLow.symm.trans isLow)
    · rw [number_ofNumber (.inr isLow)] at isLow
      exact startsLow_cons.2 ⟨List.isEmpty_eq_false_iff.1 goesOn, n, spelled, isLow⟩
  | @pair high low =>
    -- two surrogates make a character, which is none itself
    have le : 0x10000 ≤ 0x10000 + (high - 0xd800) * 0x400 + (low - 0xdc00) := by omega
    obtain ⟨notHigh, notLow⟩ := not_surrogate_of_le le
    rw [notHigh, notLow]
    exact ⟨by simp, by simp⟩

/-- An escape of one letter stands for a character. -/
lemma exists_char_of_shortEscape? {letter : CodePoint} (short : shortEscape? letter = some c) :
    ∃ character, c = CodePoint.char character := by
  rw [shortEscape?.eq_def] at short
  split at short
  case h_9 => exact absurd short (by simp)
  all_goals exact ⟨_, (Option.some.inj short).symm⟩

/-- What an escape is read as: a high surrogate only if no low one follows, a low one only if the
escape is one. -/
lemma escape_surrogate {cs : Text} {length : Nat} (read : escape opening cs = .ok (c, length)) :
    (isHighSurrogate c.number = true → ¬ StartsLow (cs.drop length)) ∧
      (isLowSurrogate c.number = true → StartsLow (.char '\\' :: cs)) := by
  cases readsEscape_of_escape read with
  | short known =>
    obtain ⟨character, rfl⟩ := exists_char_of_shortEscape? known
    obtain ⟨notHigh, notLow⟩ := not_surrogate_of_char character
    simp [notHigh, notLow]
  | unicode numeric =>
    obtain ⟨high, low⟩ := unicodeEscape_surrogate numeric
    refine ⟨fun isHigh => ?_, low⟩
    obtain ⟨rfl, notLow⟩ := high isHigh
    exact notLow

/-- What stands for the first code point of a string in a text of characters, and what is left. -/
lemma chars_eq_cons {cs : Text} (hasBytes : cs.HasBytes)
    (read : chars opening 0 cs = .ok (c :: t, rest)) :
    ∃ tail, tail <:+ cs ∧ chars opening 0 tail = .ok (t, rest) ∧
      (isHighSurrogate c.number = true → ¬ StartsLow tail) ∧
      (isLowSurrogate c.number = true → StartsLow cs) := by
  cases readsChars_of_chars read with
  | escape escaped others =>
    exact ⟨_, (List.drop_suffix _ _).trans (List.suffix_cons _ _), others, escape_surrogate escaped⟩
  | @plain _ cs _ _ _ others =>
    refine ⟨cs, List.suffix_cons _ _, others, ?_⟩
    cases c with
    | surrogate n => exact absurd (hasBytes _ List.mem_cons_self) Bool.false_ne_true
    | char character =>
      obtain ⟨notHigh, notLow⟩ := not_surrogate_of_char character
      simp [notHigh, notLow]

/-- An empty string is read where its closing quote stands. -/
lemma chars_eq_nil {cs : Text} (read : chars opening 0 cs = .ok ([], rest)) :
    cs = .char '"' :: rest := by
  cases readsChars_of_chars read with
  | closing => rfl

/-- A text that is read from characters is separable, and what is left is the end of them. -/
lemma isSeparable_of_chars {cs : Text} (hasBytes : cs.HasBytes)
    (read : chars opening 0 cs = .ok (t, rest)) : IsSeparable t ∧ rest <:+ cs := by
  induction t generalizing cs with
  | nil =>
    rw [chars_eq_nil read]
    exact ⟨.nil, List.suffix_cons _ _⟩
  | cons c t ih =>
    obtain ⟨tail, suffix, read', high, _⟩ := chars_eq_cons hasBytes read
    have hasBytes' : Text.HasBytes tail := fun c mem => hasBytes c (suffix.subset mem)
    obtain ⟨separable, suffix'⟩ := ih hasBytes' read'
    refine ⟨List.isChain_cons.2 ⟨fun d head => ?_, separable⟩, suffix'.trans suffix⟩
    rintro ⟨isHigh, isLow⟩
    obtain ⟨t, rfl⟩ : ∃ more, t = d :: more := by
      cases t with
      | nil => exact absurd head (by simp)
      | cons _ more => exact ⟨more, by rw [Option.some.inj head]⟩
    obtain ⟨_, _, _, _, low⟩ := chars_eq_cons hasBytes' read'
    exact high isHigh (low isLow)

/-- A text that is read from characters is separable, and what is left is the end of them. -/
lemma isSeparable_of_string {cs : Text} (hasBytes : cs.HasBytes)
    (read : string cs = .ok (t, rest)) : IsSeparable t ∧ rest <:+ cs :=
  isSeparable_of_chars hasBytes read

/-- A text without surrogates that come first of two is separable. -/
lemma isSeparable_of_not_high (notHigh : ∀ c ∈ t, isHighSurrogate c.number = false) :
    IsSeparable t := by
  induction t with
  | nil => exact .nil
  | cons c t ih =>
    obtain ⟨first, others⟩ := List.forall_mem_cons.1 notHigh
    exact List.isChain_cons.2 ⟨fun d _ => by simp [first], ih others⟩

/-- A text of characters is separable. -/
lemma isSeparable_of_hasBytes (hasBytes : t.HasBytes) : IsSeparable t := by
  refine isSeparable_of_not_high fun c mem => ?_
  cases c with
  | surrogate n => exact absurd (hasBytes _ mem) Bool.false_ne_true
  | char c => exact (not_surrogate_of_char c).1

end Escapes

end Json

end CompileFlags
