import CompileFlags.Proofs.Json.Text
import Mathlib.Data.List.DropRight

/-!
# Numbers in JSON

A whole number is written by its digits, and is read from them as it was (`simple_int`). A
floating-point number is written with a point or an exponent, so it is read as one again
(`simple_float`), whichever it is. Neither needs to know what follows it, as long as that does not
go on with the number.
-/

namespace CompileFlags

namespace Json

variable {rest : Text}

/-- Digits in front of a point: a zero alone, or digits that do not start with a zero. -/
structure IsWhole (digits : List Char) : Prop where
  isDigit : ∀ d ∈ digits, d.isDigit = true
  leads : digits = ['0'] ∨ ∃ d more, digits = d :: more ∧ d ≠ '0'

/-- Zero is written as one digit. -/
lemma isWhole_zero : IsWhole ['0'] :=
  ⟨List.forall_mem_singleton.2 rfl, .inl rfl⟩

/-- There is a digit in front of a point. -/
lemma IsWhole.exists_cons {digits : List Char} (isWhole : IsWhole digits) :
    ∃ first more, digits = first :: more := by
  obtain rfl | ⟨first, more, rfl, _⟩ := isWhole.leads
  · exact ⟨_, _, rfl⟩
  · exact ⟨_, _, rfl⟩

/-- Whether what follows a number does not go on with it. -/
def EndsNumber (rest : Text) : Prop :=
  ∀ c, rest.head? = some c → isDigit c = false ∧ c ≠ '.' ∧ c ≠ 'e' ∧ c ≠ 'E'

/-- Digits are taken together. -/
lemma takeWhile_digits {digits : List Char} (all : ∀ d ∈ digits, d.isDigit = true)
    (ends : ∀ c, rest.head? = some c → isDigit c = false) :
    (Text.ofChars digits ++ rest).takeWhile isDigit = Text.ofChars digits := by
  have all' : ∀ c ∈ Text.ofChars digits, isDigit c = true := by
    simpa [isDigit, CodePoint.isIn, CodePoint.char?] using all
  rw [List.takeWhile_append_of_pos all']
  cases rest with
  | nil => exact List.append_nil _
  | cons c rest => rw [List.takeWhile_cons_of_neg (by simp [ends c rfl]), List.append_nil]

/-- Behind digits is what follows them. -/
lemma dropWhile_digits {digits : List Char} (all : ∀ d ∈ digits, d.isDigit = true)
    (ends : ∀ c, rest.head? = some c → isDigit c = false) :
    (Text.ofChars digits ++ rest).dropWhile isDigit = rest := by
  have all' : ∀ c ∈ Text.ofChars digits, isDigit c = true := by
    simpa [isDigit, CodePoint.isIn, CodePoint.char?] using all
  rw [List.dropWhile_append_of_pos all']
  cases rest with
  | nil => rfl
  | cons c rest => rw [List.dropWhile_cons_of_neg (by simp [ends c rfl])]

/-- The digits in front of a point are read together. -/
lemma wholePart?_append {whole : List Char} (isWhole : IsWhole whole)
    (ends : ∀ c, rest.head? = some c → isDigit c = false) :
    wholePart? (Text.ofChars whole ++ rest) = some (Text.ofChars whole, rest) := by
  obtain rfl | ⟨d, more, rfl, ne⟩ := isWhole.leads
  · rfl
  · have isDigit_d : isDigit (.char d) = true := isWhole.isDigit d List.mem_cons_self
    rw [Text.ofChars, List.map_cons, List.cons_append, wholePart?, if_neg (by simpa using ne),
      if_pos isDigit_d, ← List.cons_append, ← List.map_cons, takeWhile_digits isWhole.isDigit ends,
      dropWhile_digits isWhole.isDigit ends]

/-- Digits behind a point are read together. -/
lemma fraction_append {digits : List Char} (ne : digits ≠ []) (all : ∀ d ∈ digits, d.isDigit = true)
    (ends : ∀ c, rest.head? = some c → isDigit c = false) :
    fraction (.char '.' :: (Text.ofChars digits ++ rest)) = (Text.ofChars digits, rest) := by
  rw [fraction, takeWhile_digits all ends, dropWhile_digits all ends]
  split
  · rename_i none
    exact absurd (List.map_eq_nil_iff.1 none) ne
  · rfl

/-- Without a point there are no digits behind it. -/
lemma fraction_of_ne (ne : ∀ c, rest.head? = some c → c ≠ '.') : fraction rest = ([], rest) := by
  rw [fraction.eq_def]
  split
  · exact absurd rfl (ne _ rfl)
  · rfl

/-- An exponent is read whole, whatever follows it. -/
lemma exists_exponent?_append {digits : List Char} {sign : Char} (isSign : sign = '-' ∨ sign = '+')
    (ne : digits ≠ []) (all : ∀ d ∈ digits, d.isDigit = true) :
    ∃ exponent, ∀ rest, (∀ c, rest.head? = some c → isDigit c = false) →
      exponent? (.char 'e' :: .char sign :: (Text.ofChars digits ++ rest)) = some (exponent, rest) := by
  have ne' : Text.ofChars digits ≠ [] := mt List.map_eq_nil_iff.1 ne
  obtain rfl | rfl := isSign
  · refine ⟨-(ofDigits (Text.ofChars digits) : Nat), fun rest ends => ?_⟩
    rw [exponent?]
    simp only [takeWhile_digits all ends, dropWhile_digits all ends]
    simp
  · refine ⟨(ofDigits (Text.ofChars digits) : Nat), fun rest ends => ?_⟩
    rw [exponent?]
    simp only [takeWhile_digits all ends, dropWhile_digits all ends]
    simp

/-- Without its mark there is no exponent. -/
lemma exponent?_of_ne (ne : ∀ c, rest.head? = some c → c ≠ 'e' ∧ c ≠ 'E') : exponent? rest = none := by
  cases rest with
  | nil => rfl
  | cons c rest =>
    obtain ⟨ne_small, ne_large⟩ := ne c rfl
    rw [exponent?.eq_def]
    dsimp only
    rw [if_neg (not_or.2 ⟨ne_small, ne_large⟩)]

/-- Digits spell the number that they are the digits of. -/
lemma ofDigits_toDigits (n : Nat) : ofDigits (Text.ofChars (Nat.toDigits 10 n)) = n := by
  have folded : ofDigits (Text.ofChars (Nat.toDigits 10 n)) =
      Nat.ofDigitChars 10 (Nat.toDigits 10 n) 0 := by
    rw [ofDigits, Text.ofChars, List.foldl_map]
    rfl
  rw [folded, Nat.ofDigitChars_ten_toDigits]

/-- The digits of a number but zero do not start with a zero. -/
lemma exists_toDigits_eq {n : Nat} (pos : 0 < n) :
    ∃ d more, Nat.toDigits 10 n = d :: more ∧ d ≠ '0' := by
  induction n using Nat.base_induction 10 (by decide) with
  | single n lt =>
    refine ⟨n.digitChar, [], Nat.toDigits_of_lt_base lt, ?_⟩
    rw [Ne, Nat.digitChar_eq_zero]
    exact Nat.ne_of_gt pos
  | digit n d lt pos' ih =>
    obtain ⟨first, more, digits, ne⟩ := ih pos'
    refine ⟨first, more ++ Nat.toDigits 10 d, ?_, ne⟩
    rw [← Nat.toDigits_append_toDigits (by decide) pos' lt, digits, List.cons_append]

/-- All digits of a number are digits. -/
lemma isDigit_of_mem_toDigits {n : Nat} : ∀ d ∈ Nat.toDigits 10 n, d.isDigit = true :=
  fun _ mem => Nat.isDigit_of_mem_toDigits (by decide) (by decide) mem

/-- The digits of a number may stand in front of a point. -/
lemma isWhole_toDigits (n : Nat) : IsWhole (Nat.toDigits 10 n) where
  isDigit := isDigit_of_mem_toDigits
  leads := by
    rcases Nat.eq_zero_or_pos n with rfl | pos
    · exact .inl (Nat.toDigits_zero 10)
    · exact .inr (exists_toDigits_eq pos)

/-- Digits alone are read as a whole number, if there are not too many of them. -/
lemma unsigned_toDigits (negative : Bool) (start : Text) {n : Nat}
    (short : (Nat.toDigits 10 n).length ≤ Text.maxDigits) (ends : EndsNumber rest) :
    unsigned negative start (Text.ofChars (Nat.toDigits 10 n) ++ rest) =
      .ok (.int (if negative then -(n : Int) else n), rest) := by
  have noPoint : fraction rest = ([], rest) := fraction_of_ne fun c head => (ends c head).2.1
  have noMark : exponent? rest = none := exponent?_of_ne fun c head => (ends c head).2.2
  have notLong : ¬ (Text.ofChars (Nat.toDigits 10 n)).length > Text.maxDigits := by
    rw [List.length_map]
    exact Nat.not_lt.2 short
  rw [unsigned, wholePart?_append (isWhole_toDigits n) fun c head => (ends c head).1]
  simp only [noPoint, noMark]
  rw [if_neg (by simp), if_neg notLong, ofDigits_toDigits]

/-- No word starts with a digit. -/
lemma find?_words_of_isDigit {d : Char} (isDigit : d.isDigit = true) (more : Text) :
    words.find? (·.1.isPrefixOf (.char d :: more)) = none := by
  have ne {c : Char} (other : c.isDigit = false) : c ≠ d := by
    rintro rfl
    exact Bool.false_ne_true (other.symm.trans isDigit)
  rw [List.find?_eq_none]
  intro word mem
  simp only [words, List.mem_cons, List.not_mem_nil, or_false] at mem
  rcases mem with rfl | rfl | rfl | rfl | rfl | rfl <;>
    simp [Text.ofString, List.isPrefixOf, ne]

/-- No word starts with a minus sign and a digit. -/
lemma find?_words_of_minus {d : Char} (isDigit : d.isDigit = true) (more : Text) :
    words.find? (·.1.isPrefixOf (.char '-' :: .char d :: more)) = none := by
  have ne : 'I' ≠ d := by
    rintro rfl
    exact absurd isDigit (by decide)
  rw [List.find?_eq_none]
  intro word mem
  simp only [words, List.mem_cons, List.not_mem_nil, or_false] at mem
  rcases mem with rfl | rfl | rfl | rfl | rfl | rfl <;>
    simp [Text.ofString, List.isPrefixOf, ne]

/-- What starts with a digit is read as a number without a sign. -/
lemma simple_of_isDigit {d : Char} (isDigit : d.isDigit = true) (more : Text) :
    simple (.char d :: more) = unsigned false (.char d :: more) (.char d :: more) := by
  rw [simple, find?_words_of_isDigit isDigit more]
  dsimp only
  rw [number.eq_def]
  split
  · rename_i e
    obtain ⟨⟨⟩, _⟩ := List.cons.inj e
    exact absurd isDigit (by decide)
  · rfl

/-- What starts with a minus sign and a digit is read as a number with its sign. -/
lemma simple_of_minus {d : Char} (isDigit : d.isDigit = true) (more : Text) :
    simple (.char '-' :: .char d :: more) =
      unsigned true (.char '-' :: .char d :: more) (.char d :: more) := by
  rw [simple, find?_words_of_minus isDigit more]
  rfl

/-- A whole number is written by its digits, behind a minus sign if it is negative. -/
lemma writeScalar_int (n : Int) :
    writeScalar (.int n) = (if n < 0 then ['-'] else []) ++ Nat.toDigits 10 n.natAbs := by
  cases n with
  | ofNat n => exact Nat.toList_repr
  | negSucc n =>
    have digits : (toString (Int.negSucc n)).toList = '-' :: Nat.toDigits 10 (n + 1) := by
      rw [Int.toString_eq_repr, Int.repr_eq_if, if_neg (by omega)]
      simp
    rw [if_pos (Int.negSucc_lt_zero n)]
    exact digits

/-- A whole number is read as it was written, if it does not have too many digits. -/
lemma simple_int {n : Int} (short : (Nat.toDigits 10 n.natAbs).length ≤ Text.maxDigits)
    (ends : EndsNumber rest) :
    simple (Text.ofChars (writeScalar (.int n)) ++ rest) = .ok (.int n, rest) := by
  obtain ⟨d, more, digits_eq⟩ := List.exists_cons_of_ne_nil
    (Nat.toDigits_ne_nil : Nat.toDigits 10 n.natAbs ≠ [])
  have isDigit : d.isDigit = true :=
    isDigit_of_mem_toDigits d (digits_eq ▸ List.mem_cons_self)
  have read (negative : Bool) (start : Text) := unsigned_toDigits negative start short ends
  rw [writeScalar_int]
  rw [digits_eq] at read ⊢
  by_cases negative : n < 0
  · have n_eq : (if true then -(n.natAbs : Int) else n.natAbs) = n := by
      rw [if_pos rfl]
      omega
    rw [if_pos negative, ← n_eq]
    exact (simple_of_minus isDigit _).trans (read true _)
  · have n_eq : (if false then -(n.natAbs : Int) else n.natAbs) = n := by
      rw [if_neg Bool.false_ne_true]
      omega
    rw [if_neg negative, ← n_eq]
    exact (simple_of_isDigit isDigit _).trans (read false _)

/-- What follows the first digits of a number where it has a point or an exponent. -/
inductive IsFloatTail : List Char → Prop where
  | fraction {part : List Char} (ne : part ≠ []) (all : ∀ d ∈ part, d.isDigit = true) :
    IsFloatTail ('.' :: part)
  | exponent {sign : Char} {power : List Char} (isSign : sign = '-' ∨ sign = '+') (ne : power ≠ [])
    (all : ∀ d ∈ power, d.isDigit = true) : IsFloatTail ('e' :: sign :: power)
  | both {part : List Char} {sign : Char} {power : List Char} (ne_part : part ≠ [])
    (all_part : ∀ d ∈ part, d.isDigit = true) (isSign : sign = '-' ∨ sign = '+') (ne : power ≠ [])
    (all : ∀ d ∈ power, d.isDigit = true) : IsFloatTail ('.' :: (part ++ 'e' :: sign :: power))

/-- The floating-point number of a sign, the digits around a point, and an exponent. -/
def floatOf (negative : Bool) (whole part : List Char) (exponent : Int) : Float :=
  let x := Decimal.toFloat (ofDigits (Text.ofChars whole ++ Text.ofChars part))
    (exponent - (Text.ofChars part).length)
  if negative then -x else x

/-- A number with a point or an exponent is read as a floating-point number, which does not depend on
what follows it. -/
lemma exists_unsigned_float {whole tail : List Char} (isWhole : IsWhole whole)
    (isTail : IsFloatTail tail) (negative : Bool) :
    ∃ y, ∀ start rest, EndsNumber rest →
      unsigned negative start (Text.ofChars (whole ++ tail) ++ rest) = .ok (.float y, rest) := by
  cases isTail with
  | @fraction part ne all =>
    refine ⟨floatOf negative whole part 0, fun start rest ends => ?_⟩
    have part_eq := fraction_append ne all fun c head => (ends c head).1
    have noMark : exponent? rest = none := exponent?_of_ne fun c head => (ends c head).2.2
    rw [Text.ofChars, List.map_append, List.append_assoc, unsigned,
      wholePart?_append isWhole (by simp; decide)]
    simp only [List.map_cons, List.cons_append, part_eq, noMark]
    rw [if_pos (by simpa using ne)]
    rfl
  | @exponent sign power isSign ne all =>
    obtain ⟨exponent, exponent_eq⟩ := exists_exponent?_append isSign ne all
    refine ⟨floatOf negative whole [] exponent, fun start rest ends => ?_⟩
    have noPoint : fraction (.char 'e' :: .char sign :: (Text.ofChars power ++ rest)) =
        ([], .char 'e' :: .char sign :: (Text.ofChars power ++ rest)) :=
      fraction_of_ne (by simp)
    rw [Text.ofChars, List.map_append, List.append_assoc, unsigned,
      wholePart?_append isWhole (by simp; decide)]
    simp only [List.map_cons, List.cons_append, noPoint,
      exponent_eq rest fun c head => (ends c head).1]
    rfl
  | @both part sign power ne_part all_part isSign ne all =>
    obtain ⟨exponent, exponent_eq⟩ := exists_exponent?_append isSign ne all
    refine ⟨floatOf negative whole part exponent, fun start rest ends => ?_⟩
    have part_eq : fraction (.char '.' :: (Text.ofChars part ++
        .char 'e' :: .char sign :: (Text.ofChars power ++ rest))) =
        (Text.ofChars part, .char 'e' :: .char sign :: (Text.ofChars power ++ rest)) :=
      fraction_append ne_part all_part (by simp; decide)
    rw [Text.ofChars, List.map_append, List.append_assoc, unsigned,
      wholePart?_append isWhole (by simp; decide)]
    simp only [List.map_cons, List.map_append, List.append_assoc, List.cons_append, part_eq,
      exponent_eq rest fun c head => (ends c head).1]
    rfl

/-- Digits followed by zeros are digits. -/
lemma isDigit_of_mem_zeros {count : Nat} : ∀ d ∈ List.replicate count '0', d.isDigit = true := by
  intro d mem
  rw [List.eq_of_mem_replicate mem]
  rfl

/-- The digits of a decimal: those of zero, or some that do not start with a zero. -/
lemma scientific_cases (d : Decimal.Numeral) :
    d.scientific = (['0'], 1) ∨ ∃ first more, d.scientific.1 = first :: more ∧ first ≠ '0' ∧
      ∀ digit ∈ first :: more, digit.isDigit = true := by
  rw [Decimal.Numeral.scientific]
  by_cases zero : d.digits = 0
  · exact .inl (if_pos zero)
  · right
    rw [if_neg zero]
    obtain ⟨first, more, digits_eq, ne⟩ := exists_toDigits_eq (Nat.pos_of_ne_zero zero)
    -- the first digit is no zero, so it is kept when zeros at the end are dropped
    have kept : (Nat.toDigits 10 d.digits).rdropWhile (· = '0') ≠ [] := by
      intro none
      rw [List.rdropWhile_eq_nil_iff, digits_eq] at none
      exact ne (by simpa using none first List.mem_cons_self)
    have before : (Nat.toDigits 10 d.digits).rdropWhile (· = '0') <+: Nat.toDigits 10 d.digits :=
      List.rdropWhile_prefix _ _
    obtain ⟨other, rest, kept_eq⟩ := List.exists_cons_of_ne_nil kept
    rw [kept_eq, digits_eq] at before
    obtain ⟨rfl, _⟩ := List.cons_prefix_cons.1 before
    refine ⟨other, rest, kept_eq, ne, fun digit mem => ?_⟩
    rw [← digits_eq] at before
    exact isDigit_of_mem_toDigits digit (before.subset mem)

/-- Digits with a point among them are the digits in front of it and a fraction. -/
lemma exists_positional_eq {first : Char} {more : List Char} (ne : first ≠ '0')
    (all : ∀ digit ∈ first :: more, digit.isDigit = true) (point : Int) :
    ∃ whole tail, Decimal.positional (first :: more) point = whole ++ tail ∧ IsWhole whole ∧
      IsFloatTail tail := by
  cases point with
  | negSucc n =>
    refine ⟨['0'], '.' :: (List.replicate (n + 1) '0' ++ first :: more), rfl, isWhole_zero,
      .fraction (by simp) fun digit mem => ?_⟩
    exact (List.mem_append.1 mem).elim (isDigit_of_mem_zeros digit) (all digit)
  | ofNat n =>
    refine ⟨_, _, rfl, ?_, ?_⟩
    · cases n with
      | zero =>
        rw [if_pos (by simp)]
        exact isWhole_zero
      | succ n =>
        rw [if_neg (by simp)]
        refine ⟨fun digit mem => ?_, .inr ⟨first, _, rfl, ne⟩⟩
        exact (List.mem_append.1 mem).elim (fun taken => all digit (List.mem_of_mem_take taken))
          (isDigit_of_mem_zeros digit)
    · refine .fraction ?_ fun digit mem => ?_
      · split_ifs with none
        · exact List.cons_ne_nil _ _
        · exact none
      · split_ifs at mem with none
        · rw [List.mem_singleton.1 mem]
          rfl
        · exact all digit (List.mem_of_mem_drop mem)

/-- Digits with an exponent are the first of them, a fraction if there are more, and the exponent. -/
lemma exists_exponential_eq {first : Char} {more : List Char} (ne : first ≠ '0')
    (all : ∀ digit ∈ first :: more, digit.isDigit = true) (width : Nat) (point : Int) :
    ∃ whole tail, Decimal.exponential width (first :: more) point = whole ++ tail ∧ IsWhole whole ∧
      IsFloatTail tail := by
  obtain ⟨isDigit, allMore⟩ := List.forall_mem_cons.1 all
  have whole : IsWhole [first] := ⟨by simpa using isDigit, .inr ⟨first, [], rfl, ne⟩⟩
  generalize sign_eq : (if point - 1 < 0 then '-' else '+') = sign
  have isSign : sign = '-' ∨ sign = '+' := by
    rw [← sign_eq]
    exact ite_eq_or_eq _ _ _
  generalize power_eq : Nat.toDigits 10 (point - 1).natAbs = power
  have power_ne : power ≠ [] := power_eq ▸ Nat.toDigits_ne_nil
  have padded_ne : List.replicate (width - power.length) '0' ++ power ≠ [] := by simp [power_ne]
  have padded : ∀ d ∈ List.replicate (width - power.length) '0' ++ power, d.isDigit = true := by
    intro d mem
    refine (List.mem_append.1 mem).elim (isDigit_of_mem_zeros d) fun mem => ?_
    exact isDigit_of_mem_toDigits d (power_eq ▸ mem)
  rw [Decimal.exponential, sign_eq, power_eq]
  cases more with
  | nil => exact ⟨[first], _, rfl, whole, .exponent isSign padded_ne padded⟩
  | cons second more =>
    refine ⟨[first], '.' :: (second :: more ++ 'e' :: sign ::
      (List.replicate (width - power.length) '0' ++ power)), by simp, whole, ?_⟩
    exact .both (List.cons_ne_nil _ _) allMore isSign padded_ne padded

/-- A finite number is written by the digits in front of a point or exponent, and what follows. -/
lemma exists_digits_eq (x : Float) (finite : x.isNaN = false ∧ x.isInf = false) :
    ∃ whole tail, IsWhole whole ∧ IsFloatTail tail ∧
      writeScalar (.float x) = (if Decimal.isNegative x then ['-'] else []) ++ (whole ++ tail) := by
  have written : ∃ whole tail,
      (if floatFormat.lowest < (Decimal.shortest x).scientific.2 ∧
          (Decimal.shortest x).scientific.2 ≤ floatFormat.highest then
        Decimal.positional (Decimal.shortest x).scientific.1 (Decimal.shortest x).scientific.2
      else
        Decimal.exponential floatFormat.exponentWidth (Decimal.shortest x).scientific.1
          (Decimal.shortest x).scientific.2) = whole ++ tail ∧ IsWhole whole ∧ IsFloatTail tail := by
    obtain zero | ⟨first, more, digits_eq, ne, all⟩ := scientific_cases (Decimal.shortest x)
    · rw [zero, if_pos (by decide)]
      exact ⟨['0'], ['.', '0'], rfl, isWhole_zero,
        .fraction (by decide) (List.forall_mem_singleton.2 rfl)⟩
    · rw [digits_eq]
      split
      · exact exists_positional_eq ne all _
      · exact exists_exponential_eq ne all _ _
  obtain ⟨whole, tail, eq, isWhole, isTail⟩ := written
  refine ⟨whole, tail, isWhole, isTail, ?_⟩
  rw [writeScalar, Decimal.Layout.write, finite.1, finite.2, if_neg Bool.false_ne_true,
    if_neg Bool.false_ne_true, String.toList_append, ← eq]
  split <;> simp

/-- The words for floating-point numbers that have no digits. -/
def floatWords : List (List Char) := ["NaN".toList, "Infinity".toList, "-Infinity".toList]

/-- A floating-point number is written by a word, or by digits with a point or an exponent. -/
lemma writeScalar_float_cases (x : Float) :
    writeScalar (.float x) ∈ floatWords ∨ ∃ whole tail, IsWhole whole ∧ IsFloatTail tail ∧
      writeScalar (.float x) = (if Decimal.isNegative x then ['-'] else []) ++ (whole ++ tail) := by
  by_cases nan : x.isNaN = true
  · left
    rw [writeScalar, Decimal.Layout.write, nan, if_pos rfl]
    exact List.mem_cons_self
  by_cases inf : x.isInf = true
  · left
    rw [writeScalar, Decimal.Layout.write, if_neg nan, inf, if_pos rfl]
    cases Decimal.isNegative x with
    | true => exact List.mem_cons_of_mem _ (List.mem_cons_of_mem _ List.mem_cons_self)
    | false => exact List.mem_cons_of_mem _ List.mem_cons_self
  rw [Bool.not_eq_true] at nan inf
  exact .inr (exists_digits_eq x ⟨nan, inf⟩)

/-- Whatever floating-point number is written, it is read as a floating-point number, which does not
depend on what follows it. -/
lemma exists_simple_float (x : Float) :
    ∃ y, ∀ rest, EndsNumber rest →
      simple (Text.ofChars (writeScalar (.float x)) ++ rest) = .ok (.float y, rest) := by
  obtain word | ⟨whole, tail, isWhole, isTail, written⟩ := writeScalar_float_cases x
  · simp only [floatWords, List.mem_cons, List.not_mem_nil, or_false] at word
    rcases word with written | written | written
    all_goals
      rw [written]
      exact ⟨_, fun rest _ => rfl⟩
  · obtain ⟨y, read⟩ := exists_unsigned_float isWhole isTail (Decimal.isNegative x)
    obtain ⟨first, more, whole_eq⟩ := isWhole.exists_cons
    have isDigit : first.isDigit = true := isWhole.isDigit first (whole_eq ▸ List.mem_cons_self)
    refine ⟨y, fun rest ends => ?_⟩
    rw [whole_eq] at read written
    rw [written]
    cases sign : Decimal.isNegative x with
    | true =>
      rw [sign] at read
      exact (simple_of_minus isDigit _).trans (read _ rest ends)
    | false =>
      rw [sign] at read
      exact (simple_of_isDigit isDigit _).trans (read _ rest ends)

/-- The number that is read where a floating-point number is written. -/
def rereadFloat (x : Float) : Float :=
  match simple (Text.ofChars (writeScalar (.float x))) with
  | .ok (.float y, _) => y
  | _ => x

/-- A floating-point number is read as one. -/
lemma simple_float (x : Float) (ends : EndsNumber rest) :
    simple (Text.ofChars (writeScalar (.float x)) ++ rest) = .ok (.float (rereadFloat x), rest) := by
  obtain ⟨y, read⟩ := exists_simple_float x
  have alone := read [] fun c head => absurd head (Option.some_ne_none c).symm
  rw [List.append_nil] at alone
  rw [read rest ends, rereadFloat, alone]

end Json

end CompileFlags
