import CompileFlags.Proofs.Json.Value
import Mathlib.Algebra.Group.Nat.Defs

/-!
# The grammar of JSON

What a JSON text is, without a reader: numbers (`IsNumber`), strings (`IsString`), and values, which
contain each other (`Conforms`). How many digits an integer may have and how deep brackets may be nested is
left open. A number that is
read is one of the grammar (`exists_isUnsigned`), and any number of the grammar is read, unless it is an
integer of too many digits (`passes_unsigned`, `unsigned_of_isWholePart`).
-/

namespace CompileFlags.Json

variable {cs rest part : Text} {fits : Nat → Prop} {deep : Prop}

/-- Blanks, or nothing. -/
def IsGap (cs : Text) : Prop := ∀ c ∈ cs, isBlank c = true

/-- At least one digit, and nothing else. -/
def AreDigits (cs : Text) : Prop := cs ≠ [] ∧ ∀ d ∈ cs, isDigit d = true

/-- The digits in front of the point: a zero alone, or a run that starts with another digit. -/
def IsWholePart (cs : Text) : Prop :=
  AreDigits cs ∧ (cs = [.char '0'] ∨ cs.head? ≠ some (.char '0'))

/-- The point and the digits behind it. -/
def IsFraction (cs : Text) : Prop := ∃ digits, cs = .char '.' :: digits ∧ AreDigits digits

/-- The sign of an exponent, or nothing. -/
def IsSign (sign : Text) : Prop := sign = [] ∨ sign = [.char '+'] ∨ sign = [.char '-']

/-- The mark of the exponent, perhaps a sign, and digits. -/
def IsExponent (cs : Text) : Prop :=
  ∃ mark sign digits, cs = mark :: (sign ++ digits) ∧ (mark = .char 'e' ∨ mark = .char 'E') ∧
    IsSign sign ∧ AreDigits digits

/-- A number without its sign. It is an integer if it has neither a fraction nor an exponent, and then
the number of its digits has to fit. -/
inductive IsUnsigned (fits : Nat → Prop) : Text → Prop where
  | parts {whole fraction exponent : Text} (isWhole : IsWholePart whole)
    (isFraction : fraction = [] ∨ IsFraction fraction)
    (isExponent : exponent = [] ∨ IsExponent exponent)
    (fits_length : fraction = [] → exponent = [] → fits whole.length) :
    IsUnsigned fits (whole ++ (fraction ++ exponent))

/-- A number. -/
def IsNumber (fits : Nat → Prop) (cs : Text) : Prop :=
  ∃ sign digits, cs = sign ++ digits ∧ (sign = [] ∨ sign = [.char '-']) ∧ IsUnsigned fits digits

/-- What stands between the quotes of a string: characters other than quotes, backslashes and control
characters, and escapes of one letter or four hexadecimal digits. -/
inductive IsQuoted : Text → Prop where
  | nil : IsQuoted []
  | plain {c : CodePoint} {cs : Text} (ne : c ≠ '"' ∧ c ≠ '\\') (le : 0x20 ≤ c.number)
    (more : IsQuoted cs) : IsQuoted (c :: cs)
  | short {letter : CodePoint} {cs : Text} (known : (shortEscape? letter).isSome = true)
    (more : IsQuoted cs) : IsQuoted (.char '\\' :: letter :: cs)
  | unicode {digits cs : Text} (four : digits.length = 4)
    (hex : ∀ d ∈ digits, (hexDigit? d).isSome = true) (more : IsQuoted cs) :
    IsQuoted (.char '\\' :: .char 'u' :: (digits ++ cs))

/-- A string with its quotes. -/
def IsString (cs : Text) : Prop := ∃ body, cs = .char '"' :: (body ++ [.char '"']) ∧ IsQuoted body

/-- What contains each other: values, and what stands between the brackets of an array and between the
braces of an object. -/
inductive Part where
  | value
  | items
  | members

/-- The name of a member with the colon and the gaps around it. -/
def IsName (cs : Text) : Prop :=
  ∃ name before after, cs = name ++ (before ++ .char ':' :: after) ∧ IsString name ∧
    IsGap before ∧ IsGap after

/-- A comma with the gaps around it. -/
def IsComma (cs : Text) : Prop :=
  ∃ before after, cs = before ++ .char ',' :: after ∧ IsGap before ∧ IsGap after

/-- Whether a text is a value, or what stands between the brackets of one that is not empty, with brackets
that are nested up to so many levels. -/
inductive Conforms (fits : Nat → Prop) : Nat → Part → Text → Prop where
  | word {levels : Nat} {word : Text} {v : Value} (mem : (word, v) ∈ words) :
    Conforms fits levels .value word
  | number {levels : Nat} {cs : Text} (isNumber : IsNumber fits cs) : Conforms fits levels .value cs
  | string {levels : Nat} {cs : Text} (isString : IsString cs) : Conforms fits levels .value cs
  | emptyArray {levels : Nat} {gap : Text} (blank : IsGap gap) :
    Conforms fits (levels + 1) .value (.char '[' :: (gap ++ [.char ']']))
  | array {levels : Nat} {before after items : Text} (blank_before : IsGap before)
    (blank_after : IsGap after) (inside : Conforms fits levels .items items) :
    Conforms fits (levels + 1) .value
      (.char '[' :: (before ++ (items ++ (after ++ [.char ']']))))
  | emptyObject {levels : Nat} {gap : Text} (blank : IsGap gap) :
    Conforms fits (levels + 1) .value (.char '\x7b' :: (gap ++ [.char '\x7d']))
  | object {levels : Nat} {before after members : Text} (blank_before : IsGap before)
    (blank_after : IsGap after) (inside : Conforms fits levels .members members) :
    Conforms fits (levels + 1) .value
      (.char '\x7b' :: (before ++ (members ++ (after ++ [.char '\x7d']))))
  | lastItem {levels : Nat} {item : Text} (value : Conforms fits levels .value item) :
    Conforms fits levels .items item
  | item {levels : Nat} {item comma items : Text} (value : Conforms fits levels .value item)
    (isComma : IsComma comma) (more : Conforms fits levels .items items) :
    Conforms fits levels .items (item ++ (comma ++ items))
  | lastMember {levels : Nat} {name item : Text} (isName : IsName name)
    (value : Conforms fits levels .value item) : Conforms fits levels .members (name ++ item)
  | member {levels : Nat} {name item comma members : Text} (isName : IsName name)
    (value : Conforms fits levels .value item) (isComma : IsComma comma)
    (more : Conforms fits levels .members members) :
    Conforms fits levels .members (name ++ (item ++ (comma ++ members)))

/-- Whether a text is one value, with nothing but blanks around it. -/
def IsDocument (fits : Nat → Prop) (levels : Nat) (value text : Text) : Prop :=
  ∃ before after, text = before ++ (value ++ after) ∧ IsGap before ∧ IsGap after ∧
    Conforms fits levels .value value

/-- Whether a text is an array, however deep its brackets are nested. -/
def IsArray (fits : Nat → Prop) (text : Text) : Prop :=
  ∃ levels value, IsDocument fits levels value text ∧ value.head? = some (.char '[')

/-- Whether a text is an object, however deep its brackets are nested. -/
def IsObject (fits : Nat → Prop) (text : Text) : Prop :=
  ∃ levels value, IsDocument fits levels value text ∧ value.head? = some (.char '\x7b')

/-- The number of digits that an integer may have. -/
def Short (count : Nat) : Prop := count ≤ Text.maxDigits

/-- Any number of digits. -/
def Any (_ : Nat) : Prop := True

/-- Digits are characters. -/
lemma exists_ofChars_eq (all : ∀ d ∈ cs, isDigit d = true) :
    ∃ digits, cs = Text.ofChars digits ∧ ∀ d ∈ digits, d.isDigit = true := by
  induction cs with
  | nil => exact ⟨[], rfl, List.forall_mem_nil _⟩
  | cons c cs ih =>
    obtain ⟨first, others⟩ := List.forall_mem_cons.1 all
    obtain ⟨digits, rfl, allDigits⟩ := ih others
    cases c with
    | surrogate n => exact absurd first Bool.false_ne_true
    | char d =>
      have isDigit_d : d.isDigit = true := by
        simpa [isDigit, CodePoint.isIn, CodePoint.char?] using first
      exact ⟨d :: digits, rfl, List.forall_mem_cons.2 ⟨isDigit_d, allDigits⟩⟩

/-- Digits that stand in front of a point are those that may be written there. -/
lemma IsWholePart.exists_isWhole (isWholePart : IsWholePart cs) :
    ∃ digits, cs = Text.ofChars digits ∧ IsWhole digits := by
  obtain ⟨⟨ne, all⟩, leads⟩ := isWholePart
  obtain ⟨digits, rfl, allDigits⟩ := exists_ofChars_eq all
  refine ⟨digits, rfl, allDigits, ?_⟩
  cases digits with
  | nil => exact absurd rfl ne
  | cons d more =>
    obtain alone | ne_zero := leads
    · exact .inl (List.map_injective_iff.2 (fun _ _ => CodePoint.char.inj) alone)
    · refine .inr ⟨d, more, rfl, ?_⟩
      rintro rfl
      exact ne_zero rfl

/-- Digits that belong together are followed by something else. -/
lemma head?_dropWhile_digits (cs : Text) :
    ∀ c, (cs.dropWhile isDigit).head? = some c → isDigit c = false := by
  intro c head
  have no := List.head?_dropWhile_not isDigit cs
  rw [head] at no
  simpa using no

/-- The digits that are read in front of a point, and what follows them. -/
lemma isWholePart_of_wholePart? {whole : Text} (read : wholePart? cs = some (whole, rest)) :
    IsWholePart whole ∧ cs = whole ++ rest ∧
      (whole = [.char '0'] ∨ ∀ c, rest.head? = some c → isDigit c = false) := by
  cases cs with
  | nil => exact absurd read (Option.some_ne_none _).symm
  | cons c cs =>
    rw [wholePart?] at read
    split at read
    · rename_i isZero
      obtain ⟨rfl, rfl⟩ := Prod.mk.inj (Option.some.inj read)
      subst isZero
      exact ⟨⟨⟨List.cons_ne_nil _ _, List.forall_mem_singleton.2 rfl⟩, .inl rfl⟩, rfl, .inl rfl⟩
    split at read
    · rename_i notZero first
      obtain ⟨rfl, rfl⟩ := Prod.mk.inj (Option.some.inj read)
      have taken := List.takeWhile_append_dropWhile (p := isDigit) (l := c :: cs)
      refine ⟨⟨⟨?_, fun d mem => List.mem_takeWhile_imp mem⟩, .inr ?_⟩, taken.symm,
        .inr (head?_dropWhile_digits _)⟩
      · rw [List.takeWhile_cons_of_pos first]
        exact List.cons_ne_nil _ _
      · rw [List.takeWhile_cons_of_pos first]
        exact mt Option.some.inj notZero
    · exact absurd read (Option.some_ne_none _).symm

/-- What goes on with the digits in front of a point. -/
inductive GoesOn (rest : Text) : Prop where
  | digit {d : CodePoint} (head : rest.head? = some d) (isDigit_d : isDigit d = true)
  | fraction {part : Text} (isFraction : IsFraction part) (begins : part <+: rest)
  | exponent {part : Text} (isExponent : IsExponent part) (begins : part <+: rest)

/-- What follows the sign of an exponent. -/
def afterSign : Text → Text
  | .char '-' :: rest => rest
  | .char '+' :: rest => rest
  | rest => rest

/-- Where digits begin, they are taken as far as they go. -/
lemma areDigits_takeWhile (ne : cs.takeWhile isDigit ≠ []) : AreDigits (cs.takeWhile isDigit) :=
  ⟨ne, fun _ mem => List.mem_takeWhile_imp mem⟩

/-- Digits that begin a text are taken. -/
lemma takeWhile_ne_nil {digits : Text} (areDigits : AreDigits digits) (begins : digits <+: cs) :
    cs.takeWhile isDigit ≠ [] := by
  obtain ⟨ne, all⟩ := areDigits
  obtain ⟨more, rfl⟩ := begins
  rw [List.takeWhile_append_of_pos all]
  exact List.append_ne_nil_of_left_ne_nil ne _

/-- The digits behind a point are read exactly if there is a fraction. -/
lemma fraction_cases (cs : Text) :
    (fraction cs = ([], cs) ∧ ∀ part, IsFraction part → ¬ part <+: cs) ∨
      ∃ digits rest, fraction cs = (digits, rest) ∧ AreDigits digits ∧
        cs = .char '.' :: (digits ++ rest) := by
  rw [fraction.eq_def]
  split
  · rename_i after
    split
    · rename_i none
      refine .inl ⟨rfl, ?_⟩
      rintro _ ⟨digits, rfl, areDigits⟩ begins
      exact takeWhile_ne_nil areDigits (List.cons_prefix_cons.1 begins).2 none
    · rename_i some
      refine .inr ⟨_, _, rfl, areDigits_takeWhile some, ?_⟩
      rw [List.takeWhile_append_dropWhile]
  · rename_i noPoint
    refine .inl ⟨rfl, ?_⟩
    rintro _ ⟨digits, rfl, areDigits⟩ ⟨more, rfl⟩
    exact noPoint _ rfl

/-- In front of what follows a sign is a sign. -/
lemma exists_isSign (cs : Text) : ∃ sign, IsSign sign ∧ cs = sign ++ afterSign cs := by
  rw [afterSign.eq_def]
  split
  · exact ⟨_, .inr (.inr rfl), rfl⟩
  · exact ⟨_, .inr (.inl rfl), rfl⟩
  · exact ⟨_, .inl rfl, rfl⟩

/-- Digits follow a sign. -/
lemma afterSign_append {sign digits : Text} (isSign : IsSign sign) (areDigits : AreDigits digits) :
    afterSign (sign ++ (digits ++ rest)) = digits ++ rest := by
  obtain rfl | rfl | rfl := isSign
  · obtain ⟨ne, all⟩ := areDigits
    cases digits with
    | nil => exact absurd rfl ne
    | cons d more =>
      have isDigit_d := all d List.mem_cons_self
      rw [List.nil_append, List.cons_append, afterSign.eq_def]
      split
      · rename_i e
        rw [(List.cons.inj e).1] at isDigit_d
        exact absurd isDigit_d (by decide)
      · rename_i e
        rw [(List.cons.inj e).1] at isDigit_d
        exact absurd isDigit_d (by decide)
      · rfl
  · rfl
  · rfl

/-- An exponent is read by the digits that follow its sign. -/
lemma exponent?_cons {mark : CodePoint} (isMark : mark = .char 'e' ∨ mark = .char 'E') (cs : Text) :
    exponent? (mark :: cs) =
      if (afterSign cs).takeWhile isDigit = [] then none
      else some (if cs.head? = some (.char '-') then -(ofDigits ((afterSign cs).takeWhile isDigit) : Int)
        else ofDigits ((afterSign cs).takeWhile isDigit), (afterSign cs).dropWhile isDigit) := by
  rw [exponent?.eq_def]
  dsimp only
  rw [if_pos isMark]
  fun_cases afterSign cs with
  | case1 rest =>
    simp only
    cases rest.takeWhile isDigit with
    | nil => rfl
    | cons d digits => rfl
  | case2 rest =>
    simp only
    cases rest.takeWhile isDigit with
    | nil => rfl
    | cons d digits => rfl
  | case3 cs noMinus noPlus =>
    have head : cs.head? ≠ some (.char '-') := fun head =>
      (List.head?_eq_some_iff.1 head).elim noMinus
    simp only [if_neg head]
    cases cs.takeWhile isDigit with
    | nil => rfl
    | cons d digits => rfl

/-- An exponent is read exactly if there is one. -/
lemma exponent?_cases (cs : Text) :
    (exponent? cs = none ∧ ∀ part, IsExponent part → ¬ part <+: cs) ∨
      ∃ exponent part rest, exponent? cs = some (exponent, rest) ∧ IsExponent part ∧
        cs = part ++ rest := by
  cases cs with
  | nil =>
    refine .inl ⟨rfl, ?_⟩
    rintro _ ⟨mark, sign, digits, rfl, _⟩ ⟨more, e⟩
    exact absurd e (List.cons_ne_nil _ _)
  | cons mark cs =>
    by_cases isMark : mark = .char 'e' ∨ mark = .char 'E'
    · have read := exponent?_cons isMark cs
      obtain ⟨sign, isSign, cs_eq⟩ := exists_isSign cs
      by_cases none : (afterSign cs).takeWhile isDigit = []
      · rw [if_pos none] at read
        refine .inl ⟨read, ?_⟩
        rintro _ ⟨_, sign', digits, rfl, _, isSign', areDigits⟩ begins
        obtain ⟨more, e⟩ := (List.cons_prefix_cons.1 begins).2
        rw [← e, List.append_assoc, afterSign_append isSign' areDigits] at none
        exact takeWhile_ne_nil areDigits (List.prefix_append _ _) none
      · rw [if_neg none] at read
        refine .inr ⟨_, _, _, read, ⟨mark, sign, _, rfl, isMark, isSign, areDigits_takeWhile none⟩,
          ?_⟩
        rw [List.cons_append, List.append_assoc, List.takeWhile_append_dropWhile, ← cs_eq]
    · refine .inl ⟨?_, ?_⟩
      · refine exponent?_of_ne fun c head => ?_
        obtain rfl := Option.some.inj head
        exact not_or.1 isMark
      · rintro _ ⟨_, _, _, rfl, isMark', _⟩ begins
        obtain ⟨rfl, _⟩ := List.cons_prefix_cons.1 begins
        exact isMark isMark'

/-- Digits are taken as far as they go. -/
lemma AreDigits.takeWhile_append {digits : Text} (areDigits : AreDigits digits)
    (ends : ∀ c, rest.head? = some c → isDigit c = false) :
    (digits ++ rest).takeWhile isDigit = digits ∧ (digits ++ rest).dropWhile isDigit = rest := by
  obtain ⟨chars, rfl, all⟩ := exists_ofChars_eq areDigits.2
  exact ⟨takeWhile_digits all ends, dropWhile_digits all ends⟩

/-- A fraction is read whole. -/
lemma fraction_of_isFraction (isFraction : IsFraction part)
    (ends : ∀ c, rest.head? = some c → isDigit c = false) :
    ∃ digits, digits ≠ [] ∧ fraction (part ++ rest) = (digits, rest) := by
  obtain ⟨digits, rfl, areDigits⟩ := isFraction
  obtain ⟨chars, rfl, all⟩ := exists_ofChars_eq areDigits.2
  exact ⟨_, areDigits.1, fraction_append (mt (congrArg Text.ofChars) areDigits.1) all ends⟩

/-- An exponent is read whole. -/
lemma exponent?_of_isExponent (isExponent : IsExponent part)
    (ends : ∀ c, rest.head? = some c → isDigit c = false) :
    ∃ exponent, exponent? (part ++ rest) = some (exponent, rest) := by
  obtain ⟨mark, sign, digits, rfl, isMark, isSign, areDigits⟩ := isExponent
  obtain ⟨taken, dropped⟩ := areDigits.takeWhile_append ends
  have read := exponent?_cons isMark (sign ++ (digits ++ rest))
  rw [afterSign_append isSign areDigits, taken, dropped, if_neg areDigits.1] at read
  exact ⟨_, by rw [List.cons_append, List.append_assoc, read]⟩

/-- Whether a limit is one that a text can go beyond, where so many digits fit, and brackets can be too
deep. -/
def Limit.CanBeExceeded (fits : Nat → Prop) (deep : Prop) : Limit → Prop
  | .tooManyDigits count => fits count ∧ ¬ Short count
  | .tooDeep _ => deep

/-- A text with short integers that goes no deeper is within all limits. -/
lemma Limit.not_canBeExceeded {levels : Nat} (limit : Limit) :
    ¬ limit.CanBeExceeded Short (levels < levels) := by
  cases limit with
  | tooManyDigits count => exact fun exceeded => exceeded.2 exceeded.1
  | tooDeep bracket => exact lt_irrefl levels

/-- Whether reading comes as far as this, or ends beyond a limit. -/
def Passes {α : Type} (fits : Nat → Prop) (deep : Prop) (reading : Reading α) (rest : Text) : Prop :=
  (∃ a, reading = .ok (a, rest)) ∨
    ∃ limit : Limit, reading = .error limit.fault ∧ limit.CanBeExceeded fits deep

/-- A number without a sign is read whole, unless it has too many digits. -/
lemma passes_unsigned (negative : Bool) (start : Text) (isUnsigned : IsUnsigned fits part)
    (ends : EndsNumber rest) : Passes fits deep (unsigned negative start (part ++ rest)) rest := by
  obtain ⟨isWhole, isFraction, isExponent, fits_length⟩ := isUnsigned
  rename_i whole part exponent
  have noDigit : ∀ c, rest.head? = some c → isDigit c = false := fun c head => (ends c head).1
  -- what follows the fraction starts with the mark of the exponent, or ends the number
  have afterPart : ∀ c, (exponent ++ rest).head? = some c → isDigit c = false ∧ c ≠ '.' := by
    obtain rfl | ⟨mark, _, _, rfl, isMark, _⟩ := isExponent
    · exact fun c head => ⟨(ends c head).1, (ends c head).2.1⟩
    · intro c head
      obtain rfl := Option.some.inj head
      obtain rfl | rfl := isMark <;> exact ⟨rfl, by decide⟩
  have afterWhole : ∀ c, (part ++ (exponent ++ rest)).head? = some c → isDigit c = false := by
    obtain rfl | ⟨_, rfl, _⟩ := isFraction
    · exact fun c head => (afterPart c head).1
    · rintro _ ⟨⟩
      rfl
  obtain ⟨digits, rfl, written⟩ := isWhole.exists_isWhole
  rw [unsigned, List.append_assoc, List.append_assoc, wholePart?_append written afterWhole]
  dsimp only
  obtain rfl | isFraction := isFraction
  · have noPoint : fraction ([] ++ (exponent ++ rest)) = ([], exponent ++ rest) :=
      fraction_of_ne fun c head => (afterPart c head).2
    rw [noPoint]
    dsimp only
    obtain rfl | isExponent := isExponent
    · have noMark : exponent? ([] ++ rest) = none :=
        exponent?_of_ne fun c head => (ends c head).2.2
      rw [noMark, if_neg (not_not_intro rfl)]
      dsimp only
      by_cases long : (Text.ofChars digits).length > Text.maxDigits
      · rw [if_pos long]
        exact .inr ⟨.tooManyDigits _, rfl, fits_length rfl rfl, Nat.not_le.2 long⟩
      · rw [if_neg long]
        exact .inl ⟨_, rfl⟩
    · obtain ⟨power, read⟩ := exponent?_of_isExponent isExponent noDigit
      rw [read]
      exact .inl ⟨_, rfl⟩
  · obtain ⟨behind, ne, read⟩ :=
      fraction_of_isFraction isFraction fun c head => (afterPart c head).1
    rw [read]
    dsimp only
    obtain rfl | isExponent := isExponent
    · have noMark : exponent? ([] ++ rest) = none :=
        exponent?_of_ne fun c head => (ends c head).2.2
      rw [noMark, if_pos ne]
      exact .inl ⟨_, rfl⟩
    · obtain ⟨power, read⟩ := exponent?_of_isExponent isExponent noDigit
      rw [read]
      exact .inl ⟨_, rfl⟩

/-- Digits spell a number with no more digits. -/
lemma ofDigits_lt {digits : Text} (all : ∀ d ∈ digits, isDigit d = true) :
    ofDigits digits < 10 ^ digits.length := by
  induction digits using List.reverseRecOn with
  | nil => exact Nat.one_pos
  | append_singleton digits d ih =>
    have lt := ih fun d mem => all d (List.mem_append_left _ mem)
    have le : d.number - 48 ≤ 9 := by
      have isDigit_d := all d (List.mem_append_right _ List.mem_cons_self)
      cases d with
      | surrogate n => exact absurd isDigit_d Bool.false_ne_true
      | char c =>
        have bounds : 48 ≤ c.val ∧ c.val ≤ 57 := by
          simpa [isDigit, CodePoint.isIn, CodePoint.char?, Char.isDigit] using isDigit_d
        have upper := UInt32.le_iff_toNat_le.1 bounds.2
        exact Nat.sub_le_of_le_add upper
    rw [ofDigits] at lt ⊢
    rw [List.foldl_append, List.length_append, List.length_singleton, Nat.pow_succ]
    simp only [List.foldl_cons, List.foldl_nil]
    omega

/-- The integer that short digits spell can be written. -/
lemma isWritableScalar_of_short {digits : Text} (areDigits : AreDigits digits)
    (short : Short digits.length) (negative : Bool) :
    IsWritableScalar (.int (if negative then -(ofDigits digits : Int) else ofDigits digits)) := by
  have pos : 0 < digits.length := List.length_pos_iff.2 areDigits.1
  have le := (Nat.length_toDigits_le_iff (by decide : 1 < 10) pos).2 (ofDigits_lt areDigits.2)
  have abs_eq : (if negative then -(ofDigits digits : Int) else ofDigits digits).natAbs =
      ofDigits digits := by
    split <;> simp
  rw [IsWritableScalar, abs_eq]
  exact le.trans short

/-- A number without a sign that is read is one, with an integer that is short. So it can be written. -/
lemma exists_isUnsigned {negative : Bool} {start : Text} {v : Value}
    (read : unsigned negative start cs = .ok (v, rest)) :
    (∃ s, v = .scalar s ∧ IsWritableScalar s) ∧ ∃ part, IsUnsigned Short part ∧ cs = part ++ rest := by
  rw [unsigned] at read
  split at read
  · exact absurd read (by simp)
  rename_i whole afterWhole whole_eq
  obtain ⟨isWhole, rfl, _⟩ := isWholePart_of_wholePart? whole_eq
  dsimp only at read
  -- the fraction and what follows it, whether there is one or not
  obtain ⟨part, digits, afterPart, fraction_eq, isFraction, part_eq_nil, rfl⟩ :
      ∃ part digits afterPart, fraction afterWhole = (digits, afterPart) ∧
        (part = [] ∨ IsFraction part) ∧ (part = [] → digits = []) ∧
          afterWhole = part ++ afterPart := by
    obtain ⟨fraction_eq, _⟩ | ⟨digits, more, fraction_eq, areDigits, rfl⟩ :=
      fraction_cases afterWhole
    · exact ⟨[], [], _, fraction_eq, .inl rfl, fun _ => rfl, rfl⟩
    · exact ⟨.char '.' :: digits, digits, more, fraction_eq, .inr ⟨digits, rfl, areDigits⟩,
        fun none => absurd none (List.cons_ne_nil _ _), rfl⟩
  rw [fraction_eq] at read
  dsimp only at read
  obtain ⟨exponent_eq, _⟩ | ⟨power, exponent, more, exponent_eq, isExponent, rfl⟩ :=
    exponent?_cases afterPart
  · rw [exponent_eq] at read
    dsimp only at read
    split at read
    · rename_i ne
      obtain ⟨⟩ := read
      refine ⟨⟨_, rfl, trivial⟩, _, .parts isWhole isFraction (.inl rfl) fun none _ => ?_, ?_⟩
      · exact absurd (part_eq_nil none) ne
      · simp
    split at read
    · exact absurd read (by simp)
    · rename_i notLong
      obtain ⟨⟩ := read
      have short : Short whole.length := Nat.not_lt.1 notLong
      refine ⟨⟨_, rfl, isWritableScalar_of_short isWhole.1 short negative⟩, _,
        .parts isWhole isFraction (.inl rfl) fun _ _ => short, ?_⟩
      simp
  · rw [exponent_eq] at read
    obtain ⟨⟩ := read
    refine ⟨⟨_, rfl, trivial⟩, _, .parts isWhole isFraction (.inr isExponent) fun _ none => ?_, ?_⟩
    · obtain ⟨_, _, _, rfl, _⟩ := isExponent
      exact absurd none (List.cons_ne_nil _ _)
    · simp

/-- A zero alone is short. -/
lemma short_zero : Short ([.char '0'] : Text).length := by
  rw [Short, List.length_singleton, Text.maxDigits]
  omega

/-- A number without a sign that has too many digits is an integer, which nothing goes on with. -/
lemma exists_isWholePart_of_unsigned {negative : Bool} {start : Text} {count : Nat}
    (read : unsigned negative start cs = .error (.tooManyDigits count)) :
    ∃ digits rest, cs = digits ++ rest ∧ IsWholePart digits ∧ digits.length = count ∧
      ¬ Short count ∧ ¬ GoesOn rest := by
  rw [unsigned] at read
  split at read
  · exact absurd read (by simp)
  rename_i whole rest whole_eq
  obtain ⟨isWhole, rfl, leads⟩ := isWholePart_of_wholePart? whole_eq
  dsimp only at read
  obtain ⟨fraction_eq, noFraction⟩ | ⟨digits, more, fraction_eq, ⟨ne, _⟩, rfl⟩ := fraction_cases rest
  · rw [fraction_eq] at read
    dsimp only at read
    obtain ⟨exponent_eq, noExponent⟩ | ⟨power, exponent, more, exponent_eq, _⟩ := exponent?_cases rest
    · rw [exponent_eq, if_neg (not_not_intro rfl)] at read
      dsimp only at read
      split at read
      · rename_i long
        obtain ⟨⟩ := read
        refine ⟨whole, rest, rfl, isWhole, rfl, Nat.not_le.2 long, ?_⟩
        rintro (⟨head, isDigit_d⟩ | ⟨isFraction, begins⟩ | ⟨isExponent, begins⟩)
        · -- digits may follow a zero alone, but that is short
          obtain rfl | noDigit := leads
          · exact absurd short_zero (Nat.not_le.2 long)
          · exact absurd isDigit_d (by simp [noDigit _ head])
        · exact noFraction _ isFraction begins
        · exact noExponent _ isExponent begins
      · exact absurd read (by simp)
    · rw [exponent_eq] at read
      exact absurd read (by simp)
  · rw [fraction_eq] at read
    dsimp only at read
    split at read
    · exact absurd read (by simp)
    · rw [if_pos ne] at read
      exact absurd read (by simp)

/-- An integer of too many digits is not read, if nothing goes on with it. -/
lemma unsigned_of_isWholePart {digits : Text} (negative : Bool) (start : Text)
    (isWhole : IsWholePart digits) (long : ¬ Short digits.length) (ends : ¬ GoesOn rest) :
    unsigned negative start (digits ++ rest) = .error (.tooManyDigits digits.length) := by
  have noDigit : ∀ c, rest.head? = some c → isDigit c = false := fun c head =>
    Bool.eq_false_iff.2 fun isDigit_c => ends (.digit head isDigit_c)
  obtain ⟨chars, rfl, written⟩ := isWhole.exists_isWhole
  rw [unsigned, wholePart?_append written noDigit]
  dsimp only
  obtain ⟨fraction_eq, _⟩ | ⟨behind, more, _, areDigits, rfl⟩ := fraction_cases rest
  · obtain ⟨exponent_eq, _⟩ | ⟨_, exponent, more, _, isExponent, rfl⟩ := exponent?_cases rest
    · rw [fraction_eq]
      dsimp only
      rw [exponent_eq, if_neg (not_not_intro rfl), if_pos (Nat.not_le.1 long)]
    · exact absurd (.exponent isExponent (List.prefix_append _ _)) ends
  · exact absurd (.fraction ⟨behind, rfl, areDigits⟩ (List.prefix_append _ _)) ends

end CompileFlags.Json
