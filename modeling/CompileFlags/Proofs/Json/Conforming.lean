import CompileFlags.Proofs.Json.Quoted

/-!
# Reading by the grammar

What is read conforms to the grammar (`givesConforming`), and what conforms to it is read to its end,
unless an integer has too many digits (`Conforms.isRead`). So a text is read as a list exactly if it is
an array with short integers (`parse_eq_list_iff`), and as a map exactly if it is such an object
(`parse_eq_map_iff`).
-/

namespace CompileFlags.Json

variable {cs rest part gap text : Text} {fits : Nat → Prop} {deep : Prop} {levels more fuel : Nat}
  {closing : CodePoint}

/-- What is no blank stands behind a gap. -/
lemma skipBlanks_gap (blank : IsGap gap) (head : ∀ c, cs.head? = some c → isBlank c = false) :
    skipBlanks (gap ++ cs) = cs := by
  rw [skipBlanks, List.dropWhile_append_of_pos blank]
  exact skipBlanks_of_head head

/-- In front of what follows the blanks is a gap. -/
lemma exists_isGap (cs : Text) : ∃ gap, IsGap gap ∧ cs = gap ++ skipBlanks cs :=
  ⟨cs.takeWhile isBlank, fun _ mem => List.mem_takeWhile_imp mem,
    List.takeWhile_append_dropWhile.symm⟩

/-- A number ends in front of a gap, if it ends in front of what follows. -/
lemma IsGap.endsNumber (blank : IsGap gap) (ends : EndsNumber rest) : EndsNumber (gap ++ rest) := by
  cases gap with
  | nil => exact ends
  | cons c gap =>
    intro d head
    exact endsNumber_of_blank blank d head

/-- Behind the last value is the closing bracket. -/
lemma exists_gap_of_separator (read : separator closing cs = .ok (false, rest)) :
    ∃ gap, IsGap gap ∧ cs = gap ++ closing :: rest := by
  obtain ⟨gap, blank, cs_eq⟩ := exists_isGap cs
  rw [separator_eq_closing_iff.1 read] at cs_eq
  exact ⟨gap, blank, cs_eq⟩

/-- Behind any other value is a comma. -/
lemma exists_comma_of_separator (read : separator closing cs = .ok (true, rest)) :
    ∃ comma, IsComma comma ∧ cs = comma ++ rest := by
  obtain ⟨_, more, skipped, rfl⟩ := separator_eq_comma_iff.1 read
  obtain ⟨gap, blank, cs_eq⟩ := exists_isGap cs
  obtain ⟨gap', blank', more_eq⟩ := exists_isGap more
  refine ⟨gap ++ .char ',' :: gap', ⟨gap, gap', rfl, blank, blank'⟩, ?_⟩
  rw [List.append_assoc, List.cons_append, ← more_eq, ← skipped, ← cs_eq]

/-- The closing bracket is read behind a gap. -/
lemma separator_gap (isClosing : closing = .char ']' ∨ closing = .char '\x7d') (blank : IsGap gap) :
    separator closing (gap ++ closing :: rest) = .ok (false, rest) := by
  have head : ∀ c, (closing :: rest).head? = some c → isBlank c = false := by
    rintro _ ⟨⟩
    obtain rfl | rfl := isClosing <;> rfl
  exact separator_eq_closing_iff.2 (skipBlanks_gap blank head)

/-- A comma is read with the gaps around it. -/
lemma separator_isComma (isClosing : closing = .char ']' ∨ closing = .char '\x7d') {comma : Text}
    (isComma : IsComma comma) (head : ∀ c, rest.head? = some c → isBlank c = false) :
    separator closing (comma ++ rest) = .ok (true, rest) := by
  obtain ⟨before, after, rfl, blank, blank'⟩ := isComma
  have notBlank : ∀ c, (.char ',' :: (after ++ rest) : Text).head? = some c → isBlank c = false := by
    rintro _ ⟨⟩
    rfl
  have ne : closing ≠ ',' := by obtain rfl | rfl := isClosing <;> decide
  rw [List.append_assoc, List.cons_append]
  exact separator_eq_comma_iff.2
    ⟨ne, after ++ rest, skipBlanks_gap blank notBlank, (skipBlanks_gap blank' head).symm⟩

/-- The name of a member that is read is one. -/
lemma exists_isName {name : Text} (read : memberName cs = .ok (name, rest)) :
    ∃ part, IsName part ∧ cs = part ++ rest := by
  obtain ⟨quoted, behind, after, rfl, string_eq, skipped, rfl⟩ := memberName_eq_ok_iff.1 read
  obtain ⟨body, rfl, isQuoted⟩ := exists_isQuoted string_eq
  obtain ⟨before, blank, behind_eq⟩ := exists_isGap behind
  obtain ⟨gap, blank', after_eq⟩ := exists_isGap after
  refine ⟨_, ⟨_, before, gap, rfl, ⟨body, rfl, isQuoted⟩, blank, blank'⟩, ?_⟩
  simp only [List.append_assoc, List.cons_append, List.nil_append]
  rw [← after_eq, ← skipped, ← behind_eq]

/-- The name of a member is read with the colon. -/
lemma exists_memberName_eq (isName : IsName part)
    (head : ∀ c, rest.head? = some c → isBlank c = false) :
    ∃ name, memberName (part ++ rest) = .ok (name, rest) := by
  obtain ⟨_, before, after, rfl, ⟨body, rfl, quoted⟩, blank, blank'⟩ := isName
  obtain ⟨name, reads⟩ := exists_chars_eq quoted
  have notBlank : ∀ c, (.char ':' :: (after ++ rest) : Text).head? = some c → isBlank c = false := by
    rintro _ ⟨⟩
    rfl
  refine ⟨name, ?_⟩
  simp only [List.append_assoc, List.cons_append, List.nil_append]
  exact memberName_eq_ok_iff.2 ⟨_, _, after ++ rest, rfl, reads _ _, skipBlanks_gap blank notBlank,
    (skipBlanks_gap blank' head).symm⟩

/-- A simple value that is read conforms, and is a scalar that can be written. -/
lemma exists_conforms_of_simple (levels : Nat) {v : Value} (read : simple cs = .ok (v, rest)) :
    (∃ s, v = .scalar s ∧ IsWritableScalar s) ∧
      ∃ part, Conforms Short levels .value part ∧ cs = part ++ rest := by
  rw [simple] at read
  split at read
  · rename_i word _ found
    obtain ⟨⟩ := read
    have mem := List.mem_of_find?_eq_some found
    have isPrefix := List.find?_some found
    refine ⟨?_, word, .word mem, (List.prefix_iff_eq_append.1 (List.isPrefixOf_iff_prefix.1 isPrefix)).symm⟩
    simp only [words, List.mem_cons, Prod.mk.injEq, List.not_mem_nil, or_false] at mem
    rcases mem with ⟨-, rfl⟩ | ⟨-, rfl⟩ | ⟨-, rfl⟩ | ⟨-, rfl⟩ | ⟨-, rfl⟩ | ⟨-, rfl⟩ <;>
      exact ⟨_, rfl, trivial⟩
  · rw [number.eq_def] at read
    split at read
    · obtain ⟨isScalar, part, isUnsigned, rfl⟩ := exists_isUnsigned read
      exact ⟨isScalar, _, .number ⟨[.char '-'], part, rfl, .inr rfl, isUnsigned⟩, rfl⟩
    · obtain ⟨isScalar, part, isUnsigned, rfl⟩ := exists_isUnsigned read
      exact ⟨isScalar, _, .number ⟨[], part, rfl, .inl rfl, isUnsigned⟩, rfl⟩

/-- Whether values, items and members that are read with so much fuel conform. -/
structure GivesConforming (fuel : Nat) : Prop where
  value : ∀ levels cs v rest, value levels fuel cs = .ok (v, rest) →
    ∃ part, Conforms Short levels .value part ∧ cs = part ++ rest
  items : ∀ levels cs vs rest, items levels fuel cs = .ok (vs, rest) →
    ∃ part gap, Conforms Short levels .items part ∧ IsGap gap ∧ cs = part ++ (gap ++ .char ']' :: rest)
  members : ∀ levels cs es rest, members levels fuel cs = .ok (es, rest) →
    ∃ part gap, Conforms Short levels .members part ∧ IsGap gap ∧
      cs = part ++ (gap ++ .char '\x7d' :: rest)

/-- A value conforms if its parts do. -/
lemma GivesConforming.value_succ (given : GivesConforming fuel) {v : Value}
    (read : Json.value levels (fuel + 1) cs = .ok (v, rest)) :
    ∃ part, Conforms Short levels .value part ∧ cs = part ++ rest := by
  cases readsValue_of_value read with
  | string string_eq =>
    obtain ⟨body, rfl, quoted⟩ := exists_isQuoted string_eq
    exact ⟨_, .string ⟨body, rfl, quoted⟩, by simp⟩
  | @emptyList levels more skipped =>
    obtain ⟨gap, blank, more_eq⟩ := exists_isGap more
    rw [skipped] at more_eq
    exact ⟨_, .emptyArray blank, by simp [more_eq]⟩
  | @list levels more vs items_eq =>
    obtain ⟨gap, blank, more_eq⟩ := exists_isGap more
    obtain ⟨part, gap', conforms, blank', part_eq⟩ := given.items _ _ _ _ items_eq
    rw [part_eq] at more_eq
    exact ⟨_, .array blank blank' conforms, by simp [more_eq]⟩
  | @emptyMap levels more skipped =>
    obtain ⟨gap, blank, more_eq⟩ := exists_isGap more
    rw [skipped] at more_eq
    exact ⟨_, .emptyObject blank, by simp [more_eq]⟩
  | @map levels more es members_eq =>
    obtain ⟨gap, blank, more_eq⟩ := exists_isGap more
    obtain ⟨part, gap', conforms, blank', part_eq⟩ := given.members _ _ _ _ members_eq
    rw [part_eq] at more_eq
    exact ⟨_, .object blank blank' conforms, by simp [more_eq]⟩
  | simple simple_eq => exact (exists_conforms_of_simple levels simple_eq).2

/-- What an item or a member is followed by is a gap and the closing bracket, or a comma and others. -/
lemma exists_of_followed {α : Type} {others : Text → Reading (List α)} {a : α} {as : List α}
    (read : followed closing others a cs = .ok (as, rest)) :
    (∃ gap, IsGap gap ∧ cs = gap ++ closing :: rest) ∨
      ∃ comma after more, IsComma comma ∧ cs = comma ++ after ∧ others after = .ok (more, rest) := by
  obtain ⟨separator_eq, _⟩ | ⟨after, more, separator_eq, others_eq, _⟩ := followed_eq_ok_iff.1 read
  · exact .inl (exists_gap_of_separator separator_eq)
  · obtain ⟨comma, isComma, cs_eq⟩ := exists_comma_of_separator separator_eq
    exact .inr ⟨comma, after, more, isComma, cs_eq, others_eq⟩

/-- Items conform if each value does. -/
lemma GivesConforming.items_succ (given : GivesConforming fuel) {vs : List Value}
    (read : Json.items levels (fuel + 1) cs = .ok (vs, rest)) :
    ∃ part gap, Conforms Short levels .items part ∧ IsGap gap ∧
      cs = part ++ (gap ++ .char ']' :: rest) := by
  rw [Json.items_succ] at read
  obtain ⟨v, after, value_eq, behind⟩ := andThen_eq_ok_iff.1 read
  obtain ⟨part, conforms, rfl⟩ := given.value _ _ _ _ value_eq
  obtain ⟨gap, blank, rfl⟩ | ⟨comma, after, more, isComma, rfl, items_eq⟩ := exists_of_followed behind
  · exact ⟨part, gap, .lastItem conforms, blank, rfl⟩
  · obtain ⟨others, gap, conforms', blank, rfl⟩ := given.items _ _ _ _ items_eq
    exact ⟨_, gap, .item conforms isComma conforms', blank, by simp⟩

/-- Members conform if each value does. -/
lemma GivesConforming.members_succ (given : GivesConforming fuel) {es : List (Scalar × Value)}
    (read : Json.members levels (fuel + 1) cs = .ok (es, rest)) :
    ∃ part gap, Conforms Short levels .members part ∧ IsGap gap ∧
      cs = part ++ (gap ++ .char '\x7d' :: rest) := by
  rw [Json.members_succ] at read
  obtain ⟨_, afterName, name_eq, behindName⟩ := andThen_eq_ok_iff.1 read
  obtain ⟨name, isName, rfl⟩ := exists_isName name_eq
  obtain ⟨v, after, value_eq, behind⟩ := andThen_eq_ok_iff.1 behindName
  obtain ⟨part, conforms, rfl⟩ := given.value _ _ _ _ value_eq
  obtain ⟨gap, blank, rfl⟩ | ⟨comma, after, more, isComma, rfl, members_eq⟩ := exists_of_followed behind
  · exact ⟨_, gap, .lastMember isName conforms, blank, by simp⟩
  · obtain ⟨others, gap, conforms', blank, rfl⟩ := given.members _ _ _ _ members_eq
    exact ⟨_, gap, .member isName conforms isComma conforms', blank, by simp⟩

/-- Whatever is read conforms, with any amount of fuel. -/
lemma givesConforming (fuel : Nat) : GivesConforming fuel := by
  induction fuel with
  | zero =>
    have nothing {α : Type} {P : Prop} {fault : Fault} {result : α}
        (read : Except.error fault = .ok result) : P := absurd read (by simp)
    exact ⟨fun _ _ _ _ => nothing, fun _ _ _ _ => nothing, fun _ _ _ _ => nothing⟩
  | succ fuel ih =>
    exact ⟨fun _ _ _ _ => ih.value_succ, fun _ _ _ _ => ih.items_succ, fun _ _ _ _ => ih.members_succ⟩

/-- What stands in front of a point starts with a digit. -/
lemma IsWholePart.exists_cons {whole : Text} (isWhole : IsWholePart whole) :
    ∃ d more, whole = .char d :: more ∧ d.isDigit = true := by
  obtain ⟨digits, rfl, written⟩ := isWhole.exists_isWhole
  obtain ⟨d, more, rfl⟩ := written.exists_cons
  exact ⟨d, Text.ofChars more, rfl, written.isDigit d List.mem_cons_self⟩

/-- What starts with a digit or a minus sign in front of one is read as a number. -/
lemma exists_value_eq_unsigned {sign : Text} (isSign : sign = [] ∨ sign = [.char '-']) {d : Char}
    (isDigit_d : d.isDigit = true) (more : Text) (levels fuel : Nat) :
    ∃ negative start, value levels (fuel + 1) (sign ++ .char d :: more) =
      unsigned negative start (.char d :: more) := by
  have ne {c : Char} (other : c.isDigit = false) : d ≠ c := by
    rintro rfl
    exact Bool.false_ne_true (other.symm.trans isDigit_d)
  obtain rfl | rfl := isSign
  · -- a digit opens neither a string, a list nor a map
    have head {c : Char} (other : c.isDigit = false) :
        (.char d :: more : Text).head? ≠ some (.char c) :=
      fun e => ne other (CodePoint.char.inj (Option.some.inj e))
    refine ⟨false, .char d :: more, ?_⟩
    rw [← simple_of_isDigit isDigit_d, List.nil_append]
    exact value_of_ne levels fuel (head (by decide)) (head (by decide)) (head (by decide))
  · refine ⟨true, .char '-' :: .char d :: more, ?_⟩
    rw [← simple_of_minus isDigit_d]
    rfl

/-- A number starts like a value. -/
lemma IsNumber.startsValue (isNumber : IsNumber fits part) : StartsValue part := by
  obtain ⟨sign, _, rfl, isSign, isUnsigned⟩ := isNumber
  cases isUnsigned with
  | parts isWhole =>
    obtain ⟨d, more, rfl, isDigit_d⟩ := isWhole.exists_cons
    have ne {c : Char} (other : c.isDigit = false) : CodePoint.char d ≠ c := by
      rintro ⟨⟩
      exact Bool.false_ne_true (other.symm.trans isDigit_d)
    obtain rfl | rfl := isSign
    · refine ⟨_, _, rfl, ?_, ne (by decide), ne (by decide)⟩
      simp only [isBlank, Bool.or_eq_false_iff, decide_eq_false_iff_not]
      exact ⟨⟨⟨ne (by decide), ne (by decide)⟩, ne (by decide)⟩, ne (by decide)⟩
    · exact ⟨_, _, rfl, by decide, by decide, by decide⟩

/-- A value starts like one, and so does what contains values. -/
lemma Conforms.startsValue {p : Part} (conforms : Conforms fits levels p part) : StartsValue part := by
  induction conforms with
  | word mem =>
    simp only [words, List.mem_cons, Prod.mk.injEq, List.not_mem_nil, or_false] at mem
    rcases mem with ⟨rfl, -⟩ | ⟨rfl, -⟩ | ⟨rfl, -⟩ | ⟨rfl, -⟩ | ⟨rfl, -⟩ | ⟨rfl, -⟩ <;>
      exact ⟨_, _, rfl, by decide, by decide, by decide⟩
  | number isNumber => exact isNumber.startsValue
  | string isString =>
    obtain ⟨body, rfl, _⟩ := isString
    exact ⟨_, _, rfl, by decide, by decide, by decide⟩
  | emptyArray | array | emptyObject | object =>
    exact ⟨_, _, rfl, by decide, by decide, by decide⟩
  | lastItem _ ih => exact ih
  | item _ _ _ ih _ => exact ih.append _
  | lastMember isName | member isName =>
    obtain ⟨_, _, _, rfl, ⟨body, rfl, _⟩, _⟩ := isName
    exact ⟨_, _, rfl, by decide, by decide, by decide⟩

/-- What starts like a value does not start with a blank. -/
lemma StartsValue.isBlank_eq_false (starts : StartsValue cs) :
    ∀ c, cs.head? = some c → isBlank c = false := by
  obtain ⟨c, more, rfl, notBlank, _⟩ := starts
  rintro _ ⟨⟩
  exact notBlank

/-- A list is read by what follows its opening bracket. -/
lemma value_array (blank : IsGap gap) (starts : StartsValue cs) :
    value (levels + 1) (fuel + 1) (.char '[' :: (gap ++ cs)) =
      (items levels fuel cs).map fun (vs, rest) => (.list vs, rest) := by
  have notEmpty : cs.head? ≠ some (.char ']') := by
    obtain ⟨c, more, rfl, _, ne, _⟩ := starts
    exact mt Option.some.inj ne
  rw [value_bracket, skipBlanks_gap blank starts.isBlank_eq_false, if_neg notEmpty]

/-- A map is read by what follows its opening brace. -/
lemma value_object (blank : IsGap gap) :
    value (levels + 1) (fuel + 1) (.char '\x7b' :: (gap ++ .char '"' :: cs)) =
      (members levels fuel (.char '"' :: cs)).map fun (es, rest) =>
        (.map (OrderedMap.putAll es []), rest) := by
  have notBlank : ∀ c, (.char '"' :: cs : Text).head? = some c → isBlank c = false := by
    rintro _ ⟨⟩
    rfl
  rw [value_brace, skipBlanks_gap blank notBlank]
  rfl

/-- Where there is no level left, a bracket is too deep. -/
lemma passes_zero {bracket : Char} (isBracket : bracket = '[' ∨ bracket = '\x7b') (holds : deep) :
    Passes fits deep (value 0 (fuel + 1) (.char bracket :: cs)) rest := by
  obtain rfl | rfl := isBracket
  · exact .inr ⟨.tooDeep .array, rfl, holds⟩
  · exact .inr ⟨.tooDeep .object, rfl, holds⟩

/-- What is made of something that is read comes as far. -/
lemma Passes.map {α β : Type} {reading : Reading α} (passes : Passes fits deep reading rest)
    (f : α → β) : Passes fits deep (reading.map fun (a, rest) => (f a, rest)) rest := by
  obtain ⟨a, rfl⟩ | ⟨limit, rfl, exceeded⟩ := passes
  · exact .inl ⟨f a, rfl⟩
  · exact .inr ⟨limit, rfl, exceeded⟩

/-- Brackets may be too deep where they are too deep inside. -/
lemma Passes.mono {α : Type} {reading : Reading α} {deep' : Prop} (passes : Passes fits deep reading rest)
    (follows : deep → deep') : Passes fits deep' reading rest := by
  obtain read | ⟨limit, failed, exceeded⟩ := passes
  · exact .inl read
  · refine .inr ⟨limit, failed, ?_⟩
    cases limit with
    | tooManyDigits count => exact exceeded
    | tooDeep bracket => exact follows exceeded

/-- Whether a part of a text is read to its end, in front of whatever may follow it. -/
def Part.IsRead (fits : Nat → Prop) (levels : Nat) : Part → Text → Prop
  | .value, part => ∀ more fuel rest, part.length ≤ fuel → EndsNumber rest →
    Passes fits (more < levels) (Json.value more fuel (part ++ rest)) rest
  | .items, part => ∀ more fuel gap rest, part.length < fuel → IsGap gap →
    Passes fits (more < levels) (Json.items more fuel (part ++ (gap ++ .char ']' :: rest))) rest
  | .members, part => ∀ more fuel gap rest, part.length < fuel → IsGap gap →
    Passes fits (more < levels) (Json.members more fuel (part ++ (gap ++ .char '\x7d' :: rest))) rest

/-- No number goes on with a comma or a closing bracket, whatever gap is before it. -/
lemma endsNumber_gap_cons (blank : IsGap gap) {c : Char} (sign : c = ',' ∨ c = ']' ∨ c = '\x7d') :
    EndsNumber (gap ++ .char c :: rest) := by
  refine blank.endsNumber ?_
  obtain rfl | rfl | rfl := sign <;> exact endsNumber_cons (by decide) (by decide)

/-- What follows a value in front of a comma is read to its end. -/
lemma IsComma.endsNumber {comma : Text} (isComma : IsComma comma) : EndsNumber (comma ++ rest) := by
  obtain ⟨before, after, rfl, blank, _⟩ := isComma
  rw [List.append_assoc]
  exact endsNumber_gap_cons blank (.inl rfl)

/-- A comma is not nothing. -/
lemma IsComma.length_pos {comma : Text} (isComma : IsComma comma) : 0 < comma.length := by
  obtain ⟨before, after, rfl, _⟩ := isComma
  rw [List.length_append, List.length_cons]
  omega

/-- A part of a text needs some fuel. -/
lemma StartsValue.exists_fuel_eq (starts : StartsValue part) (enough : part.length ≤ fuel) :
    ∃ fuel', fuel = fuel' + 1 := by
  obtain ⟨c, more, rfl, _⟩ := starts
  exact Nat.exists_eq_succ_of_ne_zero (Nat.ne_zero_of_lt enough)

/-- A word is read to its end. -/
lemma isRead_word {word : Text} {v : Value} (mem : (word, v) ∈ words) :
    Part.value.IsRead fits levels word := by
  intro more fuel rest enough _
  have conforms : Conforms fits levels .value word := .word mem
  obtain ⟨fuel, rfl⟩ := conforms.startsValue.exists_fuel_eq enough
  simp only [words, List.mem_cons, Prod.mk.injEq, List.not_mem_nil, or_false] at mem
  rcases mem with ⟨rfl, -⟩ | ⟨rfl, -⟩ | ⟨rfl, -⟩ | ⟨rfl, -⟩ | ⟨rfl, -⟩ | ⟨rfl, -⟩ <;>
    exact .inl ⟨_, rfl⟩

/-- A number is read to its end. -/
lemma IsNumber.isRead (isNumber : IsNumber fits part) : Part.value.IsRead fits levels part := by
  intro more fuel rest enough ends
  obtain ⟨fuel, rfl⟩ := isNumber.startsValue.exists_fuel_eq enough
  obtain ⟨sign, digits, rfl, isSign, isUnsigned⟩ := isNumber
  obtain ⟨d, others, digits_eq, isDigit_d⟩ : ∃ d others, digits = .char d :: others ∧
      d.isDigit = true := by
    cases isUnsigned with
    | parts isWhole =>
      obtain ⟨d, others, rfl, isDigit_d⟩ := isWhole.exists_cons
      exact ⟨d, _, rfl, isDigit_d⟩
  obtain ⟨negative, start, value_eq⟩ :=
    exists_value_eq_unsigned isSign isDigit_d (others ++ rest) more fuel
  have passes : Passes fits (more < levels) _ _ := passes_unsigned negative start isUnsigned ends
  rw [digits_eq] at passes
  rw [digits_eq, List.append_assoc, List.cons_append, value_eq]
  exact passes

/-- A string is read to its end. -/
lemma IsString.isRead (isString : IsString part) : Part.value.IsRead fits levels part := by
  intro more fuel rest enough _
  have conforms : Conforms fits levels .value part := .string isString
  obtain ⟨fuel, rfl⟩ := conforms.startsValue.exists_fuel_eq enough
  obtain ⟨body, rfl, quoted⟩ := isString
  obtain ⟨t, reads⟩ := exists_chars_eq quoted
  refine .inl ⟨.text t, ?_⟩
  simp only [List.cons_append, List.append_assoc, List.nil_append]
  rw [value]
  exact map_eq_ok_iff.2 ⟨_, reads _ rest, rfl⟩

/-- An empty list or map is read to its closing bracket. -/
lemma skipBlanks_closing (blank : IsGap gap) {c : Char} (isClosing : c = ']' ∨ c = '\x7d') :
    skipBlanks (gap ++ .char c :: rest) = .char c :: rest := by
  refine skipBlanks_gap blank ?_
  rintro _ ⟨⟩
  obtain rfl | rfl := isClosing <;> rfl

/-- An empty list is read to its end. -/
lemma isRead_emptyArray (blank : IsGap gap) :
    Part.value.IsRead fits (levels + 1) (.char '[' :: (gap ++ [.char ']'])) := by
  intro more fuel rest enough _
  have conforms : Conforms fits (levels + 1) .value _ := .emptyArray blank
  obtain ⟨fuel, rfl⟩ := conforms.startsValue.exists_fuel_eq enough
  cases more with
  | zero => exact passes_zero (.inl rfl) levels.succ_pos
  | succ more =>
    refine .inl ⟨.list [], ?_⟩
    simp only [List.cons_append, List.append_assoc, List.nil_append]
    rw [value_bracket, skipBlanks_closing blank (.inl rfl)]
    rfl

/-- An empty map is read to its end. -/
lemma isRead_emptyObject (blank : IsGap gap) :
    Part.value.IsRead fits (levels + 1) (.char '\x7b' :: (gap ++ [.char '\x7d'])) := by
  intro more fuel rest enough _
  have conforms : Conforms fits (levels + 1) .value _ := .emptyObject blank
  obtain ⟨fuel, rfl⟩ := conforms.startsValue.exists_fuel_eq enough
  cases more with
  | zero => exact passes_zero (.inr rfl) levels.succ_pos
  | succ more =>
    refine .inl ⟨.map [], ?_⟩
    simp only [List.cons_append, List.append_assoc, List.nil_append]
    rw [value_brace, skipBlanks_closing blank (.inr rfl)]
    rfl

/-- Two readings come as far as the second does behind the first. -/
lemma Passes.andThen {α β : Type} {reading : Reading α} {next : α → Text → Reading β} {after : Text}
    (passes : Passes fits deep reading after) (others : ∀ a, Passes fits deep (next a after) rest) :
    Passes fits deep (andThen reading next) rest := by
  obtain ⟨a, read⟩ | ⟨limit, failed, exceeded⟩ := passes
  · rw [andThen_of_ok read]
    exact others a
  · exact .inr ⟨limit, andThen_of_error failed, exceeded⟩

/-- The last item is read, and the closing bracket after it. -/
lemma isRead_lastItem {item : Text} (isRead : Part.value.IsRead fits levels item) :
    Part.items.IsRead fits levels item := by
  intro more fuel gap rest enough blank
  obtain ⟨fuel, rfl⟩ := Nat.exists_eq_succ_of_ne_zero (Nat.ne_zero_of_lt enough)
  have ends : EndsNumber (gap ++ .char ']' :: rest) := endsNumber_gap_cons blank (.inr (.inl rfl))
  rw [items_succ]
  exact (isRead more fuel _ (Nat.lt_succ_iff.1 enough) ends).andThen fun v =>
    .inl ⟨[v], followed_of_closing (separator_gap (.inl rfl) blank)⟩

/-- Any other item is read, the comma after it, and the items after that. -/
lemma isRead_item {item comma others : Text} (isRead : Part.value.IsRead fits levels item)
    (isComma : IsComma comma) (starts : StartsValue others)
    (isReadOthers : Part.items.IsRead fits levels others) :
    Part.items.IsRead fits levels (item ++ (comma ++ others)) := by
  intro more fuel gap rest enough blank
  obtain ⟨fuel, rfl⟩ := Nat.exists_eq_succ_of_ne_zero (Nat.ne_zero_of_lt enough)
  simp only [List.length_append] at enough
  simp only [List.append_assoc]
  rw [items_succ]
  refine (isRead more fuel _ (by omega) isComma.endsNumber).andThen fun v => ?_
  rw [followed_of_comma
    (separator_isComma (.inl rfl) isComma (starts.append _).isBlank_eq_false)]
  have pos := isComma.length_pos
  exact (isReadOthers more fuel gap rest (by omega) blank).map (v :: ·)

/-- The last member is read, and the closing brace after it. -/
lemma isRead_lastMember {name item : Text} (isName : IsName name) (starts : StartsValue item)
    (isRead : Part.value.IsRead fits levels item) : Part.members.IsRead fits levels (name ++ item) := by
  intro more fuel gap rest enough blank
  obtain ⟨fuel, rfl⟩ := Nat.exists_eq_succ_of_ne_zero (Nat.ne_zero_of_lt enough)
  have ends : EndsNumber (gap ++ .char '\x7d' :: rest) := endsNumber_gap_cons blank (.inr (.inr rfl))
  obtain ⟨t, name_eq⟩ := exists_memberName_eq isName
    (starts.append (gap ++ .char '\x7d' :: rest)).isBlank_eq_false
  rw [List.length_append] at enough
  rw [List.append_assoc, members_succ, andThen_of_ok name_eq]
  exact (isRead more fuel _ (by omega) ends).andThen fun v =>
    .inl ⟨[(.text t, v)], followed_of_closing (separator_gap (.inr rfl) blank)⟩

/-- Any other member is read, the comma after it, and the members after that. -/
lemma isRead_member {name item comma others : Text} (isName : IsName name)
    (starts : StartsValue item) (isRead : Part.value.IsRead fits levels item) (isComma : IsComma comma)
    (startsOthers : StartsValue others) (isReadOthers : Part.members.IsRead fits levels others) :
    Part.members.IsRead fits levels (name ++ (item ++ (comma ++ others))) := by
  intro more fuel gap rest enough blank
  obtain ⟨fuel, rfl⟩ := Nat.exists_eq_succ_of_ne_zero (Nat.ne_zero_of_lt enough)
  simp only [List.length_append] at enough
  simp only [List.append_assoc]
  obtain ⟨t, name_eq⟩ := exists_memberName_eq isName (starts.append
    (comma ++ (others ++ (gap ++ .char '\x7d' :: rest)))).isBlank_eq_false
  rw [members_succ, andThen_of_ok name_eq]
  refine (isRead more fuel _ (by omega) isComma.endsNumber).andThen fun v => ?_
  rw [followed_of_comma
    (separator_isComma (.inr rfl) isComma (startsOthers.append _).isBlank_eq_false)]
  have pos := isComma.length_pos
  exact (isReadOthers more fuel gap rest (by omega) blank).map ((.text t, v) :: ·)

/-- Members start with a quote. -/
lemma Conforms.exists_quote_eq (conforms : Conforms fits levels .members part) :
    ∃ more, part = .char '"' :: more := by
  cases conforms with
  | lastMember isName | member isName =>
    obtain ⟨_, _, _, rfl, ⟨body, rfl, _⟩, _⟩ := isName
    exact ⟨_, rfl⟩

/-- What conforms is read to its end, unless it goes beyond a limit. -/
lemma Conforms.isRead {p : Part} (conforms : Conforms fits levels p part) : p.IsRead fits levels part := by
  -- along the grammar, one lemma for each rule; only a bracket takes a level away from what is inside
  induction conforms with
  | word mem => exact isRead_word mem
  | number isNumber => exact isNumber.isRead
  | string isString => exact isString.isRead
  | emptyArray blank => exact isRead_emptyArray blank
  | @array levels _ _ _ blank blank' inside ih =>
    intro more fuel rest enough _
    obtain ⟨fuel, rfl⟩ := (Conforms.array blank blank' inside).startsValue.exists_fuel_eq enough
    cases more with
    | zero => exact passes_zero (.inl rfl) levels.succ_pos
    | succ more =>
      simp only [List.length_cons, List.length_append, List.length_nil] at enough
      simp only [List.cons_append, List.append_assoc, List.nil_append]
      rw [value_array blank (inside.startsValue.append _)]
      exact ((ih more fuel _ rest (by omega) blank').map Value.list).mono Nat.succ_lt_succ
  | emptyObject blank => exact isRead_emptyObject blank
  | @object levels _ _ _ blank blank' inside ih =>
    intro more fuel rest enough _
    obtain ⟨fuel, rfl⟩ := (Conforms.object blank blank' inside).startsValue.exists_fuel_eq enough
    cases more with
    | zero => exact passes_zero (.inr rfl) levels.succ_pos
    | succ more =>
      obtain ⟨first, rfl⟩ := inside.exists_quote_eq
      simp only [List.length_cons, List.length_append, List.length_nil] at enough
      simp only [List.cons_append, List.append_assoc, List.nil_append]
      rw [value_object blank]
      have passes := ih more fuel _ rest (by simp only [List.length_cons]; omega) blank'
      exact (passes.map fun es => Value.map (OrderedMap.putAll es [])).mono Nat.succ_lt_succ
  | lastItem _ ih => exact isRead_lastItem ih
  | item _ isComma more ih ihMore => exact isRead_item ih isComma more.startsValue ihMore
  | lastMember isName conforms ih => exact isRead_lastMember isName conforms.startsValue ih
  | member isName conforms isComma more ih ihMore =>
    exact isRead_member isName conforms.startsValue ih isComma more.startsValue ihMore

/-- A value that is read is a list exactly if it starts with a bracket, and a map exactly if it starts
with a brace. -/
lemma kind_of_value {v : Value} (read : value levels fuel cs = .ok (v, rest)) :
    ((∃ vs, v = .list vs) ↔ cs.head? = some (.char '[')) ∧
      ((∃ es, v = .map es) ↔ cs.head? = some (.char '\x7b')) := by
  cases fuel with
  | zero => exact absurd read (by simp [value])
  | succ fuel =>
    cases readsValue_of_value read with
    | string => simp
    | emptyList => simp
    | list => simp
    | emptyMap => simp
    | map => simp
    | simple simple_eq =>
      obtain ⟨⟨s, rfl, _⟩, _⟩ := exists_conforms_of_simple levels simple_eq
      have ne {c : Char} (special : c ∈ nonSimple) := head?_ne_of_simple simple_eq special
      have noBracket := ne (by decide : '[' ∈ nonSimple)
      have noBrace := ne (by decide : '\x7b' ∈ nonSimple)
      simp [noBracket, noBrace]

/-- A text that is read is a document with short integers. -/
lemma exists_isDocument {v : Value} (read : parse levels text = .ok v) :
    ∃ value, IsDocument Short levels value text ∧ ((∃ vs, v = .list vs) ↔ value.head? = some (.char '[')) ∧
      ((∃ es, v = .map es) ↔ value.head? = some (.char '\x7b')) := by
  obtain ⟨_, after, value_eq, skipped⟩ := parse_eq_ok_iff.1 read
  -- the value stands between the gap that was skipped and one to the end of the text
  obtain ⟨part, conforms, part_eq⟩ := (givesConforming _).value _ _ _ _ value_eq
  obtain ⟨before, blank, text_eq⟩ := exists_isGap text
  obtain ⟨behind, blank', after_eq⟩ := exists_isGap after
  rw [skipped, List.append_nil] at after_eq
  subst after_eq
  have kind := kind_of_value value_eq
  rw [part_eq] at text_eq kind
  refine ⟨part, ⟨before, after, text_eq, blank, blank', conforms⟩, ?_⟩
  obtain ⟨c, more, rfl, _⟩ := conforms.startsValue
  exact kind

/-- A text that starts like a value, behind a gap, has no byte order mark. -/
lemma StartsValue.head?_ne_mark (starts : StartsValue cs) (blank : IsGap gap) :
    (gap ++ cs).head? ≠ some (.char '\ufeff') := by
  cases gap with
  | nil =>
    obtain ⟨c, more, rfl, _, _, ne⟩ := starts
    exact mt Option.some.inj ne
  | cons c gap =>
    intro head
    obtain rfl := Option.some.inj head
    exact absurd (blank _ List.mem_cons_self) (by decide)

/-- A document is read, unless it goes beyond a limit. -/
lemma parse_of_isDocument {value : Text} (isDocument : IsDocument fits levels value text) (more : Nat) :
    (∃ v, parse more text = .ok v ∧ ((∃ vs, v = .list vs) ↔ value.head? = some (.char '[')) ∧
      ((∃ es, v = .map es) ↔ value.head? = some (.char '\x7b'))) ∨
    ∃ limit : Limit, parse more text = .error limit.error ∧ limit.CanBeExceeded fits (more < levels) := by
  obtain ⟨before, after, rfl, blank, blank', conforms⟩ := isDocument
  have starts := conforms.startsValue
  have noMark := (starts.append after).head?_ne_mark blank
  have skipped := skipBlanks_gap blank (starts.append after).isBlank_eq_false
  have nothing : skipBlanks after = [] := List.dropWhile_eq_nil_iff.2 blank'
  have passes := conforms.isRead more (2 * (before ++ (value ++ after)).length + 2) after
    (by simp only [List.length_append]; omega) (endsNumber_of_blank blank')
  obtain ⟨v, read⟩ | ⟨limit, failed, exceeded⟩ := passes
  · refine .inl ⟨v, ?_, ?_⟩
    · rw [parse_eq_ok_iff, skipped]
      exact ⟨noMark, after, read, nothing⟩
    · have kind := kind_of_value read
      obtain ⟨c, more, rfl, _⟩ := starts
      exact kind
  · refine .inr ⟨limit, ?_, exceeded⟩
    rw [parse_eq_limit_iff_value, skipped]
    exact ⟨noMark, failed⟩

/-- A text is read as a list exactly if it is an array with short integers that goes no deeper. -/
theorem parse_eq_list_iff : (∃ vs, parse levels text = .ok (.list vs)) ↔
    ∃ value, IsDocument Short levels value text ∧ value.head? = some (.char '[') := by
  constructor
  · rintro ⟨vs, read⟩
    obtain ⟨value, isDocument, isList, _⟩ := exists_isDocument read
    exact ⟨value, isDocument, isList.1 ⟨vs, rfl⟩⟩
  · rintro ⟨value, isDocument, head⟩
    obtain ⟨v, read, isList, _⟩ | ⟨limit, _, exceeded⟩ := parse_of_isDocument isDocument levels
    · obtain ⟨vs, rfl⟩ := isList.2 head
      exact ⟨vs, read⟩
    · exact absurd exceeded limit.not_canBeExceeded

/-- A text is read as a map exactly if it is an object with short integers that goes no deeper. -/
theorem parse_eq_map_iff : (∃ es, parse levels text = .ok (.map es)) ↔
    ∃ value, IsDocument Short levels value text ∧ value.head? = some (.char '\x7b') := by
  constructor
  · rintro ⟨vs, read⟩
    obtain ⟨value, isDocument, _, isMap⟩ := exists_isDocument read
    exact ⟨value, isDocument, isMap.1 ⟨vs, rfl⟩⟩
  · rintro ⟨value, isDocument, head⟩
    obtain ⟨v, read, _, isMap⟩ | ⟨limit, _, exceeded⟩ := parse_of_isDocument isDocument levels
    · obtain ⟨vs, rfl⟩ := isMap.2 head
      exact ⟨vs, read⟩
    · exact absurd exceeded limit.not_canBeExceeded

/-- A text of the grammar is one whatever else the digits of its integers may be. -/
lemma Conforms.mono {fits' : Nat → Prop} {p : Part} (conforms : Conforms fits levels p part)
    (follows : ∀ count, fits count → fits' count) : Conforms fits' levels p part := by
  induction conforms with
  | word mem => exact .word mem
  | number isNumber =>
    obtain ⟨sign, _, rfl, isSign, isWhole, isFraction, isExponent, fits_length⟩ := isNumber
    exact .number ⟨sign, _, rfl, isSign, .parts isWhole isFraction isExponent fun none none' =>
      follows _ (fits_length none none')⟩
  | string isString => exact .string isString
  | emptyArray blank => exact .emptyArray blank
  | array blank blank' _ ih => exact .array blank blank' ih
  | emptyObject blank => exact .emptyObject blank
  | object blank blank' _ ih => exact .object blank blank' ih
  | lastItem _ ih => exact .lastItem ih
  | item _ isComma _ ih ih' => exact .item ih isComma ih'
  | lastMember isName _ ih => exact .lastMember isName ih
  | member isName _ isComma _ ih ih' => exact .member isName ih isComma ih'

/-- A document with short integers is a document. -/
lemma IsDocument.any {value : Text} (isDocument : IsDocument Short levels value text) :
    IsDocument Any levels value text := by
  obtain ⟨before, after, text_eq, blank, blank', conforms⟩ := isDocument
  exact ⟨before, after, text_eq, blank, blank', conforms.mono fun _ _ => trivial⟩

/-- What is read as a list is an array. -/
lemma isArray_of_parse {vs : List Value} (read : parse levels text = .ok (.list vs)) :
    IsArray Any text := by
  obtain ⟨value, isDocument, head⟩ := parse_eq_list_iff.1 ⟨vs, read⟩
  exact ⟨levels, value, isDocument.any, head⟩

/-- What is read as a map is an object. -/
lemma isObject_of_parse {es : List (Scalar × Value)} (read : parse levels text = .ok (.map es)) :
    IsObject Any text := by
  obtain ⟨value, isDocument, head⟩ := parse_eq_map_iff.1 ⟨es, read⟩
  exact ⟨levels, value, isDocument.any, head⟩

/-- An array is read as a list, unless it goes beyond a limit. -/
lemma parse_of_isArray (isArray : IsArray Any text) (levels : Nat) :
    (∃ vs, parse levels text = .ok (.list vs)) ∨
      ∃ limit : Limit, parse levels text = .error limit.error := by
  obtain ⟨_, value, isDocument, head⟩ := isArray
  obtain ⟨v, read, isList, _⟩ | ⟨limit, failed, _⟩ := parse_of_isDocument isDocument levels
  · obtain ⟨vs, rfl⟩ := isList.2 head
    exact .inl ⟨vs, read⟩
  · exact .inr ⟨limit, failed⟩

/-- An object is read as a map, unless it goes beyond a limit. -/
lemma parse_of_isObject (isObject : IsObject Any text) (levels : Nat) :
    (∃ es, parse levels text = .ok (.map es)) ∨
      ∃ limit : Limit, parse levels text = .error limit.error := by
  obtain ⟨_, value, isDocument, head⟩ := isObject
  obtain ⟨v, read, _, isMap⟩ | ⟨limit, failed, _⟩ := parse_of_isDocument isDocument levels
  · obtain ⟨es, rfl⟩ := isMap.2 head
    exact .inl ⟨es, read⟩
  · exact .inr ⟨limit, failed⟩

end CompileFlags.Json
