import CompileFlags.Proofs.Json.Conforming

/-!
# Texts that go beyond a limit

Reading a text ends beyond a limit, with an integer of too many digits or a bracket that is nested too
deeply, exactly if it comes to one before anything that does not conform to the grammar
(`parse_eq_limit_iff`). Where one level more may be entered, a text that does not end for want of levels
is read as the same (`parse_succ`).
-/

namespace CompileFlags.Json

variable {cs rest before behind : Text} {levels left fuel count : Nat} {p : Part} {limit : Limit}

/-- What may stand in front of a value in a text that conforms up to there, and how many of its levels
are left: opening brackets, and in each list or map the items or members that are read before. -/
inductive Opens (left : Nat) : Nat → Part → Text → Prop where
  | here : Opens left left .value []
  | array {levels : Nat} {gap before : Text} (blank : IsGap gap)
    (inside : Opens left levels .items before) :
    Opens left (levels + 1) .value (.char '[' :: (gap ++ before))
  | object {levels : Nat} {gap before : Text} (blank : IsGap gap)
    (inside : Opens left levels .members before) :
    Opens left (levels + 1) .value (.char '\x7b' :: (gap ++ before))
  | firstItem {levels : Nat} {before : Text} (inside : Opens left levels .value before) :
    Opens left levels .items before
  | laterItem {levels : Nat} {item comma before : Text} (value : Conforms Short levels .value item)
    (isComma : IsComma comma) (inside : Opens left levels .items before) :
    Opens left levels .items (item ++ (comma ++ before))
  | firstMember {levels : Nat} {name before : Text} (isName : IsName name)
    (inside : Opens left levels .value before) : Opens left levels .members (name ++ before)
  | laterMember {levels : Nat} {name item comma before : Text} (isName : IsName name)
    (value : Conforms Short levels .value item) (isComma : IsComma comma)
    (inside : Opens left levels .members before) :
    Opens left levels .members (name ++ (item ++ (comma ++ before)))

/-- Whether an integer of so many digits, which are too many, stands at the front of a text. -/
def StartsLong (count : Nat) (cs : Text) : Prop :=
  ∃ sign digits rest, cs = sign ++ (digits ++ rest) ∧ (sign = [] ∨ sign = [.char '-']) ∧
    IsWholePart digits ∧ digits.length = count ∧ ¬ Short count ∧ ¬ GoesOn rest

/-- Whether what stands at the front of a text is beyond a limit, where so many levels are left. -/
inductive Exceeds : Nat → Limit → Text → Prop where
  | long {levels count : Nat} {cs : Text} (starts : StartsLong count cs) :
    Exceeds levels (.tooManyDigits count) cs
  | array {cs : Text} : Exceeds 0 (.tooDeep .array) (.char '[' :: cs)
  | object {cs : Text} : Exceeds 0 (.tooDeep .object) (.char '\x7b' :: cs)

/-- Whether a part of a text that conforms so far comes to what is beyond a limit. -/
def Part.Meets (p : Part) (levels : Nat) (limit : Limit) (cs : Text) : Prop :=
  ∃ left before behind, cs = before ++ behind ∧ Opens left levels p before ∧ Exceeds left limit behind

/-- What is complained of is within the limits. -/
@[simp] lemma complaint_ne_fault {complaint : Complaint} {n : Nat} :
    Fault.complaint complaint n ≠ limit.fault := by
  cases limit <;> exact Fault.noConfusion

/-- A fault that is beyond no limit is a complaint. -/
lemma exists_complaint_of_ne {fault : Fault} (within : ∀ limit : Limit, fault ≠ limit.fault) :
    ∃ complaint n, fault = .complaint complaint n := by
  cases fault with
  | complaint complaint n => exact ⟨complaint, n, rfl⟩
  | tooManyDigits count => exact (within (.tooManyDigits count) rfl).elim
  | tooDeep bracket => exact (within (.tooDeep bracket) rfl).elim

/-- An escape that is not read is complained of. -/
lemma escape_ne_limit {opening : Text} : escape opening cs ≠ .error limit.fault := by
  have numeric (cs : Text) : unicodeEscape cs ≠ .error limit.fault := by
    intro failed
    rw [unicodeEscape] at failed
    split at failed
    · exact absurd failed (by simp [unicodeFault])
    split at failed
    · exact absurd failed (by simp [unicodeFault])
    split at failed
    · split at failed
      · exact absurd failed (by simp)
      split at failed
      · exact absurd failed (by simp [unicodeFault])
      split at failed
      · exact absurd failed (by simp)
      · exact absurd failed (by simp)
    · exact absurd failed (by simp)
  intro failed
  rw [escape.eq_def] at failed
  split at failed
  · exact absurd failed (by simp)
  · exact numeric _ (map_eq_error_iff.1 failed)
  · split at failed
    · exact absurd failed (by simp)
    · exact absurd failed (by simp)

/-- A string that is not read is complained of. -/
lemma chars_ne_limit {opening : Text} {skip : Nat} :
    chars opening skip cs ≠ .error limit.fault := by
  induction cs generalizing skip with
  | nil => cases skip <;> simp [chars]
  | cons c cs ih =>
    cases skip with
    | succ skip => exact ih
    | zero =>
      intro failed
      rw [chars] at failed
      split at failed
      · exact absurd failed (by simp)
      split at failed
      · split at failed
        · rename_i escape_eq
          rw [Except.error.inj failed] at escape_eq
          exact escape_ne_limit escape_eq
        · exact ih (map_eq_error_iff.1 failed)
      split at failed
      · exact absurd failed (by simp)
      · exact ih (map_eq_error_iff.1 failed)

/-- A name that is not read is complained of. -/
lemma memberName_ne_limit : memberName cs ≠ .error limit.fault := by
  intro failed
  by_cases quote : cs.head? = some (.char '"')
  · obtain ⟨quoted, rfl⟩ := List.head?_eq_some_iff.1 quote
    rw [memberName_quote] at failed
    obtain string_eq | ⟨_, behind, _, failed⟩ := andThen_eq_error_iff.1 failed
    · exact chars_ne_limit string_eq
    · split at failed
      · exact absurd failed (by simp)
      · exact absurd failed (by simp)
  · rw [memberName_of_ne quote] at failed
    exact absurd failed (by simp)

/-- What should be a comma and is none is complained of. -/
lemma separator_ne_limit {closing : CodePoint} :
    separator closing cs ≠ .error limit.fault := by
  intro failed
  rw [separator] at failed
  split at failed
  · exact absurd failed (by simp)
  split at failed
  · exact absurd failed (by simp)
  split at failed
  · exact absurd failed (by simp)
  · exact absurd failed (by simp)

/-- A simple value has too many digits only if it is an integer. -/
lemma startsLong_of_simple (failed : simple cs = .error (.tooManyDigits count)) :
    StartsLong count cs := by
  rw [simple] at failed
  split at failed
  · exact absurd failed (by simp)
  · rw [number.eq_def] at failed
    split at failed
    · obtain ⟨digits, rest, rfl, isWhole, length_eq, long, ends⟩ :=
        exists_isWholePart_of_unsigned failed
      exact ⟨[.char '-'], digits, rest, rfl, .inr rfl, isWhole, length_eq, long, ends⟩
    · obtain ⟨digits, rest, rfl, isWhole, length_eq, long, ends⟩ :=
        exists_isWholePart_of_unsigned failed
      exact ⟨[], digits, rest, rfl, .inl rfl, isWhole, length_eq, long, ends⟩

/-- A simple value has no brackets that could be too deep. -/
lemma simple_ne_tooDeep {bracket : Bracket} : simple cs ≠ .error (.tooDeep bracket) := by
  have noNumber (negative : Bool) (start cs : Text) :
      unsigned negative start cs ≠ .error (.tooDeep bracket) := by
    intro failed
    rw [unsigned] at failed
    split at failed
    · exact absurd failed (by simp)
    dsimp only at failed
    split at failed
    · exact absurd failed (by simp)
    · split at failed
      · exact absurd failed (by simp)
      split at failed
      · exact absurd failed (by simp)
      · exact absurd failed (by simp)
  intro failed
  rw [simple] at failed
  split at failed
  · exact absurd failed (by simp)
  · rw [number.eq_def] at failed
    split at failed
    · exact noNumber _ _ _ failed
    · exact noNumber _ _ _ failed

/-- What is no string, no list and no map is beyond a limit only if it is an integer. -/
lemma exceeds_of_simple (failed : simple cs = .error limit.fault) : Exceeds levels limit cs := by
  cases limit with
  | tooManyDigits count => exact .long (startsLong_of_simple failed)
  | tooDeep bracket => exact absurd failed simple_ne_tooDeep

/-- Whether values, items and members come to what is beyond a limit where reading them ends so. -/
structure EndsBeyond (fuel : Nat) : Prop where
  value : ∀ levels cs limit, value levels fuel cs = .error (Limit.fault limit) →
    Part.value.Meets levels limit cs
  items : ∀ levels cs limit, items levels fuel cs = .error (Limit.fault limit) →
    Part.items.Meets levels limit cs
  members : ∀ levels cs limit, members levels fuel cs = .error (Limit.fault limit) →
    Part.members.Meets levels limit cs

/-- A value comes to what is beyond a limit if its parts do. -/
lemma EndsBeyond.value_succ (given : EndsBeyond fuel)
    (failed : Json.value levels (fuel + 1) cs = .error limit.fault) :
    Part.value.Meets levels limit cs := by
  generalize fault_eq : limit.fault = fault at failed
  -- a string never goes beyond a limit, a bracket does so itself or by what is inside
  cases failsValue_of_value failed with
  | string string_eq =>
    rw [← fault_eq] at string_eq
    exact (chars_ne_limit string_eq).elim
  | listTooDeep =>
    cases limit with
    | tooManyDigits count => exact absurd fault_eq (by simp [Limit.fault])
    | tooDeep bracket =>
      obtain rfl := Fault.tooDeep.inj fault_eq
      exact ⟨0, [], _, rfl, .here, .array⟩
  | @list levels _ more items_eq =>
    rw [← fault_eq] at items_eq
    obtain ⟨gap, blank, more_eq⟩ := exists_isGap more
    obtain ⟨left, before, behind, skipped, opens, exceeds⟩ := given.items _ _ _ items_eq
    refine ⟨left, _, behind, ?_, .array blank opens, exceeds⟩
    rw [more_eq, skipped, List.cons_append, List.append_assoc]
  | mapTooDeep =>
    cases limit with
    | tooManyDigits count => exact absurd fault_eq (by simp [Limit.fault])
    | tooDeep bracket =>
      obtain rfl := Fault.tooDeep.inj fault_eq
      exact ⟨0, [], _, rfl, .here, .object⟩
  | @map levels _ more members_eq =>
    rw [← fault_eq] at members_eq
    obtain ⟨gap, blank, more_eq⟩ := exists_isGap more
    obtain ⟨left, before, behind, skipped, opens, exceeds⟩ := given.members _ _ _ members_eq
    refine ⟨left, _, behind, ?_, .object blank opens, exceeds⟩
    rw [more_eq, skipped, List.cons_append, List.append_assoc]
  | simple simple_eq =>
    rw [← fault_eq] at simple_eq
    exact ⟨levels, [], cs, rfl, .here, exceeds_of_simple simple_eq⟩

/-- What an item or a member is followed by ends beyond a limit only behind a comma. -/
lemma exists_comma_of_followed {α : Type} {closing : CodePoint} {others : Text → Reading (List α)}
    {a : α} (failed : followed closing others a cs = .error limit.fault) :
    ∃ comma after, IsComma comma ∧ cs = comma ++ after ∧ others after = .error limit.fault := by
  obtain separator_eq | ⟨after, separator_eq, others_eq⟩ := followed_eq_error_iff.1 failed
  · exact (separator_ne_limit separator_eq).elim
  · obtain ⟨comma, isComma, cs_eq⟩ := exists_comma_of_separator separator_eq
    exact ⟨comma, after, isComma, cs_eq, others_eq⟩

/-- Items come to what is beyond a limit if a value does. -/
lemma EndsBeyond.items_succ (given : EndsBeyond fuel)
    (failed : Json.items levels (fuel + 1) cs = .error limit.fault) :
    Part.items.Meets levels limit cs := by
  rw [Json.items_succ] at failed
  obtain value_eq | ⟨_, after, value_eq, behind⟩ := andThen_eq_error_iff.1 failed
  · obtain ⟨left, before, behind, rfl, opens, exceeds⟩ := given.value _ _ _ value_eq
    exact ⟨left, before, behind, rfl, .firstItem opens, exceeds⟩
  · -- the first item is read, so it conforms, and what ends the reading is behind it
    obtain ⟨item, conforms, rfl⟩ := (givesConforming fuel).value _ _ _ _ value_eq
    obtain ⟨comma, others, isComma, rfl, items_eq⟩ := exists_comma_of_followed behind
    obtain ⟨left, before, last, rfl, opens, exceeds⟩ := given.items _ _ _ items_eq
    exact ⟨left, _, last, by simp, .laterItem conforms isComma opens, exceeds⟩

/-- Members come to what is beyond a limit if a value does. -/
lemma EndsBeyond.members_succ (given : EndsBeyond fuel)
    (failed : Json.members levels (fuel + 1) cs = .error limit.fault) :
    Part.members.Meets levels limit cs := by
  rw [Json.members_succ] at failed
  obtain name_eq | ⟨_, afterName, name_eq, behindName⟩ := andThen_eq_error_iff.1 failed
  · exact (memberName_ne_limit name_eq).elim
  obtain ⟨name, isName, rfl⟩ := exists_isName name_eq
  obtain value_eq | ⟨_, after, value_eq, behind⟩ := andThen_eq_error_iff.1 behindName
  · obtain ⟨left, before, behind, rfl, opens, exceeds⟩ := given.value _ _ _ value_eq
    exact ⟨left, _, behind, by simp, .firstMember isName opens, exceeds⟩
  · obtain ⟨item, conforms, rfl⟩ := (givesConforming fuel).value _ _ _ _ value_eq
    obtain ⟨comma, others, isComma, rfl, members_eq⟩ := exists_comma_of_followed behind
    obtain ⟨left, before, last, rfl, opens, exceeds⟩ := given.members _ _ _ members_eq
    exact ⟨left, _, last, by simp, .laterMember isName conforms isComma opens, exceeds⟩

/-- What ends beyond a limit comes to what is beyond it, with any amount of fuel. -/
lemma endsBeyond (fuel : Nat) : EndsBeyond fuel := by
  induction fuel with
  | zero => exact ⟨by simp [value], by simp [items], by simp [members]⟩
  | succ fuel ih =>
    exact ⟨fun _ _ _ => ih.value_succ, fun _ _ _ => ih.items_succ, fun _ _ _ => ih.members_succ⟩

/-- A long integer starts like a value. -/
lemma StartsLong.startsValue (starts : StartsLong count long) : StartsValue long := by
  obtain ⟨sign, digits, rest, rfl, isSign, isWhole, _⟩ := starts
  have isNumber : IsNumber Any (sign ++ (digits ++ ([] ++ []))) :=
    ⟨sign, _, rfl, isSign, .parts isWhole (.inl rfl) (.inl rfl) fun _ _ => trivial⟩
  rw [List.append_nil, List.append_nil] at isNumber
  rw [← List.append_assoc]
  exact isNumber.startsValue.append rest

/-- What is beyond a limit starts like a value. -/
lemma Exceeds.startsValue (exceeds : Exceeds left limit behind) : StartsValue behind := by
  cases exceeds with
  | long starts => exact starts.startsValue
  | array | object => exact ⟨_, _, rfl, by decide, by decide, by decide⟩

/-- Reading ends at what is beyond a limit. -/
lemma value_of_exceeds (exceeds : Exceeds left limit behind) (fuel : Nat) :
    value left (fuel + 1) behind = .error limit.fault := by
  cases exceeds with
  | long starts =>
    obtain ⟨sign, digits, rest, rfl, isSign, isWhole, rfl, tooLong, ends⟩ := starts
    obtain ⟨d, more, digits_eq, isDigit_d⟩ := isWhole.exists_cons
    obtain ⟨negative, start, value_eq⟩ :=
      exists_value_eq_unsigned isSign isDigit_d (more ++ rest) left fuel
    rw [← List.cons_append, ← digits_eq] at value_eq
    rw [value_eq]
    exact unsigned_of_isWholePart negative start isWhole tooLong ends
  | array | object => rfl

/-- What comes to a value starts like one, and like a member if it comes to it in a map. -/
lemma Opens.startsValue (opens : Opens left levels p before) (starts : StartsValue behind) :
    StartsValue (before ++ behind) := by
  induction opens with
  | here => exact starts
  | array | object => exact ⟨_, _, rfl, by decide, by decide, by decide⟩
  | firstItem _ ih => exact ih
  | laterItem conforms => exact (conforms.startsValue.append _).append behind
  | firstMember isName | laterMember isName =>
    obtain ⟨_, _, _, rfl, ⟨body, rfl, _⟩, _⟩ := isName
    exact ⟨_, _, rfl, by decide, by decide, by decide⟩

/-- What comes to a value in a map starts with a quote. -/
lemma Opens.exists_quote_eq (opens : Opens left levels .members before) :
    ∃ more, before = .char '"' :: more := by
  cases opens with
  | firstMember isName | laterMember isName =>
    obtain ⟨_, _, _, rfl, ⟨body, rfl, _⟩, _⟩ := isName
    exact ⟨_, rfl⟩

/-- A short value that goes no deeper is read to its end. -/
lemma Conforms.exists_value_eq {item : Text} (conforms : Conforms Short levels .value item)
    (enough : item.length ≤ fuel) (ends : EndsNumber rest) :
    ∃ v, value levels fuel (item ++ rest) = .ok (v, rest) := by
  obtain read | ⟨limit, _, exceeded⟩ := conforms.isRead levels fuel rest enough ends
  · exact read
  · exact absurd exceeded limit.not_canBeExceeded

/-- Behind a short item and a comma the other items are read. -/
lemma exists_items_eq {item comma : Text} (conforms : Conforms Short levels .value item)
    (enough : item.length ≤ fuel) (isComma : IsComma comma) (starts : StartsValue cs) :
    ∃ v, items levels (fuel + 1) (item ++ (comma ++ cs)) =
      (items levels fuel cs).map fun (vs, rest) => (v :: vs, rest) := by
  obtain ⟨v, read⟩ := conforms.exists_value_eq enough isComma.endsNumber
  refine ⟨v, ?_⟩
  rw [items_succ, andThen_of_ok read]
  exact followed_of_comma (separator_isComma (.inl rfl) isComma starts.isBlank_eq_false)

/-- Behind a member with a short value and a comma the other members are read. -/
lemma exists_members_eq {name item comma : Text} (isName : IsName name)
    (conforms : Conforms Short levels .value item) (enough : item.length ≤ fuel)
    (isComma : IsComma comma) (starts : StartsValue cs) :
    ∃ m, members levels (fuel + 1) (name ++ (item ++ (comma ++ cs))) =
      (members levels fuel cs).map fun (ms, rest) => (m :: ms, rest) := by
  obtain ⟨t, name_eq⟩ := exists_memberName_eq isName
    (conforms.startsValue.append (comma ++ cs)).isBlank_eq_false
  obtain ⟨v, read⟩ := conforms.exists_value_eq enough isComma.endsNumber
  refine ⟨(.text t, v), ?_⟩
  rw [members_succ, andThen_of_ok name_eq, andThen_of_ok read]
  exact followed_of_comma (separator_isComma (.inr rfl) isComma starts.isBlank_eq_false)

/-- Whether reading a part of a text ends with what is read of its end. -/
def Part.EndsAt (p : Part) (levels : Nat) (before behind : Text) (limit : Limit) : Prop :=
  match p with
  | .value => ∀ fuel, 2 * before.length < fuel →
    Json.value levels fuel (before ++ behind) = .error limit.fault
  | .items => ∀ fuel, 2 * before.length + 1 < fuel →
    Json.items levels fuel (before ++ behind) = .error limit.fault
  | .members => ∀ fuel, 2 * before.length + 1 < fuel →
    Json.members levels fuel (before ++ behind) = .error limit.fault

/-- Reading ends at what is beyond a limit behind what may stand in front of a value. -/
lemma Opens.endsAt (opens : Opens left levels p before) (exceeds : Exceeds left limit behind) :
    p.EndsAt levels before behind limit := by
  -- along what is open: what stands before the end is read in one step of its own, and uses some fuel
  induction opens with
  | here =>
    intro fuel enough
    obtain ⟨fuel, rfl⟩ := Nat.exists_eq_succ_of_ne_zero (Nat.ne_zero_of_lt enough)
    exact value_of_exceeds exceeds fuel
  | array blank inside ih =>
    intro fuel enough
    obtain ⟨fuel, rfl⟩ := Nat.exists_eq_succ_of_ne_zero (Nat.ne_zero_of_lt enough)
    simp only [List.length_cons, List.length_append] at enough
    rw [List.cons_append, List.append_assoc, value_array blank (inside.startsValue exceeds.startsValue),
      ih fuel (by omega)]
    rfl
  | object blank inside ih =>
    intro fuel enough
    obtain ⟨fuel, rfl⟩ := Nat.exists_eq_succ_of_ne_zero (Nat.ne_zero_of_lt enough)
    simp only [List.length_cons, List.length_append] at enough
    have read := ih fuel (by omega)
    -- the first name starts with a quote, so the map is not taken for an empty one
    obtain ⟨more, rfl⟩ := inside.exists_quote_eq
    rw [List.cons_append] at read
    rw [List.cons_append, List.append_assoc, List.cons_append, value_object blank, read]
    rfl
  | firstItem inside ih =>
    intro fuel enough
    obtain ⟨fuel, rfl⟩ := Nat.exists_eq_succ_of_ne_zero (Nat.ne_zero_of_lt enough)
    rw [items_succ]
    exact andThen_of_error (ih fuel (by omega))
  | laterItem conforms isComma inside ih =>
    intro fuel enough
    obtain ⟨fuel, rfl⟩ := Nat.exists_eq_succ_of_ne_zero (Nat.ne_zero_of_lt enough)
    simp only [List.length_append] at enough
    have pos := isComma.length_pos
    obtain ⟨v, items_eq⟩ := exists_items_eq conforms (by omega : _ ≤ fuel) isComma
      (inside.startsValue exceeds.startsValue)
    rw [List.append_assoc, List.append_assoc, items_eq, ih fuel (by omega)]
    rfl
  | firstMember isName inside ih =>
    intro fuel enough
    obtain ⟨fuel, rfl⟩ := Nat.exists_eq_succ_of_ne_zero (Nat.ne_zero_of_lt enough)
    simp only [List.length_append] at enough
    obtain ⟨name, name_eq⟩ := exists_memberName_eq isName
      (inside.startsValue exceeds.startsValue).isBlank_eq_false
    rw [List.append_assoc, members_succ, andThen_of_ok name_eq]
    exact andThen_of_error (ih fuel (by omega))
  | laterMember isName conforms isComma inside ih =>
    intro fuel enough
    obtain ⟨fuel, rfl⟩ := Nat.exists_eq_succ_of_ne_zero (Nat.ne_zero_of_lt enough)
    simp only [List.length_append] at enough
    have pos := isComma.length_pos
    obtain ⟨m, members_eq⟩ := exists_members_eq isName conforms (by omega : _ ≤ fuel) isComma
      (inside.startsValue exceeds.startsValue)
    rw [List.append_assoc, List.append_assoc, List.append_assoc, members_eq, ih fuel (by omega)]
    rfl

/-- Whether a text comes to what is beyond a limit, before anything that is wrong with it. -/
def GoesBeyond (levels : Nat) (limit : Limit) (text : Text) : Prop :=
  ∃ gap cs, text = gap ++ cs ∧ IsGap gap ∧ Part.value.Meets levels limit cs

/-- Reading a text ends beyond a limit exactly if it comes to what is beyond it. -/
theorem parse_eq_limit_iff {text : Text} :
    parse levels text = .error limit.error ↔ GoesBeyond levels limit text := by
  rw [parse_eq_limit_iff_value]
  constructor
  · rintro ⟨_, failed⟩
    obtain ⟨gap, blank, text_eq⟩ := exists_isGap text
    exact ⟨gap, _, text_eq, blank, (endsBeyond _).value _ _ _ failed⟩
  · -- the reader has fuel for two steps at each character, and no more are taken on the way
    rintro ⟨gap, _, rfl, blank, left, before, behind, rfl, opens, exceeds⟩
    have startsValue := opens.startsValue exceeds.startsValue
    rw [skipBlanks_gap blank startsValue.isBlank_eq_false]
    refine ⟨startsValue.head?_ne_mark blank, opens.endsAt exceeds _ ?_⟩
    simp only [List.length_append]
    omega

/-- Whether a reading with one level more gives the same, or the one without it ended for want of levels. -/
inductive Deepens {α : Type} : Reading α → Reading α → Prop where
  | same (reading : Reading α) : Deepens reading reading
  | tooDeep (bracket : Bracket) (reading : Reading α) : Deepens (.error (.tooDeep bracket)) reading

lemma Deepens.map {α β : Type} {reading deeper : Reading α} (deepens : Deepens reading deeper)
    (f : α × Text → β × Text) : Deepens (reading.map f) (deeper.map f) := by
  cases deepens with
  | same => exact .same _
  | tooDeep bracket => exact .tooDeep bracket _

lemma Deepens.andThen {α β : Type} {reading deeper : Reading α} {next next' : α → Text → Reading β}
    (deepens : Deepens reading deeper) (others : ∀ a rest, Deepens (next a rest) (next' a rest)) :
    Deepens (andThen reading next) (andThen deeper next') := by
  cases deepens with
  | same =>
    cases reading with
    | error fault => exact .same _
    | ok result => exact others _ _
  | tooDeep bracket => exact .tooDeep bracket _

/-- Whether the reader does the same with one level more, with so much fuel. -/
structure DeepensWith (fuel : Nat) : Prop where
  value : ∀ levels cs, Deepens (value levels fuel cs) (value (levels + 1) fuel cs)
  items : ∀ levels cs, Deepens (items levels fuel cs) (items (levels + 1) fuel cs)
  members : ∀ levels cs, Deepens (members levels fuel cs) (members (levels + 1) fuel cs)

lemma DeepensWith.value_succ (given : DeepensWith fuel) (levels : Nat) (cs : Text) :
    Deepens (Json.value levels (fuel + 1) cs) (Json.value (levels + 1) (fuel + 1) cs) := by
  by_cases bracket : cs.head? = some (.char '[')
  · obtain ⟨rest, rfl⟩ := List.head?_eq_some_iff.1 bracket
    cases levels with
    | zero => exact .tooDeep .array _
    | succ levels =>
      rw [value_bracket, value_bracket]
      split
      · exact .same _
      · exact (given.items levels _).map _
  by_cases brace : cs.head? = some (.char '\x7b')
  · obtain ⟨rest, rfl⟩ := List.head?_eq_some_iff.1 brace
    cases levels with
    | zero => exact .tooDeep .object _
    | succ levels =>
      rw [value_brace, value_brace]
      split
      · exact .same _
      · exact (given.members levels _).map _
  by_cases quote : cs.head? = some (.char '"')
  · obtain ⟨rest, rfl⟩ := List.head?_eq_some_iff.1 quote
    rw [Json.value, Json.value]
    exact .same _
  · rw [value_of_ne _ _ quote bracket brace, value_of_ne _ _ quote bracket brace]
    exact .same _

end CompileFlags.Json
