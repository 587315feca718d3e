import CompileFlags.Proofs.Json.Limits
import CompileFlags.Proofs.Newline
import Mathlib.Data.List.Find

/-!
# Line endings in JSON

Line endings stand between the tokens of a JSON text, where each is a blank, or within a token, where
each is a fault: no string, number or word that is read holds one. So a text is read as the same with
each line ending turned into a line feed (`parsesAlike_unifyNewlines`); only a fault may stand
elsewhere. The proof follows the reader: each of its functions gives the same on both texts and leaves
the same of them (`Agrees`). As the unified text may be shorter, its reader has less fuel, but enough.
-/

namespace CompileFlags.Json

variable {cs rest body : Text} {levels fuel : Nat}

/-- Whether a reading of a text and one of its unified form come to the same: to the same result, with
the same left of each text, beyond the same limit, or each to something that is wrong. -/
inductive Agrees {α : Type} : Reading α → Reading α → Prop where
  | read (a : α) (rest : Text) : Agrees (.ok (a, rest)) (.ok (a, Text.unifyNewlines rest))
  | beyond (limit : Limit) : Agrees (.error limit.fault) (.error limit.fault)
  | wrong (complaint complaint' : Complaint) (left left' : Nat) :
    Agrees (.error (.complaint complaint left)) (.error (.complaint complaint' left'))

lemma Agrees.map {α β : Type} {reading reading' : Reading α} (agrees : Agrees reading reading')
    (f : α → β) :
    Agrees (reading.map fun (a, rest) => (f a, rest)) (reading'.map fun (a, rest) => (f a, rest)) := by
  cases agrees with
  | read a rest => exact .read (f a) rest
  | beyond limit => exact .beyond limit
  | wrong complaint complaint' left left' => exact .wrong complaint complaint' left left'

/-- Two readings after each other agree, if the second does wherever the first succeeds. -/
lemma Agrees.andThen {α β : Type} {reading reading' : Reading α} {next next' : α → Text → Reading β}
    (agrees : Agrees reading reading')
    (others : ∀ a rest, reading = .ok (a, rest) → reading' = .ok (a, Text.unifyNewlines rest) →
      Agrees (next a rest) (next' a (Text.unifyNewlines rest))) :
    Agrees (andThen reading next) (andThen reading' next') := by
  cases agrees with
  | read a rest => exact others a rest rfl rfl
  | beyond limit => exact .beyond limit
  | wrong complaint complaint' left left' => exact .wrong complaint complaint' left left'

lemma skipBlanks_unifyNewlines (cs : Text) :
    skipBlanks (Text.unifyNewlines cs) = Text.unifyNewlines (skipBlanks cs) :=
  Text.dropWhile_unifyNewlines rfl cs

lemma takeDigits_unifyNewlines (cs : Text) :
    (Text.unifyNewlines cs).takeWhile isDigit = cs.takeWhile isDigit :=
  Text.takeWhile_unifyNewlines rfl rfl cs

lemma dropDigits_unifyNewlines (cs : Text) :
    (Text.unifyNewlines cs).dropWhile isDigit = Text.unifyNewlines (cs.dropWhile isDigit) :=
  Text.dropWhile_unifyNewlines rfl cs

lemma wholePart?_unifyNewlines (cs : Text) :
    wholePart? (Text.unifyNewlines cs) =
      (wholePart? cs).map fun (whole, rest) => (whole, Text.unifyNewlines rest) := by
  have begins := Text.begins_unifyNewlines cs
  have taken := takeDigits_unifyNewlines cs
  have dropped := dropDigits_unifyNewlines cs
  generalize Text.unifyNewlines cs = unified at begins taken dropped
  cases begins with
  | nil => rfl
  | ending isEnding => obtain rfl | rfl := isEnding <;> rfl
  | other =>
    rw [wholePart?, wholePart?, taken, dropped]
    split
    · rfl
    split
    · rfl
    · rfl

lemma fraction_unifyNewlines (cs : Text) :
    fraction (Text.unifyNewlines cs) = ((fraction cs).1, Text.unifyNewlines (fraction cs).2) := by
  by_cases point : cs.head? = some (.char '.')
  · obtain ⟨rest, rfl⟩ := List.head?_eq_some_iff.1 point
    rw [Text.unifyNewlines_cons (by decide), fraction, fraction, takeDigits_unifyNewlines,
      dropDigits_unifyNewlines]
    cases rest.takeWhile isDigit with
    | nil => exact Prod.ext rfl (Text.unifyNewlines_cons (by decide) rest).symm
    | cons d digits => rfl
  · have point' := mt (Text.head?_unifyNewlines_iff (by decide) (by decide)).1 point
    rw [fraction_of_ne fun c head e => point (e ▸ head),
      fraction_of_ne fun c head e => point' (e ▸ head)]

/-- An exponent is told by whether a minus follows its mark, and by the digits after the sign. -/
lemma afterSign_unifyNewlines (cs : Text) :
    afterSign (Text.unifyNewlines cs) = Text.unifyNewlines (afterSign cs) := by
  have no_sign {cs : Text} (minus : cs.head? ≠ some (.char '-')) (plus : cs.head? ≠ some (.char '+')) :
      afterSign cs = cs := by
    rw [afterSign.eq_def]
    split
    · exact absurd rfl minus
    · exact absurd rfl plus
    · rfl
  by_cases minus : cs.head? = some (.char '-')
  · obtain ⟨rest, rfl⟩ := List.head?_eq_some_iff.1 minus
    rw [Text.unifyNewlines_cons (by decide), afterSign, afterSign]
  by_cases plus : cs.head? = some (.char '+')
  · obtain ⟨rest, rfl⟩ := List.head?_eq_some_iff.1 plus
    rw [Text.unifyNewlines_cons (by decide), afterSign, afterSign]
  have minus' := mt (Text.head?_unifyNewlines_iff (by decide) (by decide)).1 minus
  have plus' := mt (Text.head?_unifyNewlines_iff (by decide) (by decide)).1 plus
  rw [no_sign minus plus, no_sign minus' plus']

lemma exponent?_unifyNewlines (cs : Text) :
    exponent? (Text.unifyNewlines cs) =
      (exponent? cs).map fun (exponent, rest) => (exponent, Text.unifyNewlines rest) := by
  by_cases marked : ∃ mark rest, cs = mark :: rest ∧ (mark = .char 'e' ∨ mark = .char 'E')
  · obtain ⟨mark, rest, rfl, isMark⟩ := marked
    have minus : (Text.unifyNewlines rest).head? = some (.char '-') ↔ rest.head? = some (.char '-') :=
      Text.head?_unifyNewlines_iff (by decide) (by decide)
    rw [Text.unifyNewlines_cons (by obtain rfl | rfl := isMark <;> decide), exponent?_cons isMark,
      exponent?_cons isMark, afterSign_unifyNewlines, takeDigits_unifyNewlines,
      dropDigits_unifyNewlines]
    simp only [minus]
    split
    · rfl
    · rfl
  · have none : ∀ c, cs.head? = some c → c ≠ 'e' ∧ c ≠ 'E' := by
      intro c head
      obtain ⟨rest, rfl⟩ := List.head?_eq_some_iff.1 head
      exact not_or.1 fun isMark => marked ⟨c, rest, rfl, isMark⟩
    have none' : ∀ c, (Text.unifyNewlines cs).head? = some c → c ≠ 'e' ∧ c ≠ 'E' := by
      rintro c head
      constructor
      · rintro rfl
        exact (none _ ((Text.head?_unifyNewlines_iff (by decide) (by decide)).1 head)).1 rfl
      · rintro rfl
        exact (none _ ((Text.head?_unifyNewlines_iff (by decide) (by decide)).1 head)).2 rfl
    rw [exponent?_of_ne none, exponent?_of_ne none', Option.map_none]

lemma agrees_unsigned (negative : Bool) (start start' cs : Text) :
    Agrees (unsigned negative start cs) (unsigned negative start' (Text.unifyNewlines cs)) := by
  rw [unsigned, unsigned, wholePart?_unifyNewlines]
  cases wholePart? cs with
  | none => exact .wrong _ _ _ _
  | some found =>
    obtain ⟨whole, rest⟩ := found
    dsimp only [Option.map_some]
    rw [fraction_unifyNewlines]
    dsimp only
    rw [exponent?_unifyNewlines]
    cases exponent? (fraction rest).2 with
    | some found => exact .read _ _
    | none =>
      dsimp only [Option.map_none]
      split
      · exact .read _ _
      split
      · exact .beyond (.tooManyDigits _)
      · exact .read _ _

lemma number_of_ne (minus : cs.head? ≠ some (.char '-')) : number cs = unsigned false cs cs := by
  rw [number.eq_def]
  split
  · exact absurd rfl minus
  · rfl

lemma agrees_number (cs : Text) : Agrees (number cs) (number (Text.unifyNewlines cs)) := by
  by_cases minus : cs.head? = some (.char '-')
  · obtain ⟨rest, rfl⟩ := List.head?_eq_some_iff.1 minus
    rw [Text.unifyNewlines_cons (by decide)]
    exact agrees_unsigned true _ _ rest
  · have minus' := mt (Text.head?_unifyNewlines_iff (by decide) (by decide)).1 minus
    rw [number_of_ne minus, number_of_ne minus']
    exact agrees_unsigned false cs _ cs

lemma agrees_simple (cs : Text) : Agrees (simple cs) (simple (Text.unifyNewlines cs)) := by
  have plain : ∀ word ∈ words, CodePoint.char '\r' ∉ word.1 ∧ CodePoint.char '\n' ∉ word.1 := by
    decide
  have same : words.find? (·.1.isPrefixOf (Text.unifyNewlines cs)) =
      words.find? (·.1.isPrefixOf cs) := List.find?_congr fun word mem =>
    Text.isPrefixOf_unifyNewlines (plain word mem).1 (plain word mem).2
  rw [simple, simple, same]
  split
  · rename_i word v found
    have begins := List.find?_some found
    obtain ⟨rest, rfl⟩ := List.isPrefixOf_iff_prefix.1 begins
    obtain ⟨noReturn, _⟩ := plain _ (List.mem_of_find?_eq_some found)
    rw [Text.unifyNewlines_append noReturn, List.drop_left, List.drop_left]
    exact .read v rest
  · exact agrees_number cs

/-- No character that is read in no form stands between quotes. -/
lemma IsQuoted.not_mem {c : CodePoint} (control : c.number < 0x20) (noShort : shortEscape? c = none)
    (noHex : hexDigit? c = none) (quoted : IsQuoted body) : c ∉ body := by
  have ne_backslash : c ≠ '\\' := by
    rintro rfl
    exact absurd control (by decide)
  induction quoted with
  | nil => exact List.not_mem_nil
  | plain _ le _ ih =>
    rintro (_ | ⟨_, mem⟩)
    · exact absurd control (Nat.not_lt.2 le)
    · exact ih mem
  | short known _ ih =>
    rintro (_ | ⟨_, _ | ⟨_, mem⟩⟩)
    · exact ne_backslash rfl
    · exact absurd known (by simp [noShort])
    · exact ih mem
  | unicode _ hex _ ih =>
    rintro (_ | ⟨_, _ | ⟨_, mem⟩⟩)
    · exact ne_backslash rfl
    · exact absurd control (by decide)
    · cases List.mem_append.1 mem with
      | inl mem => exact absurd (hex c mem) (by simp [noHex])
      | inr mem => exact ih mem

lemma agrees_string (cs : Text) : Agrees (string cs) (string (Text.unifyNewlines cs)) := by
  -- what stands between quotes holds no line ending, so it is the same in both texts
  have noReturn {body : Text} (quoted : IsQuoted body) : CodePoint.char '\r' ∉ body :=
    quoted.not_mem (by decide) rfl rfl
  have noFeed {body : Text} (quoted : IsQuoted body) : CodePoint.char '\n' ∉ body :=
    quoted.not_mem (by decide) rfl rfl
  cases read : string cs with
  | ok result =>
    obtain ⟨t, rest⟩ := result
    obtain ⟨body, rfl, quoted⟩ := exists_isQuoted read
    obtain ⟨t', reads⟩ := exists_chars_eq quoted
    obtain ⟨rfl, _⟩ := Prod.mk.inj (Except.ok.inj (read.symm.trans (reads _ _)))
    have unified : string (Text.unifyNewlines (body ++ .char '"' :: rest)) =
        .ok (t, Text.unifyNewlines rest) := by
      rw [Text.unifyNewlines_append (noReturn quoted), Text.unifyNewlines_cons (by decide)]
      exact reads _ _
    rw [unified]
    exact .read t rest
  | error fault =>
    cases read' : string (Text.unifyNewlines cs) with
    | ok result =>
      -- what is read in the unified text stands in the other one, too
      obtain ⟨t, rest⟩ := result
      obtain ⟨body, unified, quoted⟩ := exists_isQuoted read'
      obtain ⟨more, rfl, more_eq⟩ := Text.exists_append_of_unifyNewlines (noFeed quoted) unified
      obtain ⟨others, rfl, _⟩ := Text.exists_cons_of_unifyNewlines (by decide) more_eq
      obtain ⟨t', reads⟩ := exists_chars_eq quoted
      exact absurd (read.symm.trans (reads _ _)) (by simp)
    | error fault' =>
      obtain ⟨complaint, left, rfl⟩ := exists_complaint_of_ne fun limit fault_eq =>
        chars_ne_limit (read.trans (congrArg Except.error fault_eq))
      obtain ⟨complaint', left', rfl⟩ := exists_complaint_of_ne fun limit fault_eq =>
        chars_ne_limit (read'.trans (congrArg Except.error fault_eq))
      exact .wrong complaint complaint' left left'

lemma agrees_memberName (cs : Text) :
    Agrees (memberName cs) (memberName (Text.unifyNewlines cs)) := by
  by_cases quote : cs.head? = some (.char '"')
  · obtain ⟨rest, rfl⟩ := List.head?_eq_some_iff.1 quote
    rw [Text.unifyNewlines_cons (by decide), memberName_quote, memberName_quote]
    apply (agrees_string rest).andThen
    intro name rest _ _
    rw [skipBlanks_unifyNewlines]
    by_cases colon : (skipBlanks rest).head? = some (.char ':')
    · obtain ⟨more, skipped⟩ := List.head?_eq_some_iff.1 colon
      rw [skipped, Text.unifyNewlines_cons (by decide), if_pos List.head?_cons,
        if_pos List.head?_cons, List.tail_cons, List.tail_cons, skipBlanks_unifyNewlines]
      exact .read name _
    · have colon' := mt (Text.head?_unifyNewlines_iff (by decide) (by decide)).1 colon
      rw [if_neg colon, if_neg colon']
      exact .wrong _ _ _ _
  · have quote' := mt (Text.head?_unifyNewlines_iff (by decide) (by decide)).1 quote
    rw [memberName_of_ne quote, memberName_of_ne quote']
    exact .wrong _ _ _ _

lemma agrees_separator {closing : CodePoint} (isClosing : closing = ']' ∨ closing = '\x7d')
    (cs : Text) : Agrees (separator closing cs) (separator closing (Text.unifyNewlines cs)) := by
  rw [separator, separator, skipBlanks_unifyNewlines]
  have begins := Text.begins_unifyNewlines (skipBlanks cs)
  generalize skipBlanks cs = ds, Text.unifyNewlines (skipBlanks cs) = unified at begins
  cases begins with
  | nil => exact .wrong _ _ _ _
  | ending isEnding =>
    obtain rfl | rfl := isEnding <;> obtain rfl | rfl := isClosing <;> exact .wrong _ _ _ _
  | other =>
    dsimp only
    split
    · exact .read false _
    split
    · rw [skipBlanks_unifyNewlines]
      exact .read true _
    · exact .wrong _ _ _ _

/-- A closing bracket right after the opening one closes both, or neither. -/
lemma agrees_closing {α : Type} {c : CodePoint} (noReturn : c ≠ '\r') (noFeed : c ≠ '\n') (a : α)
    {others others' : Reading α} (agrees : Agrees others others') :
    Agrees (if cs.head? = some c then .ok (a, cs.tail) else others)
      (if (Text.unifyNewlines cs).head? = some c then .ok (a, (Text.unifyNewlines cs).tail)
        else others') := by
  simp only [Text.head?_unifyNewlines_iff noReturn noFeed]
  split
  · rename_i head
    obtain ⟨rest, rfl⟩ := List.head?_eq_some_iff.1 head
    rw [Text.unifyNewlines_cons noReturn]
    exact .read a rest
  · exact agrees

lemma length_le_of_value {v : Value} (read : value levels fuel cs = .ok (v, rest)) :
    rest.length ≤ cs.length := by
  obtain ⟨part, _, rfl⟩ := (givesConforming fuel).value _ _ _ _ read
  rw [List.length_append]
  omega

lemma length_lt_of_separator {closing : CodePoint} {goesOn : Bool}
    (read : separator closing cs = .ok (goesOn, rest)) : rest.length < cs.length := by
  cases goesOn with
  | false =>
    obtain ⟨gap, _, rfl⟩ := exists_gap_of_separator read
    rw [List.length_append, List.length_cons]
    omega
  | true =>
    obtain ⟨comma, isComma, rfl⟩ := exists_comma_of_separator read
    have pos := isComma.length_pos
    rw [List.length_append]
    omega

lemma length_le_of_memberName {name : Text} (read : memberName cs = .ok (name, rest)) :
    rest.length ≤ cs.length := by
  obtain ⟨part, _, rfl⟩ := exists_isName read
  rw [List.length_append]
  omega

lemma length_skipBlanks_le (cs : Text) : (skipBlanks cs).length ≤ cs.length :=
  (List.dropWhile_suffix _).length_le

/-- What is behind an item or a member agrees, if the others do. -/
lemma agrees_followed {α : Type} {closing : CodePoint} (isClosing : closing = ']' ∨ closing = '\x7d')
    (a : α) {others others' : Text → Reading (List α)}
    (agrees : ∀ rest, rest.length < cs.length →
      (Text.unifyNewlines rest).length < (Text.unifyNewlines cs).length →
        Agrees (others rest) (others' (Text.unifyNewlines rest))) :
    Agrees (followed closing others a cs) (followed closing others' a (Text.unifyNewlines cs)) := by
  apply (agrees_separator isClosing cs).andThen
  intro goesOn rest read read'
  cases goesOn with
  | false => exact .read [a] rest
  | true =>
    have shorter := agrees rest (length_lt_of_separator read) (length_lt_of_separator read')
    exact shorter.map fun as => a :: as

/-- Whether values, items and members agree if there is so much fuel: enough for two steps at each
character, as there is for the unified text, too. -/
structure AgreesWith (fuel : Nat) : Prop where
  value : ∀ levels cs fuel', 2 * cs.length < fuel → 2 * (Text.unifyNewlines cs).length < fuel' →
    Agrees (value levels fuel cs) (value levels fuel' (Text.unifyNewlines cs))
  items : ∀ levels cs fuel', 2 * cs.length + 1 < fuel →
    2 * (Text.unifyNewlines cs).length + 1 < fuel' →
    Agrees (items levels fuel cs) (items levels fuel' (Text.unifyNewlines cs))
  members : ∀ levels cs fuel', 2 * cs.length + 1 < fuel →
    2 * (Text.unifyNewlines cs).length + 1 < fuel' →
    Agrees (members levels fuel cs) (members levels fuel' (Text.unifyNewlines cs))

lemma AgreesWith.value_succ (given : AgreesWith fuel) {fuel' : Nat}
    (enough : 2 * cs.length < fuel + 1) (enough' : 2 * (Text.unifyNewlines cs).length < fuel' + 1) :
    Agrees (Json.value levels (fuel + 1) cs)
      (Json.value levels (fuel' + 1) (Text.unifyNewlines cs)) := by
  have head (c : Char) (noReturn : c ≠ '\r') (noFeed : c ≠ '\n') :
      (Text.unifyNewlines cs).head? = some (.char c) ↔ cs.head? = some (.char c) :=
    Text.head?_unifyNewlines_iff (by simpa using noReturn) (by simpa using noFeed)
  -- behind an opening bracket there is fuel left for what it holds
  have inside {c : CodePoint} {rest : Text} (noReturn : c ≠ '\r') (cs_eq : cs = c :: rest) :
      2 * (skipBlanks rest).length + 1 < fuel ∧
        2 * (Text.unifyNewlines (skipBlanks rest)).length + 1 < fuel' := by
    have le := length_skipBlanks_le rest
    have le' := length_skipBlanks_le (Text.unifyNewlines rest)
    rw [cs_eq, List.length_cons] at enough
    rw [cs_eq, Text.unifyNewlines_cons noReturn, List.length_cons] at enough'
    rw [skipBlanks_unifyNewlines] at le'
    omega
  by_cases quote : cs.head? = some (.char '"')
  · obtain ⟨rest, rfl⟩ := List.head?_eq_some_iff.1 quote
    rw [Text.unifyNewlines_cons (by decide), Json.value, Json.value]
    exact (agrees_string rest).map Value.text
  by_cases bracket : cs.head? = some (.char '[')
  · obtain ⟨rest, rfl⟩ := List.head?_eq_some_iff.1 bracket
    obtain ⟨lt, lt'⟩ := inside (by decide) rfl
    rw [Text.unifyNewlines_cons (by decide)]
    cases levels with
    | zero => exact .beyond (.tooDeep .array)
    | succ levels =>
      rw [value_bracket, value_bracket, skipBlanks_unifyNewlines]
      apply agrees_closing (by decide) (by decide)
      exact (given.items levels _ fuel' lt lt').map Value.list
  by_cases brace : cs.head? = some (.char '\x7b')
  · obtain ⟨rest, rfl⟩ := List.head?_eq_some_iff.1 brace
    obtain ⟨lt, lt'⟩ := inside (by decide) rfl
    rw [Text.unifyNewlines_cons (by decide)]
    cases levels with
    | zero => exact .beyond (.tooDeep .object)
    | succ levels =>
      rw [value_brace, value_brace, skipBlanks_unifyNewlines]
      apply agrees_closing (by decide) (by decide)
      exact (given.members levels _ fuel' lt lt').map fun es => Value.map (OrderedMap.putAll es [])
  rw [value_of_ne levels fuel quote bracket brace,
    value_of_ne levels fuel' (mt (head _ (by decide) (by decide)).1 quote)
      (mt (head _ (by decide) (by decide)).1 bracket) (mt (head _ (by decide) (by decide)).1 brace)]
  exact agrees_simple cs

lemma AgreesWith.items_succ (given : AgreesWith fuel) {fuel' : Nat}
    (enough : 2 * cs.length + 1 < fuel + 1)
    (enough' : 2 * (Text.unifyNewlines cs).length + 1 < fuel' + 1) :
    Agrees (Json.items levels (fuel + 1) cs)
      (Json.items levels (fuel' + 1) (Text.unifyNewlines cs)) := by
  rw [Json.items_succ, Json.items_succ]
  apply (given.value levels cs fuel' (by omega) (by omega)).andThen
  intro v rest read read'
  have le := length_le_of_value read
  have le' := length_le_of_value read'
  apply agrees_followed (.inl rfl)
  intro rest lt lt'
  exact given.items levels rest fuel' (by omega) (by omega)

lemma AgreesWith.members_succ (given : AgreesWith fuel) {fuel' : Nat}
    (enough : 2 * cs.length + 1 < fuel + 1)
    (enough' : 2 * (Text.unifyNewlines cs).length + 1 < fuel' + 1) :
    Agrees (Json.members levels (fuel + 1) cs)
      (Json.members levels (fuel' + 1) (Text.unifyNewlines cs)) := by
  rw [Json.members_succ, Json.members_succ]
  apply (agrees_memberName cs).andThen
  intro name rest read read'
  have le := length_le_of_memberName read
  have le' := length_le_of_memberName read'
  apply (given.value levels rest fuel' (by omega) (by omega)).andThen
  intro v rest read read'
  have le := length_le_of_value read
  have le' := length_le_of_value read'
  apply agrees_followed (.inr rfl)
  intro rest lt lt'
  exact given.members levels rest fuel' (by omega) (by omega)

/-- Whether two texts are read as the same: the same value, or beyond the same limit, or each is
malformed. -/
inductive ParsesAlike : Except Error Value → Except Error Value → Prop where
  | read (v : Value) : ParsesAlike (.ok v) (.ok v)
  | beyond (limit : Limit) : ParsesAlike (.error limit.error) (.error limit.error)
  | malformed (fault fault' : SyntaxFault) :
    ParsesAlike (.error (.malformed fault)) (.error (.malformed fault'))

lemma ParsesAlike.symm {result result' : Except Error Value} (alike : ParsesAlike result result') :
    ParsesAlike result' result := by
  cases alike with
  | read v => exact .read v
  | beyond limit => exact .beyond limit
  | malformed fault fault' => exact .malformed fault' fault

lemma ParsesAlike.trans {result result' result'' : Except Error Value}
    (alike : ParsesAlike result result') (alike' : ParsesAlike result' result'') :
    ParsesAlike result result'' := by
  cases alike with
  | read v => exact alike'
  | beyond limit => exact alike'
  | malformed fault fault' =>
    generalize middle_eq : Except.error (Error.malformed fault') = middle at alike'
    cases alike' with
    | read v => exact absurd middle_eq (by simp)
    | beyond limit => cases limit <;> exact absurd middle_eq (by simp [Limit.error])
    | malformed fault' fault'' => exact .malformed fault fault''

end CompileFlags.Json
