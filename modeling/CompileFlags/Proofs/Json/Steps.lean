import CompileFlags.Json.Reader
import Mathlib.Data.List.Basic

/-!
# The steps of the JSON reader

What each function of the reader does in one step, said here once for all that is proved of it: how a
numeric escape, another escape and a string are read (`ReadsUnicode`, `ReadsEscape`, `ReadsChars`), what
is behind a value (`separator_eq_closing_iff`, `separator_eq_comma_iff`) and in front of that of a member
(`memberName_eq_ok_iff`), how a value is read or is not (`ReadsValue`, `FailsValue`), and what a whole
text is (`parse_eq_ok_iff`). The items of a list and the members of a map are read one by one: the first,
and what it is followed by (`items_succ`, `members_succ`), which is the closing bracket, or a comma and
others (`followed_eq_ok_iff`, `followed_eq_error_iff`).
-/

namespace CompileFlags.Json

/-- A limit of the reader: how many digits an integer may have, or how deep brackets may be nested. -/
inductive Limit where
  | tooManyDigits (count : Nat)
  | tooDeep (bracket : Bracket)

/-- The fault of going beyond a limit. -/
def Limit.fault : Limit → Fault
  | .tooManyDigits count => .tooManyDigits count
  | .tooDeep bracket => .tooDeep bracket

/-- What is said of a text that goes beyond a limit. -/
def Limit.error : Limit → Error
  | .tooManyDigits count => .tooManyDigits count
  | .tooDeep bracket => .tooDeep bracket

variable {α β : Type} {cs rest after : Text} {fault : Fault}

/-- What a result was made from. -/
lemma map_eq_ok_iff {ε α β : Type} {f : α → β} {x : Except ε α} {b : β} :
    x.map f = .ok b ↔ ∃ a, x = .ok a ∧ f a = b := by
  cases x with
  | error e => simp [Except.map]
  | ok a => simp [Except.map]

/-- A failure is what it was before. -/
lemma map_eq_error_iff {ε α β : Type} {f : α → β} {x : Except ε α} {e : ε} :
    x.map f = .error e ↔ x = .error e := by
  cases x with
  | error e => simp [Except.map]
  | ok a => simp [Except.map]

/-- One reading and then another of what is left. -/
def andThen (reading : Reading α) (next : α → Text → Reading β) : Reading β :=
  match reading with
  | .error fault => .error fault
  | .ok (a, rest) => next a rest

section AndThen

variable {reading : Reading α} {next : α → Text → Reading β} {a : α} {b : β}

lemma andThen_of_ok (read : reading = .ok (a, rest)) : andThen reading next = next a rest := by
  rw [read, andThen]

lemma andThen_of_error (failed : reading = .error fault) : andThen reading next = .error fault := by
  rw [failed, andThen]

/-- Two readings succeed if the first does, and then the second. -/
lemma andThen_eq_ok_iff :
    andThen reading next = .ok (b, rest) ↔
      ∃ a after, reading = .ok (a, after) ∧ next a after = .ok (b, rest) := by
  cases reading with
  | error fault => simp [andThen]
  | ok result =>
    obtain ⟨a, after⟩ := result
    simp [andThen]

/-- Two readings fail if the first does, or else the second. -/
lemma andThen_eq_error_iff :
    andThen reading next = .error fault ↔
      reading = .error fault ∨ ∃ a after, reading = .ok (a, after) ∧ next a after = .error fault := by
  cases reading with
  | error fault => simp [andThen]
  | ok result =>
    obtain ⟨a, after⟩ := result
    simp [andThen]

end AndThen

section Strings

variable {opening t : Text} {c : CodePoint} {length : Nat}

/-- How a numeric escape is read: by itself, or that of a high surrogate together with that of a low one.
What follows that of a high surrogate may be another that is not of a low one, but no broken one. -/
inductive ReadsUnicode (cs : Text) : CodePoint → Nat → Prop where
  | single {n : Nat} (goesOn : (cs.drop 4).isEmpty = false) (spelled : ofHex? (cs.take 4) = some n)
    (apart : isHighSurrogate n = true → ∀ more, cs.drop 4 = .char '\\' :: .char 'u' :: more →
      (more.drop 4).isEmpty = true ∨
        ∃ low, ofHex? (more.take 4) = some low ∧ isLowSurrogate low = false) :
    ReadsUnicode cs (.ofNumber n) 4
  | pair {high low : Nat} {more : Text} (isHigh : isHighSurrogate high = true)
    (isLow : isLowSurrogate low = true) (spelled : ofHex? (cs.take 4) = some high)
    (drop_eq : cs.drop 4 = .char '\\' :: .char 'u' :: more) (goesOn : (more.drop 4).isEmpty = false)
    (spelled' : ofHex? (more.take 4) = some low) :
    ReadsUnicode cs (.ofNumber (0x10000 + (high - 0xd800) * 0x400 + (low - 0xdc00))) 10

/-- A numeric escape that is read is read in one of these ways. -/
lemma readsUnicode_of_unicodeEscape (read : unicodeEscape cs = .ok (c, length)) :
    ReadsUnicode cs c length := by
  rw [unicodeEscape] at read
  split at read
  · exact absurd read (by simp)
  rename_i goesOn
  rw [Bool.not_eq_true] at goesOn
  split at read
  · exact absurd read (by simp)
  rename_i high high_eq
  split at read
  · rename_i more isHigh drop_eq
    -- a second escape follows, which is read with the first only if it is that of a low surrogate
    have single (apart : (more.drop 4).isEmpty = true ∨
        ∃ low, ofHex? (more.take 4) = some low ∧ isLowSurrogate low = false) :
        ReadsUnicode cs (.ofNumber high) 4 := by
      refine .single goesOn high_eq fun _ more' drop_eq' => ?_
      obtain ⟨⟩ := drop_eq.symm.trans drop_eq'
      exact apart
    split at read
    · rename_i none
      obtain ⟨⟩ := read
      exact single (.inl none)
    rename_i goesOn'
    split at read
    · exact absurd read (by simp)
    rename_i low low_eq
    split at read
    · rename_i isLow
      obtain ⟨rfl, rfl⟩ := Prod.mk.inj (Except.ok.inj read)
      exact .pair isHigh isLow high_eq drop_eq (Bool.eq_false_iff.2 goesOn') low_eq
    · rename_i notLow
      obtain ⟨⟩ := read
      exact single (.inr ⟨low, low_eq, Bool.eq_false_iff.2 notLow⟩)
  · rename_i no
    obtain ⟨⟩ := read
    exact .single goesOn high_eq fun isHigh more drop_eq => (no more isHigh drop_eq).elim

/-- What may be read in one of these ways is. -/
lemma ReadsUnicode.unicodeEscape_eq (reads : ReadsUnicode cs c length) :
    unicodeEscape cs = .ok (c, length) := by
  rw [unicodeEscape]
  cases reads with
  | single goesOn spelled apart =>
    rw [goesOn, spelled, if_neg Bool.false_ne_true]
    dsimp only
    split
    · rename_i more isHigh drop_eq
      obtain none | ⟨low, low_eq, notLow⟩ := apart isHigh more drop_eq
      · exact if_pos none
      · rw [low_eq]
        dsimp only
        rw [notLow, if_neg Bool.false_ne_true]
        exact ite_self _
    · rfl
  | pair isHigh isLow spelled drop_eq goesOn spelled' =>
    rw [drop_eq, spelled, if_neg (by simp)]
    dsimp only
    simp only [isHigh]
    rw [goesOn, spelled', if_neg Bool.false_ne_true]
    exact if_pos isLow

/-- How an escape is read: by its letter, or as a numeric one. -/
inductive ReadsEscape : Text → CodePoint → Nat → Prop where
  | short {letter c : CodePoint} {cs : Text} (known : shortEscape? letter = some c) :
    ReadsEscape (letter :: cs) c 1
  | unicode {cs : Text} {c : CodePoint} {length : Nat} (read : unicodeEscape cs = .ok (c, length)) :
    ReadsEscape (.char 'u' :: cs) c (length + 1)

/-- An escape that is read is read in one of these ways. -/
lemma readsEscape_of_escape (read : escape opening cs = .ok (c, length)) : ReadsEscape cs c length := by
  rw [escape.eq_def] at read
  split at read
  · exact absurd read (by simp)
  · obtain ⟨_, numeric, ⟨⟩⟩ := map_eq_ok_iff.1 read
    exact .unicode numeric
  · split at read
    · rename_i known
      obtain ⟨⟩ := read
      exact .short known
    · exact absurd read (by simp)

/-- An escape of one letter is read. -/
lemma escape_of_short {letter : CodePoint} (known : shortEscape? letter = some c) :
    escape opening (letter :: cs) = .ok (c, 1) := by
  rw [escape.eq_def]
  split
  · contradiction
  · rename_i e
    obtain ⟨rfl, _⟩ := List.cons.inj e
    exact absurd known (Option.some_ne_none c).symm
  · rename_i e
    obtain ⟨rfl, _⟩ := List.cons.inj e
    rw [known]

/-- A numeric escape is read by what follows its letter. -/
lemma escape_of_unicode (read : unicodeEscape cs = .ok (c, length)) :
    escape opening (.char 'u' :: cs) = .ok (c, length + 1) := by
  rw [escape, read]
  rfl

/-- Characters that belong to an escape are passed over. -/
lemma chars_drop (opening : Text) (skip : Nat) (cs : Text) :
    chars opening skip cs = chars opening 0 (cs.drop skip) := by
  induction skip generalizing cs with
  | zero => rfl
  | succ skip ih =>
    cases cs with
    | nil => rfl
    | cons c cs => exact ih cs

/-- How the code points of a string are read, up to its closing quote. -/
inductive ReadsChars (opening rest : Text) : Text → Text → Prop where
  | closing : ReadsChars opening rest (.char '"' :: rest) []
  | escape {c : CodePoint} {length : Nat} {cs t : Text} (escaped : escape opening cs = .ok (c, length))
    (read : chars opening 0 (cs.drop length) = .ok (t, rest)) :
    ReadsChars opening rest (.char '\\' :: cs) (c :: t)
  | plain {c : CodePoint} {cs t : Text} (ne : c ≠ '"' ∧ c ≠ '\\') (le : 0x20 ≤ c.number)
    (read : chars opening 0 cs = .ok (t, rest)) : ReadsChars opening rest (c :: cs) (c :: t)

/-- A string that is read is read in one of these ways. -/
lemma readsChars_of_chars (read : chars opening 0 cs = .ok (t, rest)) :
    ReadsChars opening rest cs t := by
  cases cs with
  | nil => exact absurd read (by simp [chars])
  | cons c cs =>
    rw [chars] at read
    split_ifs at read with isQuote isBackslash control
    · obtain ⟨⟩ := read
      rw [isQuote]
      exact .closing
    · subst isBackslash
      split at read
      · exact absurd read (by simp)
      · rename_i escaped
        obtain ⟨_, others, ⟨⟩⟩ := map_eq_ok_iff.1 read
        rw [chars_drop] at others
        exact .escape escaped others
    · obtain ⟨_, others, ⟨⟩⟩ := map_eq_ok_iff.1 read
      exact .plain ⟨isQuote, isBackslash⟩ (Nat.not_lt.1 control) others

/-- A code point is read behind its escape. -/
lemma chars_of_escaped (escaped : escape opening cs = .ok (c, length))
    (read : chars opening 0 (cs.drop length) = .ok (t, rest)) :
    chars opening 0 (.char '\\' :: cs) = .ok (c :: t, rest) := by
  rw [chars, if_neg (by decide), if_pos rfl, escaped]
  dsimp only
  rw [chars_drop, read]
  rfl

/-- A code point stands for itself. -/
lemma chars_of_plain (ne : c ≠ '"' ∧ c ≠ '\\') (le : 0x20 ≤ c.number)
    (read : chars opening 0 cs = .ok (t, rest)) : chars opening 0 (c :: cs) = .ok (c :: t, rest) := by
  rw [chars, if_neg ne.1, if_neg ne.2, if_neg (Nat.not_lt.2 le), read]
  rfl

end Strings

section Separators

variable {closing : CodePoint} {name : Text}

lemma separator_eq_closing_iff :
    separator closing cs = .ok (false, rest) ↔ skipBlanks cs = closing :: rest := by
  rw [separator]
  constructor
  · intro read
    split at read
    · exact absurd read (by simp)
    split_ifs at read with isClosing isComma
    · obtain ⟨⟩ := read
      rw [← isClosing]
      assumption
    · exact absurd read (by simp)
  · intro skipped
    rw [skipped]
    exact if_pos rfl

lemma separator_eq_comma_iff :
    separator closing cs = .ok (true, rest) ↔
      closing ≠ ',' ∧ ∃ more, skipBlanks cs = .char ',' :: more ∧ rest = skipBlanks more := by
  rw [separator]
  constructor
  · intro read
    split at read
    · exact absurd read (by simp)
    rename_i c more skipped
    split_ifs at read with isClosing isComma
    · exact absurd read (by simp)
    · obtain ⟨⟩ := read
      subst isComma
      exact ⟨Ne.symm isClosing, more, skipped, rfl⟩
  · rintro ⟨ne, more, skipped, rfl⟩
    rw [skipped]
    dsimp only
    rw [if_neg ne.symm, if_pos rfl]

lemma memberName_of_ne (quote : cs.head? ≠ some (.char '"')) :
    memberName cs = .error (.complaint .propertyName cs.length) := by
  rw [memberName.eq_def]
  split
  · exact absurd rfl quote
  · rfl

lemma memberName_quote (cs : Text) :
    memberName (.char '"' :: cs) = andThen (string cs) fun name rest =>
      if (skipBlanks rest).head? = some (.char ':') then
        .ok (name, skipBlanks (skipBlanks rest).tail)
      else .error (.complaint .colon (skipBlanks rest).length) := by
  rw [memberName]
  cases string cs with
  | error fault => rfl
  | ok result =>
    dsimp only [andThen]
    split
    · rename_i skipped
      rw [skipped]
      rfl
    · rename_i noColon
      rw [if_neg fun head => (List.head?_eq_some_iff.1 head).elim noColon]

/-- A name is read up to the colon and the blanks around it. -/
lemma memberName_eq_ok_iff :
    memberName cs = .ok (name, rest) ↔
      ∃ quoted behind after, cs = .char '"' :: quoted ∧ string quoted = .ok (name, behind) ∧
        skipBlanks behind = .char ':' :: after ∧ rest = skipBlanks after := by
  constructor
  · intro read
    by_cases quote : cs.head? = some (.char '"')
    · obtain ⟨quoted, rfl⟩ := List.head?_eq_some_iff.1 quote
      rw [memberName_quote] at read
      obtain ⟨name, behind, string_eq, read⟩ := andThen_eq_ok_iff.1 read
      split_ifs at read with colon
      obtain ⟨after, skipped⟩ := List.head?_eq_some_iff.1 colon
      rw [skipped] at read
      obtain ⟨⟩ := read
      exact ⟨quoted, behind, after, rfl, string_eq, skipped, rfl⟩
    · rw [memberName_of_ne quote] at read
      exact absurd read (by simp)
  · rintro ⟨quoted, behind, after, rfl, string_eq, skipped, rfl⟩
    rw [memberName_quote, andThen_of_ok string_eq, skipped]
    rfl

end Separators

/-- What is behind an item or a member: the end, or a comma and others. -/
def followed (closing : CodePoint) (others : Text → Reading (List α)) (a : α) (cs : Text) :
    Reading (List α) :=
  andThen (separator closing cs) fun goesOn rest =>
    if goesOn then (others rest).map fun (as, rest) => (a :: as, rest) else .ok ([a], rest)

section Followed

variable {closing : CodePoint} {others : Text → Reading (List α)} {a : α} {as : List α}

/-- The closing bracket ends what is read. -/
lemma followed_of_closing (read : separator closing cs = .ok (false, rest)) :
    followed closing others a cs = .ok ([a], rest) := by
  rw [followed, andThen_of_ok read]
  rfl

/-- Behind a comma the others are read. -/
lemma followed_of_comma (read : separator closing cs = .ok (true, after)) :
    followed closing others a cs = (others after).map fun (as, rest) => (a :: as, rest) := by
  rw [followed, andThen_of_ok read]
  rfl

lemma followed_eq_ok_iff :
    followed closing others a cs = .ok (as, rest) ↔
      separator closing cs = .ok (false, rest) ∧ as = [a] ∨
      ∃ after more, separator closing cs = .ok (true, after) ∧ others after = .ok (more, rest) ∧
        as = a :: more := by
  rw [followed, andThen_eq_ok_iff]
  constructor
  · rintro ⟨_ | _, after, read, read'⟩
    · obtain ⟨⟩ := read'
      exact .inl ⟨read, rfl⟩
    · obtain ⟨⟨more, _⟩, others_eq, ⟨⟩⟩ := map_eq_ok_iff.1 read'
      exact .inr ⟨after, more, read, others_eq, rfl⟩
  · rintro (⟨read, rfl⟩ | ⟨after, more, read, others_eq, rfl⟩)
    · exact ⟨false, rest, read, rfl⟩
    · exact ⟨true, after, read, map_eq_ok_iff.2 ⟨_, others_eq, rfl⟩⟩

lemma followed_eq_error_iff :
    followed closing others a cs = .error fault ↔
      separator closing cs = .error fault ∨
      ∃ after, separator closing cs = .ok (true, after) ∧ others after = .error fault := by
  rw [followed, andThen_eq_error_iff]
  refine or_congr_right ⟨?_, ?_⟩
  · rintro ⟨_ | _, after, read, failed⟩
    · exact absurd failed (by simp)
    · exact ⟨after, read, map_eq_error_iff.1 failed⟩
  · rintro ⟨after, read, failed⟩
    exact ⟨true, after, read, map_eq_error_iff.2 failed⟩

lemma followed_eq (closing : CodePoint) (others : Text → Reading (List α)) (a : α) (cs : Text) :
    followed closing others a cs =
      match separator closing cs with
      | .error fault => .error fault
      | .ok (false, rest) => .ok ([a], rest)
      | .ok (true, rest) => (others rest).map fun (as, rest) => (a :: as, rest) := by
  rw [followed]
  cases separator closing cs with
  | error fault => rfl
  | ok result =>
    obtain ⟨goesOn, rest⟩ := result
    cases goesOn with
    | false => rfl
    | true => rfl

end Followed

/-- Items are read one by one. -/
lemma items_succ (levels fuel : Nat) (cs : Text) :
    items levels (fuel + 1) cs =
      andThen (value levels fuel cs) (followed ']' (items levels fuel)) := by
  rw [items]
  cases value levels fuel cs with
  | error fault => rfl
  | ok result => exact (followed_eq _ _ _ _).symm

/-- Members are read one by one, each name before its value. -/
lemma members_succ (levels fuel : Nat) (cs : Text) :
    members levels (fuel + 1) cs = andThen (memberName cs) fun name rest =>
      andThen (value levels fuel rest) fun v =>
        followed '\x7d' (members levels fuel) (.text name, v) := by
  rw [members]
  cases memberName cs with
  | error fault => rfl
  | ok result =>
    dsimp only [andThen]
    cases value levels fuel result.2 with
    | error fault => rfl
    | ok result => exact (followed_eq _ _ _ _).symm

/-- What stands in brackets has one level less. -/
lemma value_bracket (levels fuel : Nat) (cs : Text) :
    value (levels + 1) (fuel + 1) (.char '[' :: cs) =
      if (skipBlanks cs).head? = some (.char ']') then .ok (.list [], (skipBlanks cs).tail)
      else (items levels fuel (skipBlanks cs)).map fun (vs, rest) => (.list vs, rest) := by
  rw [value, if_neg levels.succ_ne_zero, Nat.add_sub_cancel]
  split
  · rename_i skipped
    rw [skipped]
    rfl
  · rename_i notEmpty
    rw [if_neg fun head => (List.head?_eq_some_iff.1 head).elim notEmpty]

lemma value_brace (levels fuel : Nat) (cs : Text) :
    value (levels + 1) (fuel + 1) (.char '\x7b' :: cs) =
      if (skipBlanks cs).head? = some (.char '\x7d') then .ok (.map [], (skipBlanks cs).tail)
      else (members levels fuel (skipBlanks cs)).map fun (es, rest) =>
        (.map (OrderedMap.putAll es []), rest) := by
  rw [value, if_neg levels.succ_ne_zero, Nat.add_sub_cancel]
  split
  · rename_i skipped
    rw [skipped]
    rfl
  · rename_i notEmpty
    rw [if_neg fun head => (List.head?_eq_some_iff.1 head).elim notEmpty]

lemma value_of_ne (levels fuel : Nat) (quote : cs.head? ≠ some (.char '"'))
    (bracket : cs.head? ≠ some (.char '[')) (brace : cs.head? ≠ some (.char '\x7b')) :
    value levels (fuel + 1) cs = simple cs := by
  rw [value.eq_def]
  dsimp only
  split
  · exact absurd rfl quote
  · exact absurd rfl bracket
  · exact absurd rfl brace
  · rfl

/-- How a value is read at the front of a text, with so much of the text left and so much fuel for its
parts. Brackets need a level. -/
inductive ReadsValue (fuel : Nat) (rest : Text) : Nat → Text → Value → Prop where
  | string {levels : Nat} {cs t : Text} (read : string cs = .ok (t, rest)) :
    ReadsValue fuel rest levels (.char '"' :: cs) (.text t)
  | emptyList {levels : Nat} {cs : Text} (skipped : skipBlanks cs = .char ']' :: rest) :
    ReadsValue fuel rest (levels + 1) (.char '[' :: cs) (.list [])
  | list {levels : Nat} {cs : Text} {vs : List Value}
    (read : items levels fuel (skipBlanks cs) = .ok (vs, rest)) :
    ReadsValue fuel rest (levels + 1) (.char '[' :: cs) (.list vs)
  | emptyMap {levels : Nat} {cs : Text} (skipped : skipBlanks cs = .char '\x7d' :: rest) :
    ReadsValue fuel rest (levels + 1) (.char '\x7b' :: cs) (.map [])
  | map {levels : Nat} {cs : Text} {es : List (Scalar × Value)}
    (read : members levels fuel (skipBlanks cs) = .ok (es, rest)) :
    ReadsValue fuel rest (levels + 1) (.char '\x7b' :: cs) (.map (OrderedMap.putAll es []))
  | simple {levels : Nat} {cs : Text} {v : Value} (read : simple cs = .ok (v, rest)) :
    ReadsValue fuel rest levels cs v

/-- A value that is read is read in one of these ways. -/
lemma readsValue_of_value {levels fuel : Nat} {v : Value}
    (read : value levels (fuel + 1) cs = .ok (v, rest)) : ReadsValue fuel rest levels cs v := by
  rw [value.eq_def] at read
  dsimp only at read
  split at read
  · obtain ⟨_, string_eq, ⟨⟩⟩ := map_eq_ok_iff.1 read
    exact .string string_eq
  · cases levels with
    | zero => exact absurd read (by simp)
    | succ levels =>
      rw [if_neg levels.succ_ne_zero] at read
      split at read
      · obtain ⟨⟩ := read
        exact .emptyList (by assumption)
      · obtain ⟨_, items_eq, ⟨⟩⟩ := map_eq_ok_iff.1 read
        exact .list items_eq
  · cases levels with
    | zero => exact absurd read (by simp)
    | succ levels =>
      rw [if_neg levels.succ_ne_zero] at read
      split at read
      · obtain ⟨⟩ := read
        exact .emptyMap (by assumption)
      · obtain ⟨_, members_eq, ⟨⟩⟩ := map_eq_ok_iff.1 read
        exact .map members_eq
  · exact .simple read

/-- How reading a value ends with a fault. -/
inductive FailsValue (fuel : Nat) : Nat → Fault → Text → Prop where
  | string {levels : Nat} {fault : Fault} {cs : Text} (failed : string cs = .error fault) :
    FailsValue fuel levels fault (.char '"' :: cs)
  | listTooDeep {cs : Text} : FailsValue fuel 0 (.tooDeep .array) (.char '[' :: cs)
  | list {levels : Nat} {fault : Fault} {cs : Text}
    (failed : items levels fuel (skipBlanks cs) = .error fault) :
    FailsValue fuel (levels + 1) fault (.char '[' :: cs)
  | mapTooDeep {cs : Text} : FailsValue fuel 0 (.tooDeep .object) (.char '\x7b' :: cs)
  | map {levels : Nat} {fault : Fault} {cs : Text}
    (failed : members levels fuel (skipBlanks cs) = .error fault) :
    FailsValue fuel (levels + 1) fault (.char '\x7b' :: cs)
  | simple {levels : Nat} {fault : Fault} {cs : Text} (failed : simple cs = .error fault) :
    FailsValue fuel levels fault cs

/-- A value that is not read ends with a fault in one of these ways. -/
lemma failsValue_of_value {levels fuel : Nat} (failed : value levels (fuel + 1) cs = .error fault) :
    FailsValue fuel levels fault cs := by
  rw [value.eq_def] at failed
  dsimp only at failed
  split at failed
  · exact .string (map_eq_error_iff.1 failed)
  · cases levels with
    | zero =>
      obtain ⟨⟩ := failed
      exact .listTooDeep
    | succ levels =>
      rw [if_neg levels.succ_ne_zero] at failed
      split at failed
      · exact absurd failed (by simp)
      · exact .list (map_eq_error_iff.1 failed)
  · cases levels with
    | zero =>
      obtain ⟨⟩ := failed
      exact .mapTooDeep
    | succ levels =>
      rw [if_neg levels.succ_ne_zero] at failed
      split at failed
      · exact absurd failed (by simp)
      · exact .map (map_eq_error_iff.1 failed)
  · exact .simple failed

variable {levels : Nat} {text : Text}

/-- A text is read if it has no byte order mark, and a value and nothing but blanks behind it. -/
lemma parse_eq_ok_iff {v : Value} :
    parse levels text = .ok v ↔ text.head? ≠ some (.char '\ufeff') ∧
      ∃ rest, value levels (2 * text.length + 2) (skipBlanks text) = .ok (v, rest) ∧
        skipBlanks rest = [] := by
  rw [parse, document]
  by_cases mark : text.head? = some (.char '\ufeff')
  · simp [mark]
  rw [if_neg mark]
  cases value levels (2 * text.length + 2) (skipBlanks text) with
  | error fault => cases fault <;> simp
  | ok result =>
    obtain ⟨w, rest⟩ := result
    dsimp only
    cases skipped : skipBlanks rest with
    | nil => simp [mark, skipped]
    | cons c more => simp [skipped]

/-- Reading a text goes beyond a limit exactly if reading its value does. -/
lemma parse_eq_limit_iff_value {limit : Limit} :
    parse levels text = .error limit.error ↔ text.head? ≠ some (.char '\ufeff') ∧
      value levels (2 * text.length + 2) (skipBlanks text) = .error limit.fault := by
  rw [parse, document]
  by_cases mark : text.head? = some (.char '\ufeff')
  · cases limit <;> simp [mark, Limit.error]
  rw [if_neg mark]
  cases value levels (2 * text.length + 2) (skipBlanks text) with
  | error fault => cases fault <;> cases limit <;> simp [mark, Limit.error, Limit.fault]
  | ok result =>
    obtain ⟨w, rest⟩ := result
    dsimp only
    cases skipBlanks rest <;> cases limit <;> simp [Limit.error]

end CompileFlags.Json
