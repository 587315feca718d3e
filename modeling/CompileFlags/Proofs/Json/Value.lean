import CompileFlags.Proofs.Json.Render
import CompileFlags.Proofs.Json.Steps

/-!
# Values in JSON

What is written of a value that is writable within as many levels as are read is read as it was
(`parse_writeValue`), but for floating-point numbers, for which the number that their digits spell is
read (`Value.reread`).
-/

namespace CompileFlags.Json

variable {levels : Nat} {v : Value} {cs rest : Text}

/-- What is no blank is not skipped. -/
lemma skipBlanks_of_head (head : ∀ c, cs.head? = some c → isBlank c = false) : skipBlanks cs = cs := by
  cases cs with
  | nil => rfl
  | cons c cs => exact List.dropWhile_cons_of_neg (by simp [head c rfl])

/-- A new line is skipped. -/
lemma skipBlanks_newline (level : Nat) (cs : Text) :
    skipBlanks (Text.ofChars (newline level) ++ cs) = skipBlanks cs := by
  have blank : ∀ c ∈ Text.ofChars (newline level), isBlank c = true := by
    intro c mem
    rw [newline, Text.ofChars, List.map_cons, List.map_replicate] at mem
    rcases List.mem_cons.1 mem with rfl | mem
    · rfl
    · rw [List.eq_of_mem_replicate mem]
      rfl
  exact List.dropWhile_append_of_pos blank

/-- Neither what separates values nor what closes a list or a map goes on with a number. -/
lemma endsNumber_cons {c : Char} (no : c.isDigit = false) (ne : c ≠ '.' ∧ c ≠ 'e' ∧ c ≠ 'E') :
    EndsNumber (.char c :: rest) := by
  intro d head
  obtain rfl := Option.some.inj head
  refine ⟨no, ?_⟩
  simpa using ne

/-- Blanks, the signs that other values start with, the closing bracket of a list, and the byte order
mark. -/
def nonSimple : List Char := [' ', '\t', '\n', '\r', '"', '[', '\x7b', ']', '\ufeff']

/-- No simple value starts with any of these. -/
lemma simple_eq_error (rest : Text) {c : Char} (special : c ∈ nonSimple) :
    ∃ fault, simple (.char c :: rest) = .error fault := by
  simp only [nonSimple, List.mem_cons, List.not_mem_nil, or_false] at special
  rcases special with rfl | rfl | rfl | rfl | rfl | rfl | rfl | rfl | rfl
  all_goals exact ⟨_, rfl⟩

/-- What is read as a simple value starts with none of these. -/
lemma head?_ne_of_simple {result : Value × Text} (read : simple cs = .ok result) {c : Char}
    (special : c ∈ nonSimple) : cs.head? ≠ some (.char c) := by
  intro head
  obtain ⟨more, rfl⟩ := List.head?_eq_some_iff.1 head
  obtain ⟨fault, failed⟩ := simple_eq_error more special
  rw [failed] at read
  exact absurd read (by simp)

/-- A simple value is read as one. -/
lemma value_of_simple {fuel : Nat} {result : Value × Text} (read : simple cs = .ok result) :
    value levels (fuel + 1) cs = .ok result := by
  have ne {c : Char} (special : c ∈ nonSimple) := head?_ne_of_simple read special
  rw [value_of_ne levels fuel (ne (by decide)) (ne (by decide)) (ne (by decide))]
  exact read

/-- Whether a text starts like a value: neither with a blank, nor with a closing bracket or the byte
order mark. -/
def StartsValue (cs : Text) : Prop :=
  ∃ c more, cs = c :: more ∧ isBlank c = false ∧ c ≠ ']' ∧ c ≠ '\ufeff'

/-- No blank is skipped in front of a value. -/
lemma StartsValue.skipBlanks (starts : StartsValue cs) : skipBlanks cs = cs := by
  obtain ⟨c, more, rfl, notBlank, _⟩ := starts
  exact List.dropWhile_cons_of_neg (by simp [notBlank])

/-- A simple value starts like a value. -/
lemma startsValue_of_simple {result : Value × Text} (read : simple cs = .ok result) :
    StartsValue cs := by
  cases cs with
  | nil => exact absurd read (by rw [show simple [] = .error _ from rfl]; simp)
  | cons c more =>
    have ne {d : Char} (special : d ∈ nonSimple) : c ≠ d := fun c_eq =>
      head?_ne_of_simple read special (congrArg some c_eq)
    refine ⟨c, more, rfl, ?_, ne (by decide), ne (by decide)⟩
    simp only [isBlank, Bool.or_eq_false_iff, decide_eq_false_iff_not]
    exact ⟨⟨⟨ne (by decide), ne (by decide)⟩, ne (by decide)⟩, ne (by decide)⟩

/-- Whether a value is read as it was wherever it is written, if so many levels may be entered. -/
structure ReadsBack (levels : Nat) (v : Value) : Prop where
  starts : ∀ level rest, StartsValue (Text.ofChars (writeValue level v) ++ rest)
  read : ∀ level fuel rest, (writeValue level v).length ≤ fuel → EndsNumber rest →
    value levels fuel (Text.ofChars (writeValue level v) ++ rest) = .ok (v.reread, rest)

section Sequences

variable {items : List Value} {members : List (Text × Value)} {closing : Char} {fuel level : Nat}

/-- The end of a list or map: its closing bracket on a line of its own, and what follows it. -/
def ending (level : Nat) (closing : Char) (rest : Text) : Text :=
  Text.ofChars (newline level) ++ .char closing :: rest

/-- Behind the last of several values is the closing bracket. -/
lemma separator_ending (isClosing : closing = ']' ∨ closing = '\x7d') :
    separator closing (ending level closing rest) = .ok (false, rest) := by
  have head : ∀ c, (CodePoint.char closing :: rest).head? = some c → isBlank c = false := by
    intro c head
    obtain rfl := Option.some.inj head
    obtain rfl | rfl := isClosing <;> rfl
  rw [separator_eq_closing_iff, ending, skipBlanks_newline, skipBlanks_of_head head]

/-- Behind any other value is a comma, and the next one after blanks. -/
lemma separator_comma (isClosing : closing = ']' ∨ closing = '\x7d') :
    separator closing (.char ',' :: rest) = .ok (true, skipBlanks rest) := by
  have skipped : skipBlanks (.char ',' :: rest) = .char ',' :: rest :=
    skipBlanks_of_head fun c head => by rw [← Option.some.inj head]; rfl
  have ne : CodePoint.char closing ≠ ',' := by obtain rfl | rfl := isClosing <;> decide
  exact separator_eq_comma_iff.2 ⟨ne, rest, skipped, rfl⟩

/-- Neither a comma nor an end goes on with a number. -/
lemma endsNumber_followed {isLast : Bool} {written : Text} (last : isLast = true → written = []) :
    EndsNumber (Text.ofChars (if isLast then [] else [',']) ++
      (written ++ ending level closing rest)) := by
  cases isLast with
  | true =>
    obtain rfl := last rfl
    exact endsNumber_cons (by decide) (by decide)
  | false => exact endsNumber_cons (by decide) (by decide)

/-- What is written behind an item or a member is read: the end behind the last, or else a comma and
the others. -/
lemma followed_written {α : Type} {a : α} {as : List α} {others : Text → Reading (List α)}
    {isLast : Bool} {written : Text} (isClosing : closing = ']' ∨ closing = '\x7d')
    (last : isLast = true → written = [] ∧ as = [])
    (read : isLast = false →
      others (skipBlanks (written ++ ending level closing rest)) = .ok (as, rest)) :
    followed closing others a (Text.ofChars (if isLast then [] else [',']) ++
      (written ++ ending level closing rest)) = .ok (a :: as, rest) := by
  cases isLast with
  | true =>
    obtain ⟨rfl, rfl⟩ := last rfl
    exact followed_of_closing (separator_ending isClosing)
  | false =>
    refine (followed_of_comma (separator_comma isClosing)).trans ?_
    exact map_eq_ok_iff.2 ⟨_, read rfl, rfl⟩

/-- The items of a list are read as they were written. -/
lemma items_written (readsBack : ∀ v ∈ items, ReadsBack levels v) (ne : items ≠ [])
    (enough : (writeItems level items).length ≤ fuel) (outer : Nat) (rest : Text) :
    Json.items levels fuel (skipBlanks (Text.ofChars (writeItems level items) ++ ending outer ']' rest)) =
      .ok (rereadItems items, rest) := by
  induction items generalizing fuel with
  | nil => exact absurd rfl ne
  | cons v others ih =>
    obtain ⟨first, all⟩ := List.forall_mem_cons.1 readsBack
    -- each item takes one unit of fuel, and the line break before it is at least that long
    have line : 1 ≤ (newline level).length := Nat.succ_pos _
    cases fuel with
    | zero => exact absurd enough (by simp [writeItems, newline])
    | succ fuel =>
      simp only [writeItems, List.length_append] at enough
      simp only [writeItems, Text.ofChars_append, List.append_assoc]
      have last (isEmpty : others.isEmpty = true) :
          Text.ofChars (writeItems level others) = [] ∧ rereadItems others = [] := by
        obtain rfl := List.isEmpty_iff.1 isEmpty
        exact ⟨rfl, rfl⟩
      have enough' : (writeValue level v).length ≤ fuel := by omega
      rw [skipBlanks_newline, (first.starts level _).skipBlanks, items_succ,
        andThen_of_ok (first.read level fuel _ enough' (endsNumber_followed fun e => (last e).1))]
      exact followed_written (.inl rfl) last fun notEmpty =>
        ih all (List.isEmpty_eq_false_iff.1 notEmpty) (by omega)

/-- The name of a member is read as it was written. -/
lemma memberName_written {name : Text} (separable : IsSeparable name) (starts : StartsValue rest) :
    memberName (Text.ofChars (writeString name) ++ .char ':' :: .char ' ' :: rest) =
      .ok (name, rest) := by
  have text : Text.ofChars (writeString name) ++ .char ':' :: .char ' ' :: rest =
      .char '"' :: (Text.ofChars (name.flatMap escapeOne) ++
        .char '"' :: .char ':' :: .char ' ' :: rest) := by
    simp [writeString]
  have blank : skipBlanks (.char ' ' :: rest) = skipBlanks rest := rfl
  exact memberName_eq_ok_iff.2 ⟨_, _, _, text, string_writeString _ separable, rfl,
    (blank.trans starts.skipBlanks).symm⟩

/-- The members of a map are read as they were written. -/
lemma members_written (separable : ∀ m ∈ members, IsSeparable m.1)
    (readsBack : ∀ m ∈ members, ReadsBack levels m.2) (ne : members ≠ [])
    (enough : (writeMembers level (entriesOf members)).length ≤ fuel) (outer : Nat) (rest : Text) :
    Json.members levels fuel (skipBlanks (Text.ofChars (writeMembers level (entriesOf members)) ++
        ending outer '\x7d' rest)) =
      .ok (rereadEntries (entriesOf members), rest) := by
  induction members generalizing fuel with
  | nil => exact absurd rfl ne
  | cons m others ih =>
    obtain ⟨name, v⟩ := m
    obtain ⟨separable, allSeparable⟩ := List.forall_mem_cons.1 separable
    obtain ⟨first, all⟩ := List.forall_mem_cons.1 readsBack
    have line : 1 ≤ (newline level).length := Nat.succ_pos _
    dsimp only at separable first
    cases fuel with
    | zero => exact absurd enough (by simp [entriesOf, writeMembers, newline])
    | succ fuel =>
      simp only [entriesOf_cons, writeMembers, memberKey, List.length_append,
        List.length_cons] at enough
      simp only [entriesOf_cons, writeMembers, memberKey, Text.ofChars_append, Text.ofChars_cons,
        List.append_assoc, List.cons_append]
      have quoted (rest : Text) : StartsValue (Text.ofChars (writeString name) ++ rest) :=
        ⟨_, _, rfl, rfl, by decide⟩
      have named (rest : Text) := memberName_written separable (first.starts level rest)
      have last (isEmpty : (entriesOf others).isEmpty = true) :
          Text.ofChars (writeMembers level (entriesOf others)) = [] ∧
            rereadEntries (entriesOf others) = [] := by
        rw [List.isEmpty_iff.1 isEmpty]
        exact ⟨rfl, rfl⟩
      have enough' : (writeValue level v).length ≤ fuel := by omega
      rw [skipBlanks_newline, (quoted _).skipBlanks, members_succ, andThen_of_ok (named _),
        andThen_of_ok (first.read level fuel _ enough' (endsNumber_followed fun e => (last e).1))]
      refine followed_written (.inr rfl) last fun notEmpty => ih allSeparable all ?_ (by omega)
      rintro rfl
      exact absurd notEmpty (by decide)

end Sequences

/-- What starts like a value does so whatever follows. -/
lemma StartsValue.append (starts : StartsValue cs) (rest : Text) : StartsValue (cs ++ rest) := by
  obtain ⟨c, more, rfl, notBlank, ne⟩ := starts
  exact ⟨c, more ++ rest, rfl, notBlank, ne⟩

/-- Nothing follows a number at the end of a text. -/
lemma endsNumber_nil : EndsNumber [] := fun c head => absurd head (Option.some_ne_none c).symm

/-- A scalar that is read as a simple value is read back. -/
lemma readsBack_of_simple {s : Scalar}
    (read : ∀ rest, EndsNumber rest → simple (Text.ofChars (writeScalar s) ++ rest) =
      .ok ((Value.scalar s).reread, rest)) : ReadsBack levels (.scalar s) where
  starts level rest := by
    have alone := startsValue_of_simple (read [] endsNumber_nil)
    rw [List.append_nil] at alone
    exact alone.append rest
  read level fuel rest enough ends := by
    obtain ⟨c, more, text_eq, _⟩ := startsValue_of_simple (read [] endsNumber_nil)
    cases fuel with
    | zero =>
      rw [Nat.le_zero, List.length_eq_zero_iff, writeValue] at enough
      rw [enough] at text_eq
      exact absurd text_eq (by simp)
    | succ fuel => exact value_of_simple (read rest ends)

/-- A text is read back. -/
lemma readsBack_text {t : Text} (separable : IsSeparable t) : ReadsBack levels (.text t) where
  starts level rest := ⟨_, _, rfl, rfl, by decide⟩
  read level fuel rest enough ends := by
    cases fuel with
    | zero => exact absurd enough (by simp [writeValue, writeScalar, writeString])
    | succ fuel =>
      have text_eq : Text.ofChars (writeValue level (.text t)) ++ rest =
          .char '"' :: (Text.ofChars (t.flatMap escapeOne) ++ .char '"' :: rest) := by
        simp [writeValue, writeScalar, writeString]
      rw [text_eq, value, string_writeString rest separable]
      rfl

/-- A list that is not empty is read by its items. -/
lemma value_list {fuel : Nat} {items : List Value} (starts : StartsValue (skipBlanks cs))
    (read : Json.items levels fuel (skipBlanks cs) = .ok (items, rest)) :
    value (levels + 1) (fuel + 1) (.char '[' :: cs) = .ok (.list items, rest) := by
  obtain ⟨c, more, skipped, _, ne, _⟩ := starts
  have notEmpty : (skipBlanks cs).head? ≠ some (.char ']') := by
    rw [skipped]
    exact mt Option.some.inj ne
  rw [value_bracket, if_neg notEmpty, read]
  rfl

/-- A list is read back if its items are. -/
lemma readsBack_list {items : List Value} (readsBack : ∀ v ∈ items, ReadsBack levels v) :
    ReadsBack (levels + 1) (.list items) := by
  cases items with
  | nil =>
    refine ⟨fun level rest => ⟨_, _, rfl, rfl, by decide⟩, fun level fuel rest enough _ => ?_⟩
    cases fuel with
    | zero => exact absurd enough (by simp [writeValue])
    | succ fuel => rfl
  | cons v items =>
    refine ⟨fun level rest => ⟨_, _, by rw [writeValue]; rfl, rfl, by decide⟩,
      fun level fuel rest enough _ => ?_⟩
    rw [writeValue, List.length_append, List.length_append, List.length_cons] at enough
    cases fuel with
    | zero => exact absurd enough (by simp)
    | succ fuel =>
      have text_eq : Text.ofChars (writeValue level (.list (v :: items))) ++ rest =
          .char '[' :: (Text.ofChars (writeItems (level + 1) (v :: items)) ++
            ending level ']' rest) := by
        simp [writeValue, ending]
      have starts : StartsValue (skipBlanks (Text.ofChars (writeItems (level + 1) (v :: items)) ++
          ending level ']' rest)) := by
        have first := (List.forall_mem_cons.1 readsBack).1.starts (level + 1)
        simp only [writeItems, Text.ofChars_append, List.append_assoc]
        rw [skipBlanks_newline, (first _).skipBlanks]
        exact first _
      rw [text_eq]
      exact value_list starts
        (items_written readsBack (List.cons_ne_nil _ _) (by omega) level rest)

/-- A map that is not empty is read by its members. -/
lemma value_map {fuel : Nat} {entries : List (Scalar × Value)} {more : Text}
    (skipped : skipBlanks cs = .char '"' :: more)
    (read : Json.members levels fuel (skipBlanks cs) = .ok (entries, rest)) :
    value (levels + 1) (fuel + 1) (.char '\x7b' :: cs) = .ok (.map (OrderedMap.putAll entries []), rest) := by
  have notEmpty : (skipBlanks cs).head? ≠ some (.char '\x7d') := by
    rw [skipped]
    exact mt Option.some.inj (by decide)
  rw [value_brace, if_neg notEmpty, read]
  rfl

/-- A map is read back if its values are. -/
lemma readsBack_object {members : List (Text × Value)} (separable : ∀ m ∈ members, IsSeparable m.1)
    (distinct : (members.map Prod.fst).Nodup) (readsBack : ∀ m ∈ members, ReadsBack levels m.2) :
    ReadsBack (levels + 1) (.object members) := by
  cases members with
  | nil =>
    refine ⟨fun level rest => ⟨_, _, rfl, rfl, by decide⟩, fun level fuel rest enough _ => ?_⟩
    cases fuel with
    | zero => exact absurd enough (by simp [Value.object, entriesOf, writeValue])
    | succ fuel => rfl
  | cons m members =>
    refine ⟨fun level rest => ⟨_, _, by rw [Value.object, entriesOf_cons, writeValue]; rfl, rfl,
      by decide⟩, fun level fuel rest enough _ => ?_⟩
    rw [Value.object, entriesOf_cons, writeValue, ← entriesOf_cons, List.length_append,
      List.length_append, List.length_cons] at enough
    cases fuel with
    | zero => exact absurd enough (by simp)
    | succ fuel =>
      have text_eq : Text.ofChars (writeValue level (.object (m :: members))) ++ rest =
          .char '\x7b' :: (Text.ofChars (writeMembers (level + 1) (entriesOf (m :: members))) ++
            ending level '\x7d' rest) := by
        simp [Value.object, entriesOf_cons, writeValue, ending]
      have starts : ∃ more, skipBlanks (Text.ofChars
          (writeMembers (level + 1) (entriesOf (m :: members))) ++ ending level '\x7d' rest) =
          .char '"' :: more := by
        simp only [entriesOf_cons, writeMembers, Text.ofChars_append, List.append_assoc]
        rw [skipBlanks_newline]
        exact ⟨_, rfl⟩
      obtain ⟨more, skipped⟩ := starts
      -- the reader puts the members in a map, which changes nothing as their names are distinct
      have put : OrderedMap.putAll (rereadEntries (entriesOf (m :: members))) [] =
          rereadEntries (entriesOf (m :: members)) := by
        rw [rereadEntries_entriesOf]
        refine (putAll_entriesOf _ []).trans (congrArg entriesOf (OrderedMap.putAll_of_nodup ?_))
        rw [List.map_map]
        exact distinct
      rw [text_eq, Value.object, Value.reread, ← put]
      exact value_map skipped
        (members_written separable readsBack (List.cons_ne_nil _ _) (by omega) level rest)

/-- A scalar that can be written is read back. -/
lemma readsBack_scalar {s : Scalar} (writable : IsWritableScalar s) : ReadsBack levels (.scalar s) := by
  cases s with
  | null => exact readsBack_of_simple fun _ _ => rfl
  | bool b =>
    cases b with
    | true => exact readsBack_of_simple fun _ _ => rfl
    | false => exact readsBack_of_simple fun _ _ => rfl
  | int n => exact readsBack_of_simple fun _ ends => simple_int writable ends
  | float x => exact readsBack_of_simple fun _ ends => simple_float x ends
  | text t => exact readsBack_text writable
  | foreign o => exact writable.elim

/-- What can be written is read back. -/
lemma readsBack_of_isWritable (writable : IsWritable levels v) : ReadsBack levels v := by
  induction writable with
  | scalar writable => exact readsBack_scalar writable
  | list all ih => exact readsBack_list ih
  | object separable distinct all ih => exact readsBack_object separable distinct ih

/-- No number goes on with a blank. -/
lemma endsNumber_of_blank (blank : ∀ c ∈ rest, isBlank c = true) : EndsNumber rest := by
  cases rest with
  | nil => exact endsNumber_nil
  | cons c rest =>
    have first := (List.forall_mem_cons.1 blank).1
    simp only [isBlank, Bool.or_eq_true, decide_eq_true_eq] at first
    rcases first with ((rfl | rfl) | rfl) | rfl
    all_goals exact endsNumber_cons (by decide) (by decide)

/-- The document of a value is read as the value, whatever blanks follow it. -/
lemma parse_writeValue_append (writable : IsWritable levels v) (blank : ∀ c ∈ rest, isBlank c = true) :
    parse levels (Text.ofChars (writeValue 0 v) ++ rest) = .ok v.reread := by
  have readsBack := readsBack_of_isWritable writable
  have starts := readsBack.starts 0 rest
  have read := readsBack.read 0 (2 * (Text.ofChars (writeValue 0 v) ++ rest).length + 2) rest
    (by rw [List.length_append, List.length_map]; omega) (endsNumber_of_blank blank)
  have skipped : skipBlanks rest = [] := List.dropWhile_eq_nil_iff.2 blank
  have noMark : (Text.ofChars (writeValue 0 v) ++ rest).head? ≠ some (.char '\ufeff') := by
    obtain ⟨c, more, written, _, _, ne⟩ := starts
    rw [written]
    exact mt Option.some.inj ne
  rw [parse_eq_ok_iff, starts.skipBlanks]
  exact ⟨noMark, rest, read, skipped⟩

/-- The document of a value is read as the value. -/
lemma parse_writeValue (writable : IsWritable levels v) :
    parse levels (Text.ofChars (writeValue 0 v)) = .ok v.reread := by
  have none : ∀ c ∈ ([] : Text), isBlank c = true := fun c mem => absurd mem List.not_mem_nil
  have read := parse_writeValue_append writable none
  rw [List.append_nil] at read
  exact read

end CompileFlags.Json
