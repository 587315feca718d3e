import CompileFlags.Proofs.Json.Conforming

/-!
# What is read as JSON

Whatever is read from characters can be written again within as many levels (`isWritable_of_parse`): its
texts are separable, its whole numbers are short, and no name stands twice in a map.
-/

namespace CompileFlags.Json

variable {cs rest : Text} {levels fuel : Nat}

/-- What is left behind blanks and one more character is the end of the text. -/
lemma suffix_of_skipBlanks {c : CodePoint} (skipped : skipBlanks cs = c :: rest) : rest <:+ cs := by
  have suffix : skipBlanks cs <:+ cs := List.dropWhile_suffix _
  rw [skipped] at suffix
  exact (List.suffix_cons _ _).trans suffix

/-- What is left behind a separator is the end of the text. -/
lemma separator_suffix {closing : CodePoint} {goesOn : Bool}
    (read : separator closing cs = .ok (goesOn, rest)) : rest <:+ cs := by
  cases goesOn with
  | false => exact suffix_of_skipBlanks (separator_eq_closing_iff.1 read)
  | true =>
    obtain ⟨_, more, skipped, rfl⟩ := separator_eq_comma_iff.1 read
    exact (List.dropWhile_suffix _).trans (suffix_of_skipBlanks skipped)

/-- The name of a member is separable, and what is left is the end of the text. -/
lemma isSeparable_of_memberName {name : Text} (hasBytes : cs.HasBytes)
    (read : memberName cs = .ok (name, rest)) : IsSeparable name ∧ rest <:+ cs := by
  obtain ⟨quoted, behind, after, rfl, string_eq, skipped, rfl⟩ := memberName_eq_ok_iff.1 read
  obtain ⟨separable, suffix⟩ :=
    isSeparable_of_string (fun c mem => hasBytes c (List.mem_cons_of_mem _ mem)) string_eq
  have afterColon := (List.dropWhile_suffix isBlank).trans (suffix_of_skipBlanks skipped)
  exact ⟨separable, (afterColon.trans suffix).trans (List.suffix_cons _ _)⟩

/-- Whether what is read has a property, and characters are left. -/
def Gives {α : Type} (reading : Reading α) (P : α → Prop) : Prop :=
  ∀ a rest, reading = .ok (a, rest) → P a ∧ Text.HasBytes rest

/-- The end of a text of characters holds characters. -/
lemma hasBytes_of_suffix (suffix : rest <:+ cs) (hasBytes : cs.HasBytes) : rest.HasBytes :=
  fun c mem => hasBytes c (suffix.subset mem)

/-- Members that may be written, as entries. -/
def AreMembers (levels : Nat) (entries : List (Scalar × Value)) : Prop :=
  ∃ members, entries = entriesOf members ∧ ∀ m ∈ members, IsSeparable m.1 ∧ IsWritable levels m.2

/-- Members make a map that can be written, whichever of them have the same name. -/
lemma AreMembers.isWritable {entries : List (Scalar × Value)} (areMembers : AreMembers levels entries) :
    IsWritable (levels + 1) (.map (OrderedMap.putAll entries [])) := by
  obtain ⟨members, rfl, all⟩ := areMembers
  have put : OrderedMap.putAll (entriesOf members) [] = entriesOf (OrderedMap.putAll members []) :=
    putAll_entriesOf members []
  rw [put]
  exact .object_of_forall levels.succ_pos (OrderedMap.nodup_putAll members List.nodup_nil) fun m mem =>
    all m ((OrderedMap.mem_putAll mem).resolve_right List.not_mem_nil)

/-- Whether values, items and members that are read with so much fuel can be written. -/
structure GivesWritable (fuel : Nat) : Prop where
  value : ∀ levels cs, Text.HasBytes cs → Gives (value levels fuel cs) (IsWritable levels)
  items : ∀ levels cs, Text.HasBytes cs → Gives (items levels fuel cs) (∀ v ∈ ·, IsWritable levels v)
  members : ∀ levels cs, Text.HasBytes cs → Gives (members levels fuel cs) (AreMembers levels)

/-- A value that is read can be written if its parts can. -/
lemma GivesWritable.value_succ (given : GivesWritable fuel) (hasBytes : cs.HasBytes) :
    Gives (Json.value levels (fuel + 1) cs) (IsWritable levels) := by
  have inside {c : CodePoint} {more : Text} (hasBytes : Text.HasBytes (c :: more)) :
      Text.HasBytes (skipBlanks more) :=
    hasBytes_of_suffix ((List.dropWhile_suffix _).trans (List.suffix_cons _ _)) hasBytes
  intro v rest read
  cases readsValue_of_value read with
  | string string_eq =>
    have hasBytes := hasBytes_of_suffix (List.suffix_cons _ _) hasBytes
    obtain ⟨separable, suffix⟩ := isSeparable_of_string hasBytes string_eq
    exact ⟨.scalar separable, hasBytes_of_suffix suffix hasBytes⟩
  | emptyList skipped =>
    have hasBytes := hasBytes_of_suffix (suffix_of_skipBlanks skipped)
      (hasBytes_of_suffix (List.suffix_cons _ _) hasBytes)
    exact ⟨.list (List.forall_mem_nil _), hasBytes⟩
  | list items_eq =>
    obtain ⟨all, hasBytes⟩ := given.items _ _ (inside hasBytes) _ _ items_eq
    exact ⟨.list all, hasBytes⟩
  | @emptyMap levels _ skipped =>
    have hasBytes := hasBytes_of_suffix (suffix_of_skipBlanks skipped)
      (hasBytes_of_suffix (List.suffix_cons _ _) hasBytes)
    have none : AreMembers levels [] := ⟨[], rfl, List.forall_mem_nil _⟩
    exact ⟨none.isWritable, hasBytes⟩
  | map members_eq =>
    obtain ⟨areMembers, hasBytes⟩ := given.members _ _ (inside hasBytes) _ _ members_eq
    exact ⟨areMembers.isWritable, hasBytes⟩
  | simple simple_eq =>
    obtain ⟨⟨s, rfl, writable⟩, part, _, rfl⟩ := exists_conforms_of_simple levels simple_eq
    exact ⟨.scalar writable, hasBytes_of_suffix (List.suffix_append _ _) hasBytes⟩

/-- What an item or a member is followed by has a property that one alone has, and that one and others
have if the others do. -/
lemma gives_followed {α : Type} {P : List α → Prop} {closing : CodePoint}
    {others : Text → Reading (List α)} {a : α} (hasBytes : cs.HasBytes)
    (given : ∀ after, Text.HasBytes after → Gives (others after) P) (one : P [a])
    (more : ∀ as, P as → P (a :: as)) : Gives (followed closing others a cs) P := by
  intro as rest read
  obtain ⟨separator_eq, rfl⟩ | ⟨after, as, separator_eq, others_eq, rfl⟩ := followed_eq_ok_iff.1 read
  · exact ⟨one, hasBytes_of_suffix (separator_suffix separator_eq) hasBytes⟩
  · have hasBytes := hasBytes_of_suffix (separator_suffix separator_eq) hasBytes
    obtain ⟨holds, hasBytes⟩ := given after hasBytes _ _ others_eq
    exact ⟨more as holds, hasBytes⟩

/-- Items that are read can be written if each value can. -/
lemma GivesWritable.items_succ (given : GivesWritable fuel) (hasBytes : cs.HasBytes) :
    Gives (Json.items levels (fuel + 1) cs) (∀ v ∈ ·, IsWritable levels v) := by
  intro vs rest read
  rw [Json.items_succ] at read
  obtain ⟨v, after, value_eq, behind⟩ := andThen_eq_ok_iff.1 read
  obtain ⟨writable, hasBytes⟩ := given.value _ cs hasBytes _ _ value_eq
  exact gives_followed hasBytes (given.items levels) (List.forall_mem_singleton.2 writable)
    (fun _ all => List.forall_mem_cons.2 ⟨writable, all⟩) vs rest behind

/-- Members that are read can be written if each value can. -/
lemma GivesWritable.members_succ (given : GivesWritable fuel) (hasBytes : cs.HasBytes) :
    Gives (Json.members levels (fuel + 1) cs) (AreMembers levels) := by
  intro entries rest read
  rw [Json.members_succ] at read
  obtain ⟨name, afterName, name_eq, behindName⟩ := andThen_eq_ok_iff.1 read
  obtain ⟨separable, suffix⟩ := isSeparable_of_memberName hasBytes name_eq
  have hasBytes := hasBytes_of_suffix suffix hasBytes
  obtain ⟨v, after, value_eq, behind⟩ := andThen_eq_ok_iff.1 behindName
  obtain ⟨writable, hasBytes⟩ := given.value _ _ hasBytes _ _ value_eq
  refine gives_followed hasBytes (given.members levels)
    ⟨[(name, v)], rfl, List.forall_mem_singleton.2 ⟨separable, writable⟩⟩ ?_ entries rest behind
  rintro _ ⟨members, rfl, all⟩
  exact ⟨(name, v) :: members, rfl, List.forall_mem_cons.2 ⟨⟨separable, writable⟩, all⟩⟩

/-- Whatever is read can be written, with any amount of fuel. -/
lemma givesWritable (fuel : Nat) : GivesWritable fuel := by
  induction fuel with
  | zero =>
    have nothing {α : Type} {P : α → Prop} (fault : Fault) : Gives (.error fault) P :=
      fun _ _ read => absurd read (by simp)
    exact ⟨fun _ _ _ => nothing _, fun _ _ _ => nothing _, fun _ _ _ => nothing _⟩
  | succ fuel ih =>
    exact ⟨fun _ _ => ih.value_succ, fun _ _ => ih.items_succ, fun _ _ => ih.members_succ⟩

/-- What a document of characters holds can be written. -/
theorem isWritable_of_parse {text : Text} {v : Value} (hasBytes : text.HasBytes)
    (read : parse levels text = .ok v) : IsWritable levels v := by
  obtain ⟨_, rest, value_eq, _⟩ := parse_eq_ok_iff.1 read
  have hasBytes := hasBytes_of_suffix (List.dropWhile_suffix isBlank) hasBytes
  exact ((givesWritable _).value _ _ hasBytes _ _ value_eq).1

end CompileFlags.Json
