import CompileFlags.Proofs.Path.Parent

/-!
# The nearest directory

Of all things whose directory covers a file, one with a longest directory is nearest; none is nearest
exactly if none covers the file (`nearest?_eq_none_iff`). Directories that cover the same file begin
the same text, so those of one length are the same directory, and the first of the things that have it
is nearest (`nearest?_eq_of_find?`).
-/

namespace CompileFlags.Path

variable {α : Type} {directory : α → Text} {file : Text} {things : List α} {thing : α}

/-- Nothing is nearest exactly if nothing covers the file. -/
lemma nearest?_eq_none_iff :
    nearest? directory file things = none ↔
      ∀ thing ∈ things, covers (directory thing) file = false := by
  rw [nearest?, ← Option.not_isSome_iff_eq_none, List.isSome_maxOn?_iff, not_not,
    List.filter_eq_nil_iff]
  simp only [Bool.not_eq_true]

/-- What is nearest is one of the things. -/
lemma mem_of_nearest? (nearest : nearest? directory file things = some thing) : thing ∈ things :=
  (List.mem_filter.1 (List.maxOn?_mem nearest)).1

/-- What is nearest covers the file. -/
lemma covers_of_nearest? (nearest : nearest? directory file things = some thing) :
    covers (directory thing) file = true :=
  (List.mem_filter.1 (List.maxOn?_mem nearest)).2

/-- Nothing that covers the file is longer than what is nearest. -/
lemma length_le_of_nearest? (nearest : nearest? directory file things = some thing) {other : α}
    (mem : other ∈ things) (covered : covers (directory other) file = true) :
    (directory other).length ≤ (directory thing).length := by
  have kept : other ∈ things.filter fun thing => covers (directory thing) file :=
    List.mem_filter.2 ⟨mem, covered⟩
  have le := List.le_apply_get_maxOn?_of_mem (f := fun thing => (directory thing).length) kept
  rw [nearest?] at nearest
  simpa only [nearest, Option.get_some] using le

/-- Of two directories that cover a file, the shorter begins the longer. -/
lemma isPrefix_of_covers {above below : Text} (coversAbove : covers above file = true)
    (coversBelow : covers below file = true) (le : above.length ≤ below.length) :
    above <+: below := by
  rw [covers, List.isPrefixOf_iff_prefix] at coversAbove coversBelow
  exact List.prefix_of_prefix_length_le coversAbove coversBelow le

/-- Directories of one length that cover the same file are the same. -/
lemma eq_of_covers {above below : Text} (coversAbove : covers above file = true)
    (coversBelow : covers below file = true) (eq : above.length = below.length) : above = below :=
  (isPrefix_of_covers coversAbove coversBelow (Nat.le_of_eq eq)).eq_of_length eq

/-- Of things with the longest directory that covers a file, the first one is nearest. -/
lemma nearest?_eq_of_find? {root : Text} (covered : covers root file = true)
    (longest : ∀ thing ∈ things, covers (directory thing) file = true →
      (directory thing).length ≤ root.length)
    (found : things.find? (directory · = root) = some thing) :
    nearest? directory file things = some thing := by
  rw [nearest?]
  induction things with
  | nil => exact absurd found (Option.some_ne_none thing).symm
  | cons first things ih =>
    obtain ⟨firstLe, longest⟩ := List.forall_mem_cons.1 longest
    by_cases same : directory first = root
    · -- nothing behind it is longer, and of equals the first one stays
      rw [List.find?_cons_of_pos (by simpa using same)] at found
      obtain rfl := Option.some.inj found
      rw [List.filter_cons_of_pos (by rw [same, covered]), List.maxOn?_cons]
      cases nearest : (things.filter fun thing => covers (directory thing) file).maxOn?
          fun thing => (directory thing).length with
      | none => rfl
      | some other =>
        obtain ⟨mem, covers⟩ := List.mem_filter.1 (List.maxOn?_mem nearest)
        exact congrArg some (maxOn_eq_left (same ▸ longest other mem covers))
    · rw [List.find?_cons_of_neg (by simpa using same)] at found
      have rest := ih longest found
      by_cases coversFirst : covers (directory first) file = true
      · have ne : (directory first).length ≠ root.length := fun eq =>
          same (eq_of_covers coversFirst covered eq)
        have isRoot : directory thing = root := by simpa using List.find?_some found
        rw [List.filter_cons, if_pos coversFirst, List.maxOn?_cons, rest]
        have lt := Nat.lt_of_le_of_ne (firstLe coversFirst) ne
        rw [← isRoot] at lt
        exact congrArg some (maxOn_eq_right (Nat.not_le.2 lt))
      · rw [List.filter_cons, if_neg coversFirst]
        exact rest

/-- A directory with a slash at its end covers the files that lie in it. -/
lemma IsNormal.covers_parent (normal : IsNormal file) :
    covers (asDirectory (parent file)) file = true := by
  obtain ⟨a, proper, rfl⟩ := isNormal_iff.1 normal
  obtain ⟨last, text_eq, _⟩ := proper.text_eq_parent
  rw [proper.parent_text, covers, List.isPrefixOf_iff_prefix, text_eq]
  exact List.prefix_append _ _

/-- No directory that covers a file is longer than the one that the file lies in. -/
lemma IsNormal.length_le_of_covers (normal : IsNormal file) {above : Text}
    (covered : covers (asDirectory above) file = true) :
    (asDirectory above).length ≤ (asDirectory (parent file)).length := by
  by_contra gt
  have longer := Nat.lt_of_not_le gt
  obtain ⟨more, above_eq⟩ := isPrefix_of_covers normal.covers_parent covered (Nat.le_of_lt longer)
  obtain ⟨a, proper, rfl⟩ := isNormal_iff.1 normal
  obtain ⟨last, text_eq, no⟩ := proper.text_eq_parent
  rw [proper.parent_text] at above_eq longer
  have ne : more ≠ [] := by
    rintro rfl
    rw [← above_eq, List.append_nil] at longer
    exact Nat.lt_irrefl _ longer
  -- what is longer ends within the last name, where there is no slash
  have noMore : .char '/' ∉ more := by
    rw [covers, List.isPrefixOf_iff_prefix, text_eq, ← above_eq, List.prefix_append_right_inj]
      at covered
    exact fun mem => no (covered.subset mem)
  have ends : endsInSlash (asDirectory above) = false := by
    rw [← above_eq, endsInSlash_append ne, endsInSlash_of_no_slash noMore]
  cases asDirectory_eq_nil_or above with
  | inl h =>
    rw [h] at longer
    exact Nat.not_lt_zero _ longer
  | inr h => exact Bool.false_ne_true (ends.symm.trans h)

end CompileFlags.Path
