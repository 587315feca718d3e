import CompileFlags.Text.Blank
import Mathlib.Data.List.Basic

/-!
# Unified line endings

A text and its form with unified line endings begin with the same character, or each with a line ending
(`Text.begins_unifyNewlines`). So what holds no character of a line ending stands in both texts or in
neither, and what is dropped or taken character by character is the same, if the two characters of a
line ending are treated alike. A text whose lines end in another way has the same unified form
(`Text.unifyNewlines_withEnding`).
-/

namespace CompileFlags.Text

variable {cs rest more front : Text} {c : CodePoint}

lemma unifyNewlines_cons (ne : c ≠ '\r') (rest : Text) :
    unifyNewlines (c :: rest) = c :: unifyNewlines rest := by
  rw [unifyNewlines.eq_def]
  split
  · rename_i e
    exact absurd e (by simp)
  · rename_i e
    exact absurd (List.cons.inj e).1 ne
  · rename_i e
    obtain ⟨rfl, rfl⟩ := List.cons.inj e
    rw [if_neg ne]

/-- How a text and its unified form begin: with nothing, with a line ending, or with one and the same
character. -/
inductive Begins : Text → Text → Prop where
  | nil : Begins [] []
  | ending {b : CodePoint} {rest more : Text} (isEnding : b = '\r' ∨ b = '\n') :
    Begins (b :: rest) (.char '\n' :: more)
  | other {c : CodePoint} {rest : Text} (noReturn : c ≠ '\r') (noFeed : c ≠ '\n') :
    Begins (c :: rest) (c :: unifyNewlines rest)

lemma begins_unifyNewlines (cs : Text) : Begins cs (unifyNewlines cs) := by
  cases cs with
  | nil => exact .nil
  | cons c rest =>
    by_cases isReturn : c = '\r'
    · subst isReturn
      rw [unifyNewlines.eq_def]
      split
      · rename_i e
        exact absurd e (by simp)
      · exact .ending (.inl rfl)
      · rename_i e
        obtain ⟨rfl, rfl⟩ := List.cons.inj e
        rw [if_pos rfl]
        exact .ending (.inl rfl)
    · rw [unifyNewlines_cons isReturn]
      by_cases isFeed : c = '\n'
      · subst isFeed
        exact .ending (.inr rfl)
      · exact .other isReturn isFeed

/-- A character other than a line feed stands where it stood. -/
lemma exists_cons_of_unifyNewlines (noFeed : c ≠ '\n') (unified : unifyNewlines cs = c :: more) :
    ∃ rest, cs = c :: rest ∧ unifyNewlines rest = more := by
  have begins := begins_unifyNewlines cs
  rw [unified] at begins
  cases begins with
  | ending => exact absurd rfl noFeed
  | other => exact ⟨_, rfl, rfl⟩

/-- What holds no carriage return stays, whatever follows it. -/
lemma unifyNewlines_append (none : .char '\r' ∉ front) (rest : Text) :
    unifyNewlines (front ++ rest) = front ++ unifyNewlines rest := by
  induction front with
  | nil => rfl
  | cons c front ih =>
    rw [List.mem_cons, not_or] at none
    rw [List.cons_append, unifyNewlines_cons (Ne.symm none.1), ih none.2, List.cons_append]

/-- What holds no line feed stands where it stood. -/
lemma exists_append_of_unifyNewlines (none : .char '\n' ∉ front)
    (unified : unifyNewlines cs = front ++ more) :
    ∃ rest, cs = front ++ rest ∧ unifyNewlines rest = more := by
  induction front generalizing cs with
  | nil => exact ⟨cs, rfl, unified⟩
  | cons c front ih =>
    rw [List.mem_cons, not_or] at none
    obtain ⟨others, rfl, others_eq⟩ := exists_cons_of_unifyNewlines (Ne.symm none.1) unified
    obtain ⟨rest, rfl, rest_eq⟩ := ih none.2 others_eq
    exact ⟨rest, rfl, rest_eq⟩

variable {p : CodePoint → Bool}

/-- Both characters of a line ending are dropped, or neither is. -/
lemma dropWhile_unifyNewlines (same : p '\r' = p '\n') (cs : Text) :
    (unifyNewlines cs).dropWhile p = unifyNewlines (cs.dropWhile p) := by
  induction cs using unifyNewlines.induct with
  | case1 => rfl
  | case2 rest ih =>
    rw [unifyNewlines, List.dropWhile_cons, List.dropWhile_cons, List.dropWhile_cons, same]
    split
    · exact ih
    · rw [unifyNewlines]
  | case3 c rest noPair ih =>
    by_cases isReturn : c = '\r'
    · subst isReturn
      rw [unifyNewlines, if_pos rfl, List.dropWhile_cons, List.dropWhile_cons, same]
      · split
        · exact ih
        · rw [unifyNewlines, if_pos rfl]
          exact noPair
      · exact noPair
    · rw [unifyNewlines_cons isReturn, List.dropWhile_cons, List.dropWhile_cons]
      split
      · exact ih
      · rw [unifyNewlines_cons isReturn]

lemma takeWhile_unifyNewlines (noReturn : p '\r' = false) (noFeed : p '\n' = false) (cs : Text) :
    (unifyNewlines cs).takeWhile p = cs.takeWhile p := by
  induction cs using unifyNewlines.induct with
  | case1 => rfl
  | case2 rest ih =>
    rw [unifyNewlines, List.takeWhile_cons_of_neg (by simp [noFeed]),
      List.takeWhile_cons_of_neg (by simp [noReturn])]
  | case3 c rest noPair ih =>
    by_cases isReturn : c = '\r'
    · subst isReturn
      rw [unifyNewlines, if_pos rfl, List.takeWhile_cons_of_neg (by simp [noFeed]),
        List.takeWhile_cons_of_neg (by simp [noReturn])]
      exact noPair
    · rw [unifyNewlines_cons isReturn, List.takeWhile_cons, List.takeWhile_cons, ih]

/-- A character that belongs to no line ending begins both texts, or neither. -/
lemma head?_unifyNewlines_iff (noReturn : c ≠ '\r') (noFeed : c ≠ '\n') :
    (unifyNewlines cs).head? = some c ↔ cs.head? = some c := by
  rw [List.head?_eq_some_iff, List.head?_eq_some_iff]
  constructor
  · rintro ⟨more, unified⟩
    obtain ⟨rest, cs_eq, _⟩ := exists_cons_of_unifyNewlines noFeed unified
    exact ⟨rest, cs_eq⟩
  · rintro ⟨rest, rfl⟩
    exact ⟨unifyNewlines rest, unifyNewlines_cons noReturn rest⟩

/-- What holds neither character of a line ending is in front of both texts, or of neither. -/
lemma isPrefixOf_unifyNewlines (noReturn : .char '\r' ∉ front) (noFeed : .char '\n' ∉ front) :
    front.isPrefixOf (unifyNewlines cs) = front.isPrefixOf cs := by
  rw [Bool.eq_iff_iff, List.isPrefixOf_iff_prefix, List.isPrefixOf_iff_prefix]
  constructor
  · rintro ⟨more, unified⟩
    obtain ⟨rest, rfl, _⟩ := exists_append_of_unifyNewlines noFeed unified.symm
    exact List.prefix_append front rest
  · rintro ⟨rest, rfl⟩
    rw [unifyNewlines_append noReturn]
    exact List.prefix_append front _

end CompileFlags.Text
