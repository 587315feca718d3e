import CompileFlags.Proofs.Path.Normal
import Mathlib.Logic.Function.Iterate

/-!
# The directories above a path

Going from a path to its parent takes the last name away, and stays at the root once it is reached;
so the directories above a path are known by how many names are taken away (`Absolute.up`). A
directory with a slash at its end begins the text of a path exactly if it is one of them
(`covers_iff_up`): whole names are compared, though the texts are. Of these directories the nearer
one has the longer text.
-/

namespace CompileFlags.Path

/-- A path with no slash at its end, unless it has nothing but slashes. -/
def IsTrimmed (p : Text) : Prop := p.all (· = .char '/') = true ∨ endsInSlash p = false

/-- Nothing ends in a slash unless its last part does. -/
lemma endsInSlash_append {p : Text} (ne : p ≠ []) (above : Text) :
    endsInSlash (above ++ p) = endsInSlash p := by
  rw [endsInSlash, endsInSlash, List.getLast?_append_of_ne_nil _ ne]

/-- A text without slashes does not end in one. -/
lemma endsInSlash_of_no_slash {p : Text} (no : .char '/' ∉ p) : endsInSlash p = false := by
  cases h : p.getLast? with
  | none => rw [endsInSlash, h]; rfl
  | some c =>
    have ne : c ≠ .char '/' := fun e => no (e ▸ List.mem_of_getLast? h)
    rw [endsInSlash, h]
    simpa using ne

/-- Without the slashes at its end, a text does not end in a slash. -/
lemma endsInSlash_trimSlashes (p : Text) : endsInSlash (trimSlashes p) = false := by
  rw [endsInSlash, trimSlashes, List.getLast?_reverse]
  have head := List.head?_dropWhile_not (· = CodePoint.char '/') p.reverse
  cases h : (p.reverse.dropWhile (· = CodePoint.char '/')).head? with
  | none => rfl
  | some c =>
    rw [h] at head
    simpa using head

/-- A text that does not end in a slash has none to lose. -/
lemma trimSlashes_of_not_endsInSlash {p : Text} (ends : endsInSlash p = false) :
    trimSlashes p = p := by
  rw [endsInSlash, ← List.head?_reverse] at ends
  rw [trimSlashes]
  cases h : p.reverse with
  | nil => exact (List.reverse_eq_nil_iff.1 h).symm
  | cons c rest =>
    rw [h] at ends
    have ne : c ≠ .char '/' := by simpa using ends
    rw [List.dropWhile_cons_of_neg (by simpa using ne), ← h, List.reverse_reverse]

/-- A slash at the end is lost with those before it. -/
lemma trimSlashes_append_slash (p : Text) : trimSlashes (p ++ [.char '/']) = trimSlashes p := by
  rw [trimSlashes, List.reverse_append, List.reverse_singleton, List.singleton_append,
    List.dropWhile_cons_of_pos (by simp), trimSlashes]

/-- The directory part of a path is trimmed. -/
lemma isTrimmed_parent (p : Text) : IsTrimmed (parent p) := by
  rw [parent]
  split
  · rename_i all
    exact .inl all
  · exact .inr (endsInSlash_trimSlashes _)

/-- A slash is added to a path that does not end in one and is not empty. -/
lemma asDirectory_eq (p : Text) :
    asDirectory p = if p = [] ∨ endsInSlash p = true then p else p ++ [.char '/'] := by
  rw [asDirectory, join, if_neg (by decide)]
  simp

/-- A path with a slash at its end is empty or ends in a slash. -/
lemma asDirectory_eq_nil_or (p : Text) : asDirectory p = [] ∨ endsInSlash (asDirectory p) = true := by
  rw [asDirectory_eq]
  split
  · rename_i h
    exact h
  · right
    rw [endsInSlash_append (List.cons_ne_nil _ _)]
    rfl

/-- Between a directory with a slash at its end and the end of a path there is one name, and the
directory is the parent of the path. -/
lemma IsTrimmed.parent_append {p last : Text} (trimmed : IsTrimmed p) (no : .char '/' ∉ last) :
    parent (asDirectory p ++ last) = p := by
  have skipped : ((asDirectory p ++ last).reverse.dropWhile (· ≠ CodePoint.char '/')).reverse =
      asDirectory p := by
    -- read from its end, the path is the name, and behind it the slash of the directory
    have skip : ∀ c ∈ last.reverse, decide (c ≠ CodePoint.char '/') = true := by
      intro c mem
      have ne : c ≠ .char '/' := fun e => no (e ▸ List.mem_reverse.1 mem)
      exact decide_eq_true ne
    rw [List.reverse_append, List.dropWhile_append_of_pos skip]
    cases asDirectory_eq_nil_or p with
    | inl h => rw [h]; rfl
    | inr h =>
      rw [endsInSlash, ← List.head?_reverse] at h
      cases e : (asDirectory p).reverse with
      | nil => exact (List.reverse_eq_nil_iff.1 e).symm
      | cons c rest =>
        rw [e] at h
        have eq : c = .char '/' := by simpa using h
        rw [List.dropWhile_cons_of_neg (by simpa using eq), ← e, List.reverse_reverse]
  rw [parent, skipped]
  by_cases all : p.all (· = .char '/') = true
  · have same : asDirectory p = p := by
      rw [asDirectory_eq, if_pos]
      cases List.eq_nil_or_concat p with
      | inl h => exact .inl h
      | inr h =>
        obtain ⟨above, c, rfl⟩ := h
        right
        rw [List.all_eq_true] at all
        have eq := all c (by simp)
        rw [List.concat_eq_append, endsInSlash_append (List.cons_ne_nil _ _)]
        simpa [endsInSlash] using eq
    rw [same, if_pos all]
  · have ends := trimmed.resolve_left all
    have ne : p ≠ [] := fun e => all (e ▸ rfl)
    rw [asDirectory_eq, if_neg (not_or.2 ⟨ne, by simp [ends]⟩), if_neg, trimSlashes_append_slash,
      trimSlashes_of_not_endsInSlash ends]
    rw [List.all_append]
    simpa using all

/-- Trimmed paths that agree with a slash at their end agree without. -/
lemma IsTrimmed.asDirectory_inj {p q : Text} (trimmedP : IsTrimmed p) (trimmedQ : IsTrimmed q) :
    asDirectory p = asDirectory q ↔ p = q := by
  constructor
  · intro e
    have parents : parent (asDirectory p ++ []) = parent (asDirectory q ++ []) := by rw [e]
    rwa [trimmedP.parent_append List.not_mem_nil, trimmedQ.parent_append List.not_mem_nil] at parents
  · exact congrArg asDirectory

namespace Absolute

/-- The path above which so many names have been taken away; at the root there is none to take. -/
def up (a : Absolute) (n : Nat) : Absolute :=
  { a with names := a.names.take (a.names.length - n) }

variable {a b : Absolute}

/-- The root ends in a slash. -/
lemma endsInSlash_start (a : Absolute) : endsInSlash a.start = true := by
  obtain ⟨e, _⟩ | ⟨e, _⟩ := a.start_eq
  · rw [e]; rfl
  · rw [e]; rfl

/-- With a slash at its end, the text of a path is its root and its trail. -/
lemma IsProper.asDirectory_text (proper : a.IsProper) :
    asDirectory a.text = a.start ++ trail a.names := by
  rw [asDirectory_eq, text_eq]
  cases List.eq_nil_or_concat a.names with
  | inl h =>
    rw [h, if_pos]
    · rfl
    · right
      rw [show joinNames [] = [] from rfl, List.append_nil]
      exact a.endsInSlash_start
  | inr h =>
    obtain ⟨above, last, h⟩ := h
    rw [List.concat_eq_append] at h
    have isName := proper last (h ▸ List.mem_append_right _ List.mem_cons_self)
    have ends : endsInSlash (a.start ++ joinNames a.names) = false := by
      rw [h, joinNames_concat, ← List.append_assoc, endsInSlash_append isName.ne_empty]
      exact endsInSlash_of_no_slash isName.no_slash
    rw [if_neg, List.append_assoc, ← trail_eq_joinNames]
    · rw [h]; simp
    · rw [not_or, ends]
      exact ⟨by obtain ⟨e, _⟩ | ⟨e, _⟩ := a.start_eq <;> simp [e], Bool.false_ne_true⟩

/-- The text of a path has no slash at its end but that of the root. -/
lemma IsProper.isTrimmed_text (proper : a.IsProper) : IsTrimmed a.text := by
  rw [text_eq]
  cases List.eq_nil_or_concat a.names with
  | inl h =>
    left
    rw [h]
    obtain ⟨e, _⟩ | ⟨e, _⟩ := a.start_eq
    · rw [e]; rfl
    · rw [e]; rfl
  | inr h =>
    right
    obtain ⟨above, last, h⟩ := h
    rw [List.concat_eq_append] at h
    have isName := proper last (h ▸ List.mem_append_right _ List.mem_cons_self)
    rw [h, joinNames_concat, ← List.append_assoc, endsInSlash_append isName.ne_empty]
    exact endsInSlash_of_no_slash isName.no_slash

/-- Taking names away leaves names. -/
lemma isProper_up (proper : a.IsProper) (n : Nat) : (a.up n).IsProper :=
  fun name mem => proper name (List.take_subset _ _ mem)

/-- Names can be taken away in two goes. -/
lemma up_up (a : Absolute) (m n : Nat) : (a.up m).up n = a.up (m + n) := by
  simp only [up, List.length_take, List.take_take]
  congr 2
  omega

/-- The text of a path is its parent with a slash at the end, and a last name; at the root, that
name is empty. -/
lemma IsProper.text_eq_parent (proper : a.IsProper) :
    ∃ last, a.text = asDirectory (a.up 1).text ++ last ∧ .char '/' ∉ last := by
  rw [(isProper_up proper 1).asDirectory_text]
  cases List.eq_nil_or_concat a.names with
  | inl h =>
    refine ⟨[], ?_, List.not_mem_nil⟩
    rw [text_eq, h, up, h]
    exact (List.append_nil _).symm
  | inr h =>
    obtain ⟨above, last, h⟩ := h
    rw [List.concat_eq_append] at h
    refine ⟨last, ?_, proper.no_slash last (h ▸ List.mem_append_right _ List.mem_cons_self)⟩
    have names_eq : (a.up 1).names = above := by
      rw [up, h]
      simp
    rw [names_eq, text_eq, h, joinNames_concat, List.append_assoc]
    rfl

/-- The parent of a path has one name less. -/
lemma IsProper.parent_text (proper : a.IsProper) : parent a.text = (a.up 1).text := by
  obtain ⟨last, e, no⟩ := proper.text_eq_parent
  rw [e, (isProper_up proper 1).isTrimmed_text.parent_append no]

/-- Going up step by step takes away one name after the other. -/
lemma IsProper.parent_iterate_text (proper : a.IsProper) (n : Nat) :
    parent^[n] a.text = (a.up n).text := by
  induction n with
  | zero =>
    rw [Function.iterate_zero_apply, up, Nat.sub_zero, List.take_length]
  | succ n ih =>
    rw [Function.iterate_succ_apply', ih, (isProper_up proper n).parent_text, up_up]

end Absolute

/-- A normal form has no slash at its end but that of the root. -/
lemma IsNormal.isTrimmed {p : Text} (normal : IsNormal p) : IsTrimmed p := by
  obtain ⟨a, proper, rfl⟩ := isNormal_iff.1 normal
  exact proper.isTrimmed_text

/-- The directory part of a normal form is a normal form. -/
lemma IsNormal.isNormal_parent {p : Text} (normal : IsNormal p) : IsNormal (parent p) := by
  obtain ⟨a, proper, rfl⟩ := isNormal_iff.1 normal
  rw [proper.parent_text]
  exact (Absolute.isProper_up proper 1).isNormal_text

/-- With a slash at its end, a normal form does end in one. -/
lemma IsNormal.endsInSlash_asDirectory {p : Text} (normal : IsNormal p) :
    endsInSlash (asDirectory p) = true := by
  obtain ⟨a, proper, rfl⟩ := isNormal_iff.1 normal
  cases asDirectory_eq_nil_or a.text with
  | inl nil =>
    rw [proper.asDirectory_text] at nil
    have start := (List.append_eq_nil_iff.1 nil).1
    have ends := a.endsInSlash_start
    rw [start] at ends
    exact absurd ends (by decide)
  | inr ends => exact ends

namespace Absolute

variable {a b : Absolute}

/-- A path whose names begin those of another is reached from it by going up. -/
lemma exists_eq_up (doubled : a.doubled = b.doubled) (names : a.names <+: b.names) :
    ∃ n, a = b.up n := by
  refine ⟨b.names.length - a.names.length, ?_⟩
  have len := names.length_le
  have names_eq := List.prefix_iff_eq_take.1 names
  rw [up, ← doubled, Nat.sub_sub_self len, ← names_eq]

/-- Going up leaves a beginning of the names. -/
lemma names_up_isPrefix (a : Absolute) (n : Nat) : (a.up n).names <+: a.names :=
  List.take_prefix _ _

/-- The text of a path below the single root does not begin with two slashes. -/
lemma IsProper.doubled_eq_false_iff (proper : a.IsProper) :
    a.doubled = false ↔ ¬ [.char '/', .char '/'] <+: a.text := by
  rw [text_eq]
  obtain ⟨e, doubled⟩ | ⟨e, doubled⟩ := a.start_eq
  · simp only [e, doubled, true_iff]
    rintro ⟨more, h⟩
    exact absurd rfl (proper.joinNames_head (List.cons.inj h).2.symm)
  · simp [e, doubled]

/-- With a slash at its end, the text of a directory begins the text of a path below the single root
exactly if the directory is reached from the parent of the path by going up. -/
lemma IsProper.covers_iff_up (properA : a.IsProper) (properB : b.IsProper)
    (single : b.doubled = false) :
    covers (asDirectory a.text) b.text = true ↔ ∃ n, a = b.up (n + 1) := by
  obtain ⟨last, textB, no⟩ := properB.text_eq_parent
  have properUp := isProper_up properB 1
  have trails := trail_isPrefix_iff properA.no_slash properUp.no_slash no
  have startB : (b.up 1).start = [.char '/'] := by rw [start, up, single]; rfl
  rw [properUp.asDirectory_text, List.append_assoc, startB] at textB
  rw [covers, List.isPrefixOf_iff_prefix, properA.asDirectory_text]
  obtain ⟨startA, singleA⟩ | ⟨startA, doubledA⟩ := a.start_eq
  · rw [startA, textB, List.prefix_append_right_inj, trails]
    constructor
    · intro h
      obtain ⟨n, rfl⟩ := exists_eq_up (b := b.up 1) (singleA.trans single.symm) h
      exact ⟨n, by rw [up_up, Nat.add_comm]⟩
    · rintro ⟨n, rfl⟩
      rw [Nat.add_comm, ← up_up]
      exact names_up_isPrefix _ n
  · constructor
    · intro h
      rw [startA] at h
      exact absurd ((List.prefix_append _ _).trans h) (properB.doubled_eq_false_iff.1 single)
    · rintro ⟨n, rfl⟩
      exact absurd (doubledA.symm.trans single) Bool.noConfusion

/-- The directory with more names taken away has the shorter text. -/
lemma IsProper.asDirectory_up_isPrefix (proper : a.IsProper) {m n : Nat} (le : m ≤ n) :
    asDirectory (a.up n).text <+: asDirectory (a.up m).text := by
  obtain ⟨k, rfl⟩ := Nat.exists_eq_add_of_le le
  obtain ⟨others, names_eq⟩ := names_up_isPrefix (a.up m) k
  rw [← up_up, (isProper_up (isProper_up proper m) k).asDirectory_text,
    (isProper_up proper m).asDirectory_text, ← names_eq, trail_append]
  exact ⟨trail others, List.append_assoc _ _ _⟩

end Absolute

end CompileFlags.Path
