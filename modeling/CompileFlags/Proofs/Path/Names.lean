import CompileFlags.Path.Absolute
import Mathlib.Data.List.Basic

/-!
# Names and pieces

A path in normal form is a root and the names below it. A name is a piece that stands for itself: it
is not empty, it is neither `.` nor `..`, and no slash stands in it. The names from the root down to
some directory, each with a slash behind it, are the trail of that directory; joining names and
cutting a path into pieces are told through it. The trail of one directory begins the trail of
another exactly if the names of the one begin the names of the other (`trail_isPrefix_iff`), so
comparing texts and comparing names come to the same.
-/

namespace CompileFlags.Path

/-- A piece of a path that stands for itself. -/
structure IsName (name : Text) : Prop where
  ne_empty : name ≠ ""
  ne_here : name ≠ "."
  ne_above : name ≠ ".."
  no_slash : .char '/' ∉ name

/-- The way down from the root, with a slash behind each name. -/
def trail (names : List Text) : Text := names.flatMap (· ++ "/")

@[simp] lemma ofString_empty : Text.ofString "" = [] := rfl

@[simp] lemma ofString_slash : Text.ofString "/" = [.char '/'] := rfl

@[simp] lemma ofString_slashes : Text.ofString "//" = [.char '/', .char '/'] := rfl

/-- Every path has a piece, be it empty. -/
lemma pieces_ne_nil (p : Text) : pieces p ≠ [] := by
  induction p with
  | nil => exact List.cons_ne_nil _ _
  | cons c rest ih =>
    rw [pieces]
    split
    · exact List.cons_ne_nil _ _
    · cases h : pieces rest with
      | nil => exact absurd h ih
      | cons piece others => exact List.cons_ne_nil _ _

/-- No slash is left in a piece. -/
lemma no_slash_of_mem_pieces {p piece : Text} (mem : piece ∈ pieces p) :
    .char '/' ∉ piece := by
  induction p generalizing piece with
  | nil =>
    rw [pieces, List.mem_singleton] at mem
    exact mem ▸ List.not_mem_nil
  | cons c rest ih =>
    rw [pieces] at mem
    split at mem
    · cases mem with
      | head => exact List.not_mem_nil
      | tail _ mem => exact ih mem
    · rename_i ne
      cases h : pieces rest with
      | nil => exact absurd h (pieces_ne_nil rest)
      | cons first others =>
        rw [h] at mem ih
        cases mem with
        | head =>
          have notMem := ih List.mem_cons_self
          rw [List.mem_cons, not_or]
          exact ⟨fun e => ne e.symm, notMem⟩
        | tail _ mem => exact ih (List.mem_cons_of_mem _ mem)

/-- A text without slashes is one piece. -/
lemma pieces_of_no_slash {piece : Text} (no : .char '/' ∉ piece) :
    pieces piece = [piece] := by
  induction piece with
  | nil => rfl
  | cons c rest ih =>
    rw [List.mem_cons, not_or] at no
    rw [pieces, if_neg (Ne.symm no.1), ih no.2]
    rfl

/-- The first slash ends the first piece. -/
lemma pieces_append_slash {piece : Text} (no : .char '/' ∉ piece) (rest : Text) :
    pieces (piece ++ .char '/' :: rest) = piece :: pieces rest := by
  induction piece with
  | nil => rw [List.nil_append, pieces, if_pos rfl]
  | cons c piece ih =>
    rw [List.mem_cons, not_or] at no
    rw [List.cons_append, pieces, if_neg (Ne.symm no.1), ih no.2]
    rfl

@[simp] lemma trail_nil : trail [] = [] := rfl

@[simp] lemma trail_cons (name : Text) (names : List Text) :
    trail (name :: names) = name ++ .char '/' :: trail names := by
  simp [trail]

@[simp] lemma trail_append (above below : List Text) :
    trail (above ++ below) = trail above ++ trail below := by
  simp [trail]

/-- Joined names are the trail of all but the last, and the last. -/
lemma joinNames_concat (names : List Text) (last : Text) :
    joinNames (names ++ [last]) = trail names ++ last := by
  induction names with
  | nil => simp [joinNames, List.intercalate]
  | cons name names ih =>
    have step : joinNames (name :: (names ++ [last])) =
        name ++ .char '/' :: joinNames (names ++ [last]) := by
      cases names with
      | nil => simp [joinNames, List.intercalate]
      | cons next names => simp [joinNames, List.intercalate]
    rw [List.cons_append, step, ih, trail_cons, List.append_assoc, List.cons_append]

/-- A trail is the joined names, and a slash if there are any. -/
lemma trail_eq_joinNames {names : List Text} (ne : names ≠ []) :
    trail names = joinNames names ++ [.char '/'] := by
  obtain ⟨above, last, rfl⟩ := (List.eq_nil_or_concat names).resolve_left ne
  rw [List.concat_eq_append, joinNames_concat, trail_append]
  simp

/-- The pieces behind a trail are its names. -/
lemma pieces_trail_append {names : List Text} (no : ∀ name ∈ names, .char '/' ∉ name)
    (rest : Text) : pieces (trail names ++ rest) = names ++ pieces rest := by
  induction names with
  | nil => rfl
  | cons name names ih =>
    rw [trail_cons, List.append_assoc, List.cons_append,
      pieces_append_slash (no name List.mem_cons_self),
      ih fun other mem => no other (List.mem_cons_of_mem _ mem), List.cons_append]

/-- The trail of the pieces of a path is the path, with a slash behind it. -/
lemma trail_pieces (p : Text) : trail (pieces p) = p ++ [.char '/'] := by
  induction p with
  | nil => rfl
  | cons c rest ih =>
    rw [pieces]
    split
    · rename_i slash
      rw [trail_cons, ih, slash]
      rfl
    · obtain ⟨first, others, pieces_eq⟩ := List.exists_cons_of_ne_nil (pieces_ne_nil rest)
      rw [pieces_eq, trail_cons] at ih
      rw [pieces_eq, List.modifyHead_cons, trail_cons, List.cons_append, ih, List.cons_append]

/-- A slash ends a piece, whatever stands before it. -/
lemma pieces_append (above rest : Text) :
    pieces (above ++ .char '/' :: rest) = pieces above ++ pieces rest := by
  have behind := pieces_trail_append (fun _ => no_slash_of_mem_pieces (p := above)) rest
  rwa [trail_pieces, List.append_assoc] at behind

/-- The pieces of joined names are the names. -/
lemma pieces_joinNames {names : List Text} (ne : names ≠ [])
    (no : ∀ name ∈ names, .char '/' ∉ name) : pieces (joinNames names) = names := by
  obtain ⟨above, last, rfl⟩ := (List.eq_nil_or_concat names).resolve_left ne
  rw [List.concat_eq_append] at no ⊢
  rw [joinNames_concat, pieces_trail_append fun name mem => no name (List.mem_append_left _ mem),
    pieces_of_no_slash (no last (List.mem_append_right _ List.mem_cons_self))]

/-- What follows the last slash is no longer part of a trail. -/
lemma trail_isPrefix_iff {above below : List Text} {rest : Text}
    (noAbove : ∀ name ∈ above, .char '/' ∉ name)
    (noBelow : ∀ name ∈ below, .char '/' ∉ name) (noRest : .char '/' ∉ rest) :
    trail above <+: trail below ++ rest ↔ above <+: below := by
  constructor
  · rintro ⟨more, e⟩
    have pieces_eq := congrArg pieces e
    rw [pieces_trail_append noAbove, pieces_trail_append noBelow, pieces_of_no_slash noRest]
      at pieces_eq
    -- the last piece behind `above` is `rest`, so the others lie in `below`
    obtain ⟨others, last, h⟩ := (List.eq_nil_or_concat (pieces more)).resolve_left
      (pieces_ne_nil more)
    rw [h, List.concat_eq_append, ← List.append_assoc] at pieces_eq
    exact ⟨others, (List.append_inj' pieces_eq rfl).1⟩
  · rintro ⟨others, rfl⟩
    rw [trail_append, List.append_assoc]
    exact List.prefix_append _ _

end CompileFlags.Path
