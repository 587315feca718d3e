import CompileFlags.Proofs.FileSystem.Paths
import CompileFlags.Proofs.Path.Parent
import Mathlib.Data.List.Flatten

/-!
# Following tidy paths

A step that stays where it is can be left out (`FileSystem.Skips`, `FileSystem.follow_of_skips`): the
directory it stays in is looked at by the next step all the same. So a path that leads to something leads
there in its tidy form too (`FileSystem.goal_tidy`), and what is found at a path is found at its tidy form
(`FileSystem.status_tidy`). The converse fails for a path that ends in a slash, which asks for a directory.
-/

namespace CompileFlags

/-- A part of a text has at most its bytes. -/
lemma Text.byteCount_le_of_sublist {t u : Text} (sublist : t.Sublist u) :
    byteCount t ≤ byteCount u := by
  induction sublist with
  | slnil => exact le_rfl
  | cons c _ ih => exact ih.trans (Nat.le_add_left _ _)
  | cons_cons c _ ih => exact Nat.add_le_add_left ih _

namespace Path

variable {p : Text}

/-- The pieces of a path, joined, are the path. -/
lemma joinNames_pieces (p : Text) : joinNames (pieces p) = p := by
  have trail_eq := trail_pieces p
  rw [trail_eq_joinNames (pieces_ne_nil p)] at trail_eq
  exact List.append_cancel_right trail_eq

/-- Fewer names join to a part of the text. -/
lemma joinNames_sublist {above below : List Text} (ne : below ≠ []) (sublist : above.Sublist below) :
    (joinNames above).Sublist (joinNames below) := by
  by_cases none : above = []
  · rw [none]
    exact List.nil_sublist _
  · have trails : (trail above).Sublist (trail below) := sublist.flatMap _
    rw [trail_eq_joinNames none, trail_eq_joinNames ne] at trails
    exact (List.append_sublist_append_right _).1 trails

/-- The names of a path are no empty texts, and have no slashes. -/
lemma of_mem_names {name : Text} (mem : name ∈ names p) :
    name ≠ "" ∧ name ≠ "." ∧ .char '/' ∉ name := by
  obtain ⟨inPieces, kept⟩ := List.mem_filter.1 mem
  rw [Bool.and_eq_true, decide_eq_true_eq, decide_eq_true_eq] at kept
  exact ⟨kept.1, kept.2, no_slash_of_mem_pieces inPieces⟩

/-- The names of a path are the pieces of their text. -/
lemma pieces_joinNames_names (ne : names p ≠ []) : pieces (joinNames (names p)) = names p :=
  pieces_joinNames ne fun _ mem => (of_mem_names mem).2.2

lemma exists_of_startsDoubled (doubled : startsDoubled p = true) :
    ∃ rest, p = .char '/' :: .char '/' :: rest := by
  unfold startsDoubled at doubled
  split at doubled
  · exact ⟨_, rfl⟩
  · exact ⟨[], rfl⟩
  · exact absurd doubled Bool.false_ne_true

/-- A path is its root and what has its names. -/
lemma exists_root_append (p : Text) : ∃ rest, p = root p ++ rest ∧ names p = names rest := by
  rw [root]
  split_ifs with doubled absolute
  · obtain ⟨rest, rfl⟩ := exists_of_startsDoubled doubled
    exact ⟨rest, rfl, rfl⟩
  · obtain ⟨rest, rfl⟩ := exists_of_isAbsolute absolute
    exact ⟨rest, rfl, rfl⟩
  · exact ⟨p, rfl, rfl⟩

/-- A path starts at the root, or has none. -/
lemma root_cases (p : Text) :
    (∃ more, root p = .char '/' :: more) ∧ isAbsolute p = true ∨
      root p = [] ∧ isAbsolute p = false := by
  rw [root]
  split_ifs with doubled absolute
  · obtain ⟨rest, rfl⟩ := exists_of_startsDoubled doubled
    exact .inl ⟨⟨_, rfl⟩, rfl⟩
  · exact .inl ⟨⟨_, rfl⟩, absolute⟩
  · exact .inr ⟨rfl, Bool.eq_false_iff.2 absolute⟩

/-- A path without root and names begins with the current directory. -/
lemma exists_pieces_of_tidy (ne : p ≠ "") (relative : root p = "") (none : names p = []) :
    ∃ others, pieces p = [.char '.'] :: others := by
  cases p with
  | nil => exact absurd rfl ne
  | cons c rest =>
    by_cases slash : c = .char '/'
    · obtain ⟨⟨more, root_eq⟩, _⟩ | ⟨_, notAbsolute⟩ := root_cases (c :: rest)
      · exact absurd (root_eq.symm.trans relative) (List.cons_ne_nil _ _)
      · have absolute : isAbsolute (.char '/' :: rest) = true := rfl
        rw [slash, absolute] at notAbsolute
        exact absurd notAbsolute (by simp)
    · obtain ⟨first, others, pieces_eq⟩ := List.exists_cons_of_ne_nil (pieces_ne_nil rest)
      rw [names, pieces, if_neg slash, pieces_eq, List.modifyHead_cons] at none
      rw [pieces, if_neg slash, pieces_eq, List.modifyHead_cons]
      have dropped := List.filter_eq_nil_iff.1 none (c :: first) List.mem_cons_self
      rw [Bool.and_eq_true, decide_eq_true_eq, decide_eq_true_eq, not_and, not_not] at dropped
      exact ⟨others, congrArg (· :: others) (dropped (List.cons_ne_nil c first))⟩

/-- What has neither root nor names is the current directory; any other tidy path is its root and its
names. -/
lemma tidy_cases (p : Text) :
    (root p = "" ∧ names p = [] ∧ tidy p = ".") ∨
      ((root p ≠ "" ∨ names p ≠ []) ∧ tidy p = root p ++ joinNames (names p)) := by
  rw [tidy]
  split
  · rename_i empty
    obtain ⟨noRoot, noNames⟩ := List.append_eq_nil_iff.1 empty
    refine .inl ⟨noRoot, by_contra fun ne => ?_, rfl⟩
    have pieces_eq := pieces_joinNames_names ne
    rw [noNames] at pieces_eq
    have mem : [] ∈ pieces [] := List.mem_singleton_self []
    rw [pieces_eq] at mem
    exact (of_mem_names mem).1 rfl
  · rename_i nonempty
    refine .inr ⟨?_, rfl⟩
    by_contra h
    rw [not_or, not_not, not_not] at h
    rw [h.1, h.2] at nonempty
    exact nonempty rfl

/-- The tidy form of a path starts where the path starts. -/
lemma isAbsolute_tidy (p : Text) : isAbsolute (tidy p) = isAbsolute p := by
  obtain ⟨⟨more, root_eq⟩, absolute⟩ | ⟨relative, notAbsolute⟩ := root_cases p
  · obtain ⟨relative, _⟩ | ⟨_, tidy_eq⟩ := tidy_cases p
    · exact absurd (root_eq.symm.trans relative) (List.cons_ne_nil _ _)
    · rw [tidy_eq, root_eq, absolute]
      rfl
  · rw [notAbsolute]
    obtain ⟨_, _, tidy_eq⟩ | ⟨ne, tidy_eq⟩ := tidy_cases p
    · rw [tidy_eq]
      rfl
    · have pieces_eq := pieces_joinNames_names (ne.resolve_left (not_not.2 relative))
      rw [tidy_eq, relative, List.nil_append]
      -- a name before a slash would be empty
      cases joined : joinNames (names p) with
      | nil => rfl
      | cons c rest =>
        refine Bool.eq_false_iff.2 fun absolute => ?_
        obtain ⟨_, e⟩ := exists_of_isAbsolute absolute
        rw [joined, e, pieces, if_pos rfl] at pieces_eq
        have mem : [] ∈ names p := pieces_eq ▸ List.mem_cons_self
        exact (of_mem_names mem).1 rfl

lemma tidy_ne_empty (p : Text) : tidy p ≠ "" := by
  rw [tidy]
  split
  · decide
  · assumption

/-- The tidy form of a path is a part of it. -/
lemma tidy_sublist (ne : p ≠ "") : (tidy p).Sublist p := by
  obtain ⟨relative, none, tidy_eq⟩ | ⟨_, tidy_eq⟩ := tidy_cases p
  · obtain ⟨others, pieces_eq⟩ := exists_pieces_of_tidy ne relative none
    rw [tidy_eq]
    refine List.singleton_sublist.2 (mem_of_mem_pieces ?_ (List.mem_singleton_self _))
    rw [pieces_eq]
    exact List.mem_cons_self
  · obtain ⟨rest, p_eq, names_eq⟩ := exists_root_append p
    have joined := joinNames_sublist (pieces_ne_nil rest)
      (List.filter_sublist (p := fun piece : Text => piece ≠ "" && piece ≠ "."))
    rw [joinNames_pieces, ← names, ← names_eq] at joined
    rw [tidy_eq]
    nth_rewrite 3 [p_eq]
    exact joined.append_left _

end Path

namespace FileSystem

variable {fs : FileSystem} {cwd : CurrentDirectory} {p : Text} {loc : Location} {node : Node}

/-- Whether steps come of others by leaving out some that stay where they are. -/
inductive Skips : List Text → List Text → Prop
  | nil : Skips [] []
  | skip {name : Text} {names names' : List Text} (self : name = "" ∨ name = ".")
      (skips : Skips names names') : Skips (name :: names) names'
  | keep {names names' : List Text} (name : Text) (skips : Skips names names') :
      Skips (name :: names) (name :: names')

/-- Steps before others may be kept. -/
lemma Skips.append_left {names names' : List Text} (skips : Skips names names')
    (before : List Text) : Skips (before ++ names) (before ++ names') := by
  induction before with
  | nil => exact skips
  | cons name before ih => exact .keep name ih

/-- Whether a step leads on from where it is. -/
def leadsOn (name : Text) : Bool := name ≠ "" && name ≠ "."

lemma leadsOn_iff {name : Text} : leadsOn name = true ↔ ¬ (name = "" ∨ name = ".") := by
  rw [leadsOn, Bool.and_eq_true, decide_eq_true_eq, decide_eq_true_eq, not_or]

/-- All steps that stay may be left out. -/
lemma skips_filter (names : List Text) : Skips names (names.filter leadsOn) := by
  induction names with
  | nil => exact .nil
  | cons name names ih =>
    rw [List.filter_cons]
    split
    · exact .keep name ih
    · rename_i stays
      exact .skip (not_not.1 (mt leadsOn_iff.2 stays)) ih

section Following

variable {enter enter' : Location → List Text → Except SystemError Goal} {here : Location}
  {names names' : List Text}

/-- Steps that lead to something lead there without those that stay. -/
lemma follow_of_skips (skips : Skips names names')
    (entered : ∀ {here names names'}, Skips names names' → enter here names = .ok (.present loc) →
      enter' here names' = .ok (.present loc))
    (followed : follow fs enter .content here names = .ok (.present loc)) :
    follow fs enter' .content here names' = .ok (.present loc) := by
  -- along the steps that are left out; those that are kept are taken in the same way from the same place
  induction skips generalizing here with
  | nil => exact followed
  | @skip name _ _ stays _ ih =>
    obtain ⟨_, followed⟩ := follow_cons_eq_ok_iff.1 followed
    by_cases isSlash : name = ""
    · rw [if_pos isSlash] at followed
      exact ih followed
    · rw [if_neg isSlash, if_pos (stays.resolve_left isSlash)] at followed
      exact ih followed.2
  | @keep names names' name skips ih =>
    obtain ⟨isDirectory, followed⟩ := follow_cons_eq_ok_iff.1 followed
    refine follow_cons_eq_ok_iff.2 ⟨isDirectory, ?_⟩
    by_cases isSlash : name = ""
    · rw [if_pos isSlash] at followed ⊢
      exact ih followed
    rw [if_neg isSlash] at followed ⊢
    obtain ⟨searchable, followed⟩ := followed
    refine ⟨searchable, ?_⟩
    by_cases self : name = "."
    · rw [if_pos self] at followed ⊢
      exact ih followed
    by_cases up : name = ".."
    · rw [if_neg self, if_pos up] at followed ⊢
      exact ih followed
    rw [if_neg self, if_neg up] at followed ⊢
    obtain ⟨_, short, followed⟩ := followed
    refine ⟨by simp, short, ?_⟩
    rw [enterName] at followed ⊢
    split at followed
    · -- nothing is there, so nothing is found
      split at followed
      · exact absurd followed (by simp)
      · exact absurd followed (by simp)
    · -- what a link stands for comes before the steps that are left, and all of it is kept
      rw [if_neg (by simp)] at followed ⊢
      exact entered (skips.append_left _) followed
    · exact ih followed

/-- Steps that lead to something lead there without those that stay, whatever links are on the way. -/
lemma walk_of_skips {links : Nat} (skips : Skips names names')
    (walked : walk fs .content links here names = .ok (.present loc)) :
    walk fs .content links here names' = .ok (.present loc) := by
  induction links generalizing here names names' with
  | zero => exact follow_of_skips skips (fun _ failed => absurd failed (by simp)) walked
  | succ links ih => exact follow_of_skips skips ih walked

lemma walkFrom_zero (fs : FileSystem) (purpose : Purpose) (here : Location) (names : List Text) :
    walkFrom fs purpose 0 here names = walk fs purpose maxLinks here names := by
  cases names with
  | nil => rfl
  | cons name names => rfl

/-- Steps from a directory that may have been removed lead to the same thing without those that stay. -/
lemma walkFrom_of_skips {removed : Nat} (skips : Skips names names')
    (walked : walkFrom fs .content removed here names = .ok (.present loc)) :
    walkFrom fs .content removed here names' = .ok (.present loc) := by
  cases removed with
  | zero =>
    rw [walkFrom_zero] at walked ⊢
    exact walk_of_skips skips walked
  | succ removed =>
    induction skips generalizing here removed with
    | nil => exact walked
    | skip self _ ih =>
      rw [walkFrom, if_pos self] at walked
      exact ih removed walked
    | @keep names names' name skips ih =>
      rw [walkFrom] at walked ⊢
      by_cases self : name = "" ∨ name = "."
      · rw [if_pos self] at walked ⊢
        exact ih removed walked
      by_cases up : name = ".."
      · rw [if_neg self, if_pos up] at walked ⊢
        cases removed with
        | zero =>
          rw [walkFrom_zero] at walked ⊢
          exact walk_of_skips skips walked
        | succ removed => exact ih removed walked
      · rw [if_neg self, if_neg up, if_neg (by simp)] at walked
        exact absurd walked (by simp)

end Following

/-- The steps of a path that lead on are its names. -/
lemma filter_steps (p : Text) : (steps p).filter leadsOn = Path.names p := by
  have kept : ((Path.pieces p).filter (· ≠ [])).filter leadsOn = Path.names p := by
    rw [List.filter_filter]
    refine List.filter_congr fun name _ => ?_
    rw [leadsOn]
    by_cases none : name = []
    · simp [none]
    · simp [none]
  unfold steps
  dsimp only
  split
  · rw [List.filter_append, kept]
    exact List.append_nil _
  · exact kept

/-- The steps of a root with names below it are the names. -/
lemma steps_root_append {names : List Text} (p : Text)
    (proper : ∀ name ∈ names, name ≠ "" ∧ .char '/' ∉ name) :
    steps (Path.root p ++ Path.joinNames names) = names := by
  by_cases none : names = []
  · rw [none, Path.root]
    split_ifs
    · rfl
    · rfl
    · rfl
  have kept : (Path.pieces (Path.root p ++ Path.joinNames names)).filter (· ≠ []) = names := by
    have own : (Path.pieces (Path.joinNames names)).filter (· ≠ []) = names := by
      rw [Path.pieces_joinNames none fun name mem => (proper name mem).2, List.filter_eq_self]
      exact fun name mem => decide_eq_true (proper name mem).1
    rw [Path.root]
    split_ifs
    · exact own
    · exact own
    · exact own
  have noSlash : Path.endsInSlash (Path.root p ++ Path.joinNames names) = false := by
    obtain ⟨above, last, rfl⟩ := (List.eq_nil_or_concat names).resolve_left none
    obtain ⟨ne, no⟩ := proper last (by simp)
    rw [List.concat_eq_append, Path.joinNames_concat, ← List.append_assoc,
      Path.endsInSlash_append ne, Path.endsInSlash_of_no_slash no]
  rw [steps, kept, noSlash, Bool.and_false]
  rfl

/-- A tidy path leaves out steps that stay. -/
lemma skips_steps_tidy (ne : p ≠ "") : Skips (steps p) (steps (Path.tidy p)) := by
  have leftOut := skips_filter (steps p)
  rw [filter_steps] at leftOut
  obtain ⟨relative, none, tidy_eq⟩ | ⟨_, tidy_eq⟩ := Path.tidy_cases p
  · -- the first step stays too, and is kept
    obtain ⟨others, pieces_eq⟩ := Path.exists_pieces_of_tidy ne relative none
    obtain ⟨more, steps_eq⟩ : ∃ more, steps p = [.char '.'] :: more := by
      unfold steps
      rw [pieces_eq]
      dsimp only
      split
      · exact ⟨_, rfl⟩
      · exact ⟨_, rfl⟩
    rw [none, steps_eq] at leftOut
    rw [tidy_eq, steps_eq]
    cases leftOut with
    | skip _ skips => exact .keep _ skips
  · rw [tidy_eq, steps_root_append p fun name mem =>
      ⟨(Path.of_mem_names mem).1, (Path.of_mem_names mem).2.2⟩]
    exact leftOut

/-- A path that leads to something leads there in its tidy form. -/
theorem goal_tidy (found : fs.goal cwd p .content = .ok (.present loc)) :
    fs.goal cwd (Path.tidy p) .content = .ok (.present loc) := by
  obtain ⟨usable, ne, short, walked⟩ := goal_eq_ok_iff.1 found
  refine goal_eq_ok_iff.2 ⟨pathFault?_tidy usable, Path.tidy_ne_empty p, ?_, ?_⟩
  · exact (Text.byteCount_le_of_sublist (Path.tidy_sublist ne)).trans_lt short
  · rw [Path.isAbsolute_tidy p]
    split at walked
    · rename_i absolute
      rw [if_pos absolute]
      exact walk_of_skips (skips_steps_tidy ne) walked
    · rename_i relative
      rw [if_neg relative]
      exact walkFrom_of_skips (skips_steps_tidy ne) walked

/-- The file at a path is the file at its tidy form. -/
lemma status_tidy (isFile : fs.isFile cwd p = true) :
    fs.status cwd (Path.tidy p) = fs.status cwd p := by
  obtain ⟨content, found⟩ := isFile_iff.1 isFile
  rw [found]
  obtain ⟨loc, goal, there⟩ | ⟨_, other⟩ := status_eq_ok_iff.1 found
  · exact status_eq_ok_iff.2 (.inl ⟨loc, goal_tidy goal, there⟩)
  · exact absurd other (by simp)

end FileSystem

end CompileFlags
