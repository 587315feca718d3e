import CompileFlags.Proofs.Path.Parent
import Mathlib.Data.List.Iterate

/-!
# The way up

Going up from a path in normal form, each parent has one name less, until the root is reached, which is
its own parent (`IsNormal.parent_eq_self_iff`). So the directories on the way are the path and those above
it, each of them once, and the root is the last (`IsNormal.mem_ancestors_iff`, `IsNormal.nodup_ancestors`,
`IsNormal.getLast?_ancestors`). A search that goes this way until it succeeds or is at the root
(`Climbs`) comes to an end (`IsNormal.exists_climbs`), and finds the nearest directory that has what is
searched for (`Climbs.eq_find?`, `Climbs.eq_some_iff`).
-/

namespace CompileFlags.Path

variable {p d : Text}

/-- How many names lead from the root to a path. -/
def depth (p : Text) : Nat := (Absolute.ofText p).names.length

/-- Whether a directory is a path itself or above it: from the same root, its names begin those of the
path. -/
structure IsAncestor (d p : Text) : Prop where
  isNormal : IsNormal d
  sameRoot : (Absolute.ofText d).doubled = (Absolute.ofText p).doubled
  begins : (Absolute.ofText d).names <+: (Absolute.ofText p).names

lemma IsNormal.depth_parent (normal : IsNormal p) : depth (parent p) = depth p - 1 := by
  obtain ⟨a, proper, rfl⟩ := isNormal_iff.1 normal
  rw [proper.parent_text, depth, depth, (Absolute.isProper_up proper 1).ofText_text,
    proper.ofText_text, Absolute.up, List.length_take]
  omega

/-- The root is its own parent, and nothing else is. -/
lemma IsNormal.parent_eq_self_iff (normal : IsNormal p) : parent p = p ↔ depth p = 0 := by
  constructor
  · intro top
    have le := normal.depth_parent
    rw [top] at le
    omega
  · intro top
    obtain ⟨a, proper, rfl⟩ := isNormal_iff.1 normal
    rw [depth, proper.ofText_text, List.length_eq_zero_iff] at top
    rw [proper.parent_text, Absolute.up, top, List.take_nil, ← top]

/-- What holds of a root, and of every path below whose parent it holds, holds of all paths. -/
lemma IsNormal.induction_up {motive : (p : Text) → IsNormal p → Prop}
    (top : ∀ p normal, parent p = p → motive p normal)
    (below : ∀ p normal, parent p ≠ p → motive (parent p) normal.isNormal_parent → motive p normal)
    (p : Text) (normal : IsNormal p) : motive p normal := by
  induction depth_eq : depth p generalizing p with
  | zero => exact top p normal (normal.parent_eq_self_iff.2 depth_eq)
  | succ n ih =>
    have less := normal.depth_parent
    exact below p normal (mt normal.parent_eq_self_iff.1 (by omega))
      (ih (parent p) normal.isNormal_parent (by omega))

/-- The way up goes from parent to parent. -/
lemma IsNormal.ancestors_eq_map (normal : IsNormal p) :
    ancestors p = (List.range (depth p + 1)).map (parent^[·] p) := by
  obtain ⟨a, proper, rfl⟩ := isNormal_iff.1 normal
  rw [ancestors, depth, proper.ofText_text, Absolute.ancestors, List.map_map]
  exact List.map_congr_left fun n _ => (proper.parent_iterate_text n).symm

lemma IsNormal.exists_ancestors_eq (normal : IsNormal p) : ∃ above, ancestors p = p :: above := by
  rw [normal.ancestors_eq_map, List.range_succ_eq_map, List.map_cons]
  exact ⟨_, rfl⟩

lemma IsNormal.ancestors_of_root (normal : IsNormal p) (top : parent p = p) : ancestors p = [p] := by
  rw [normal.ancestors_eq_map, normal.parent_eq_self_iff.1 top]
  rfl

lemma IsNormal.ancestors_eq_cons (normal : IsNormal p) (below : parent p ≠ p) :
    ancestors p = p :: ancestors (parent p) := by
  have pos : depth p ≠ 0 := mt normal.parent_eq_self_iff.2 below
  have depth_eq : depth p = depth (parent p) + 1 := by
    have less := normal.depth_parent
    omega
  rw [normal.ancestors_eq_map, depth_eq, List.range_succ_eq_map, List.map_cons, List.map_map,
    normal.isNormal_parent.ancestors_eq_map]
  rfl

/-- The directories on the way are the path and those above it. -/
lemma IsNormal.mem_ancestors_iff (normal : IsNormal p) : d ∈ ancestors p ↔ IsAncestor d p := by
  obtain ⟨a, proper, rfl⟩ := isNormal_iff.1 normal
  have read := proper.ofText_text
  have mem_iff : d ∈ ancestors a.text ↔ ∃ n < a.names.length + 1, (a.up n).text = d := by
    rw [ancestors, read, Absolute.ancestors, List.map_map, List.mem_map]
    simp only [List.mem_range]
    rfl
  rw [mem_iff]
  constructor
  · rintro ⟨n, _, rfl⟩
    have properUp := Absolute.isProper_up proper n
    have readUp := properUp.ofText_text
    refine ⟨properUp.isNormal_text, ?_, ?_⟩
    · rw [readUp, read]
      rfl
    · rw [readUp, read]
      exact Absolute.names_up_isPrefix a n
  · rintro ⟨normalD, sameRoot, begins⟩
    obtain ⟨b, properB, rfl⟩ := isNormal_iff.1 normalD
    rw [properB.ofText_text, read] at sameRoot begins
    obtain ⟨n, rfl⟩ := Absolute.exists_eq_up sameRoot begins
    -- there are no more names to take away than there are
    have taken : a.names.length - min n a.names.length = a.names.length - n := by omega
    refine ⟨min n a.names.length, by omega, ?_⟩
    rw [Absolute.up, taken, Absolute.up]

lemma IsAncestor.depth_le (isAncestor : IsAncestor d p) : depth d ≤ depth p :=
  isAncestor.begins.length_le

lemma IsNormal.nodup_ancestors (normal : IsNormal p) : (ancestors p).Nodup := by
  induction p, normal using IsNormal.induction_up with
  | top p normal top =>
    rw [normal.ancestors_of_root top]
    exact List.pairwise_singleton _ p
  | below p normal below ih =>
    rw [normal.ancestors_eq_cons below, List.nodup_cons]
    refine ⟨fun again => ?_, ih⟩
    -- what is above the parent has less names than the path
    have le := (normal.isNormal_parent.mem_ancestors_iff.1 again).depth_le
    have pos := mt normal.parent_eq_self_iff.2 below
    rw [normal.depth_parent] at le
    omega

lemma IsNormal.getLast?_ancestors (normal : IsNormal p) : (ancestors p).getLast? = some (root p) := by
  obtain ⟨a, proper, rfl⟩ := isNormal_iff.1 normal
  have last : (a.up a.names.length).text = a.start := by
    rw [Absolute.text_eq, Absolute.up, Nat.sub_self, List.take_zero]
    exact List.append_nil _
  rw [proper.root_text, ← last, ancestors, proper.ofText_text, Absolute.ancestors, List.map_map,
    List.range_succ, List.map_append, List.map_singleton, List.getLast?_concat]
  rfl

/-- How a search goes up from a directory: it ends at the first directory that has what is searched for,
or at the root, which is its own parent. It is told which directories it comes to, and at which it
succeeds. -/
inductive Climbs (has : Text → Bool) : Text → List Text → Option Text → Prop
  | here {d : Text} (success : has d = true) : Climbs has d [d] (some d)
  | top {d : Text} (failure : has d = false) (root : parent d = d) : Climbs has d [d] none
  | up {d : Text} {visited : List Text} {found : Option Text} (failure : has d = false)
      (below : parent d ≠ d) (onward : Climbs has (parent d) visited found) :
      Climbs has d (d :: visited) found

variable {has : Text → Bool} {visited : List Text} {found : Option Text}

/-- A search comes to an end. -/
lemma IsNormal.exists_climbs (normal : IsNormal p) (has : Text → Bool) :
    ∃ visited found, Climbs has p visited found := by
  induction p, normal using IsNormal.induction_up with
  | top p _ top =>
    cases own : has p with
    | true => exact ⟨_, _, .here own⟩
    | false => exact ⟨_, _, .top own top⟩
  | below p _ below ih =>
    cases own : has p with
    | true => exact ⟨_, _, .here own⟩
    | false =>
      obtain ⟨visited, found, onward⟩ := ih
      exact ⟨_, _, .up own below onward⟩

namespace Climbs

lemma visited_eq (climbs : Climbs has p visited found) :
    visited = List.iterate parent p visited.length := by
  induction climbs with
  | here _ => rfl
  | top _ _ => rfl
  | up _ _ _ ih => exact congrArg _ ih

lemma isPrefix_ancestors (climbs : Climbs has p visited found) (normal : IsNormal p) :
    visited <+: ancestors p := by
  induction climbs with
  | here _ =>
    obtain ⟨above, way⟩ := normal.exists_ancestors_eq
    rw [way]
    exact List.cons_prefix_cons.2 ⟨rfl, List.nil_prefix⟩
  | top _ root => exact normal.ancestors_of_root root ▸ List.prefix_rfl
  | up _ below _ ih =>
    rw [normal.ancestors_eq_cons below]
    exact List.cons_prefix_cons.2 ⟨rfl, ih normal.isNormal_parent⟩

/-- A search without success goes the whole way up. -/
lemma eq_ancestors (climbs : Climbs has p visited none) (normal : IsNormal p) :
    visited = ancestors p := by
  generalize noneFound : (none : Option Text) = found at climbs
  induction climbs with
  | here _ => exact absurd noneFound (by simp)
  | top _ root => rw [normal.ancestors_of_root root]
  | up _ below _ ih => rw [normal.ancestors_eq_cons below, ih normal.isNormal_parent noneFound]

/-- A search succeeds at the first directory on the way up that has what is searched for. -/
lemma eq_find? (climbs : Climbs has p visited found) (normal : IsNormal p) :
    found = (ancestors p).find? has := by
  induction climbs with
  | here success =>
    obtain ⟨above, way⟩ := normal.exists_ancestors_eq
    rw [way, List.find?_cons_of_pos success]
  | top failure root =>
    rw [normal.ancestors_of_root root, List.find?_cons_of_neg (by simp [failure])]
    rfl
  | up failure below _ ih =>
    rw [normal.ancestors_eq_cons below, List.find?_cons_of_neg (by simp [failure]),
      ih normal.isNormal_parent]

lemma getLast?_eq (climbs : Climbs has p visited (some d)) : visited.getLast? = some d := by
  generalize someFound : some d = found at climbs
  induction climbs with
  | here _ => rfl
  | top _ _ => exact absurd someFound (by simp)
  | up _ _ _ ih =>
    rw [List.getLast?_cons, ih someFound, ← someFound]
    rfl

/-- A search succeeds at a directory exactly if that is the first parent of parents to have what is
searched for. -/
lemma eq_some_iff (climbs : Climbs has p visited found) :
    found = some d ↔ ∃ n, d = parent^[n] p ∧ has (parent^[n] p) = true ∧
      ∀ m < n, has (parent^[m] p) = false := by
  -- along the climb; one step up moves the number of parents by one
  induction climbs with
  | @here e success =>
    constructor
    · rintro ⟨⟩
      exact ⟨0, rfl, success, fun m lt => absurd lt (Nat.not_lt_zero m)⟩
    · rintro ⟨n, rfl, _, before⟩
      cases n with
      | zero => rfl
      | succ n => exact absurd (success.symm.trans (before 0 n.succ_pos)) (by simp)
  | @top e failure root =>
    refine iff_of_false (by simp) ?_
    rintro ⟨n, rfl, success, _⟩
    rw [Function.iterate_fixed root] at success
    exact absurd (success.symm.trans failure) (by simp)
  | @up e _ _ failure _ _ ih =>
    rw [ih]
    constructor
    · rintro ⟨n, rfl, success, before⟩
      refine ⟨n + 1, rfl, success, fun m lt => ?_⟩
      cases m with
      | zero => exact failure
      | succ m => exact before m (Nat.lt_of_succ_lt_succ lt)
    · rintro ⟨n, rfl, success, before⟩
      cases n with
      | zero => exact absurd (success.symm.trans failure) (by simp)
      | succ n => exact ⟨n, rfl, success, fun m lt => before (m + 1) (Nat.succ_lt_succ lt)⟩

lemma success (climbs : Climbs has p visited (some d)) : has d = true := by
  obtain ⟨n, rfl, success, _⟩ := climbs.eq_some_iff.1 rfl
  exact success

/-- From each directory that is visited the search goes on alike. -/
lemma of_mem (climbs : Climbs has p visited found) (mem : d ∈ visited) :
    ∃ visited', Climbs has d visited' found := by
  induction climbs with
  | here success =>
    obtain rfl := List.mem_singleton.1 mem
    exact ⟨_, .here success⟩
  | top failure root =>
    obtain rfl := List.mem_singleton.1 mem
    exact ⟨_, .top failure root⟩
  | up failure below onward ih =>
    obtain rfl | mem := List.mem_cons.1 mem
    · exact ⟨_, .up failure below onward⟩
    · exact ih mem

end Climbs

end CompileFlags.Path
