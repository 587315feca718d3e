import CompileFlags.Proofs.Path.Normal
import Mathlib.Data.List.Basic

/-!
# Paths that can be resolved

A path can be resolved from a base directory if the user behind its `~` can be looked up and, unless it is
absolute, so can the one of the base, and the two together can be located (`fault?_eq_none_iff`). Several
paths can be resolved if each of them can (`firstFault?_eq_none_iff`), and otherwise the fault is that of
the first one that cannot (`firstFault?_eq_some_iff`).
-/

namespace CompileFlags.Path

variable {env : Env} {p base q : Text} {fault : Fault}

lemma locate_eq_ok_iff : locate env p = .ok q ↔ isLocatable env p = true ∧ q = absolute env p := by
  rw [locate]
  split
  · rename_i locatable
    rw [Except.ok.injEq, eq_comm, and_iff_right locatable]
  · rename_i unlocatable
    simp [unlocatable]

lemma locate_eq_error_iff :
    locate env p = .error fault ↔ isLocatable env p = false ∧ fault = .noCurrentDirectory := by
  rw [locate]
  split
  · rename_i locatable
    simp [locatable]
  · rename_i unlocatable
    rw [Except.error.injEq, eq_comm, and_iff_right (Bool.eq_false_iff.2 unlocatable)]

lemma locate_of_isLocatable (locatable : isLocatable env p = true) :
    locate env p = .ok (absolute env p) := if_pos locatable

/-- A path as users write it has a normal form if its user can be looked up and what it stands for can be
located. -/
lemma ofUser_eq_ok_iff :
    ofUser env p = .ok q ↔ homeFault? p = none ∧ isLocatable env (expandHome env p) = true ∧
      q = absolute env (expandHome env p) := by
  rw [ofUser, expandUser]
  cases homeFault? p with
  | none =>
    rw [and_iff_right rfl]
    exact locate_eq_ok_iff
  | some fault => simp

lemma ofUser_of_isNormal (normal : IsNormal p) : ofUser env p = .ok p := by
  have expanded := expandHome_of_isAbsolute normal.absolute env
  refine ofUser_eq_ok_iff.2 ⟨homeFault?_of_isAbsolute normal.absolute, ?_, ?_⟩
  · rw [expanded]
    exact normal.isLocatable env
  · rw [expanded, absolute_of_isNormal normal]

/-- What can be resolved: a path whose user can be looked up, and which is absolute then or can be located
below a base whose user can be looked up. -/
lemma fault?_eq_none_iff :
    fault? env p base = none ↔ homeFault? p = none ∧ (isAbsolute (expandHome env p) = true ∨
      homeFault? base = none ∧ isLocatable env (fromBase env p base) = true) := by
  rw [fault?]
  cases homeFault? p with
  | some fault => simp
  | none =>
    cases isAbsolute (expandHome env p) with
    | true => simp
    | false =>
      cases homeFault? base with
      | some fault => simp
      | none => simp

/-- Why a path cannot be resolved: a user cannot be looked up, or the current directory has been removed. -/
lemma fault?_cases (failed : fault? env p base = some fault) :
    fault = .noCurrentDirectory ∨ ∃ access, fault = .access access := by
  rw [fault?] at failed
  split at failed
  · exact .inr ⟨_, (Option.some.inj failed).symm⟩
  · exact absurd failed (by simp)
  · exact .inr ⟨_, (Option.some.inj failed).symm⟩
  · split at failed
    · exact absurd failed (by simp)
    · exact .inl (Option.some.inj failed).symm

/-- Where the current directory has not been removed, only the users are in doubt. -/
lemma fault?_eq_none_iff_of_present (present : env.cwd.removed = 0) :
    fault? env p base = none ↔ homeFault? p = none ∧
      (isAbsolute (expandHome env p) = true ∨ homeFault? base = none) := by
  rw [fault?_eq_none_iff, isLocatable_of_present present, and_iff_left rfl]

lemma resolve_eq_ok_iff :
    resolve env p base = .ok q ↔ fault? env p base = none ∧ q = expand env p base := by
  rw [resolve]
  cases fault? env p base with
  | none => simp [eq_comm]
  | some fault => simp

lemma resolve_eq_error_iff : resolve env p base = .error fault ↔ fault? env p base = some fault := by
  rw [resolve]
  cases fault? env p base with
  | none => simp
  | some fault => simp

lemma firstFault?_eq_none_iff {paths : List Text} :
    firstFault? env base paths = none ↔ ∀ p ∈ paths, fault? env p base = none :=
  List.findSome?_eq_none_iff

/-- Of several paths that cannot be resolved the first one counts. -/
lemma firstFault?_eq_some_iff {paths : List Text} :
    firstFault? env base paths = some fault ↔
      ∃ before p after, paths = before ++ p :: after ∧ fault? env p base = some fault ∧
        ∀ other ∈ before, fault? env other base = none := by
  rw [firstFault?, List.findSome?_eq_some_iff]

end CompileFlags.Path
