import CompileFlags.Proofs.FileSystem.Appending
import CompileFlags.Proofs.FileSystem.Paths
import CompileFlags.Proofs.FileSystem.Writing

/-!
# Obstacles on the way to a file

Where something is looked for, the system says that nothing is there, or that there is an obstacle: the path
or a name on it is too long, or a directory on the way may not be searched. What links lead to counts, too.
The former is an answer, so looking at a path fails exactly if there is an obstacle
(`FileSystem.probe_eq_error_iff`).
-/

namespace CompileFlags

/-- Whether an error says that a path is too long, or that a directory may not be searched. -/
inductive SystemError.IsObstacle : SystemError → Prop where
  | nameTooLong : IsObstacle .nameTooLong
  | refused (refusal : Refusal) : IsObstacle (.refused refusal)

/-- An obstacle does not mean that nothing is there. -/
lemma SystemError.IsObstacle.not_meansMissing {e : SystemError} (isObstacle : e.IsObstacle) :
    ¬ e.meansMissing = true := by
  cases isObstacle with
  | nameTooLong => decide
  | refused refusal => simp [meansMissing]

namespace FileSystem

variable {fs : FileSystem} {cwd : CurrentDirectory} {p : Text} {e : SystemError}

/-- Whether the system does not look at a path, because of an obstacle on the way. -/
structure IsBlocked (fs : FileSystem) (cwd : CurrentDirectory) (p : Text) (e : SystemError) : Prop where
  isObstacle : e.IsObstacle
  status_eq : fs.status cwd p = .error (.system e p)

section Following

variable {enter : Location → List Text → Except SystemError Goal} {here : Location}
  {names : List Text}

/-- Steps fail where nothing is found or there is an obstacle, if what is behind links does. -/
lemma follow_error
    (entered : ∀ {here names e}, enter here names = .error e →
      e.meansMissing = true ∨ e.IsObstacle)
    (failed : follow fs enter .content here names = .error e) :
    e.meansMissing = true ∨ e.IsObstacle := by
  -- along the steps, in the order in which a step is checked
  induction names generalizing here with
  | nil => exact absurd failed (by simp [follow])
  | cons name rest ih =>
    by_cases isDirectory : fs.node? here = some .directory
    · rw [follow_cons_of_directory isDirectory] at failed
      split at failed
      · exact ih failed
      split at failed
      · obtain rfl := Except.error.inj failed
        exact .inr (.refused _)
      split at failed
      · exact ih failed
      split at failed
      · exact ih failed
      split at failed
      · rename_i writing
        exact absurd writing.1 (by simp)
      split at failed
      · obtain rfl := Except.error.inj failed
        exact .inr .nameTooLong
      rw [enterName] at failed
      split at failed
      · split at failed
        · exact absurd failed (by simp)
        · obtain ⟨⟩ := failed
          exact .inl rfl
      · split at failed
        · exact absurd failed (by simp)
        · exact entered failed
      · exact ih failed
    · rw [follow_cons_of_not_directory isDirectory] at failed
      obtain ⟨⟩ := failed
      exact .inl rfl

lemma walk_error {links : Nat} (failed : walk fs .content links here names = .error e) :
    e.meansMissing = true ∨ e.IsObstacle := by
  induction links generalizing here names e with
  | zero =>
    apply follow_error _ failed
    intro here names e entered
    obtain ⟨⟩ := entered
    exact .inl rfl
  | succ links ih =>
    apply follow_error _ failed
    intro here names e entered
    exact ih entered

lemma walkFrom_error {removed : Nat} (failed : walkFrom fs .content removed here names = .error e) :
    e.meansMissing = true ∨ e.IsObstacle := by
  induction names generalizing removed here with
  | nil =>
    cases removed with
    | zero => exact walk_error failed
    | succ removed => exact absurd failed (by simp [walkFrom])
  | cons name rest ih =>
    cases removed with
    | zero => exact walk_error failed
    | succ removed =>
      rw [walkFrom] at failed
      split at failed
      · exact ih failed
      split at failed
      · exact ih failed
      split at failed
      · rename_i writing
        exact absurd writing.1 (by simp)
      · obtain ⟨⟩ := failed
        exact .inl rfl

end Following

lemma resolve_error (failed : fs.resolve cwd p .content = .error e) :
    e.meansMissing = true ∨ e.IsObstacle := by
  rw [resolve] at failed
  split at failed
  · obtain ⟨⟩ := failed
    exact .inl rfl
  split at failed
  · obtain rfl := Except.error.inj failed
    exact .inr .nameTooLong
  split at failed
  · exact walk_error failed
  · exact walkFrom_error failed

/-- The system says that nothing is found at the path, or that there is an obstacle. -/
lemma status_error {q : Text} (failed : fs.status cwd p = .error (.system e q)) :
    q = p ∧ (e.meansMissing = true ∨ e.IsObstacle) := by
  rw [status] at failed
  split at failed
  · rename_i fault goal_eq
    obtain ⟨⟩ := failed
    refine ⟨path_of_goal_eq_error goal_eq, ?_⟩
    rw [goal] at goal_eq
    split at goal_eq
    · rename_i refused
      rw [Except.error.inj goal_eq] at refused
      exact absurd refused pathFault?_ne_system
    · split at goal_eq
      · exact absurd goal_eq (by simp)
      · rename_i resolved
        obtain ⟨⟩ := goal_eq
        exact resolve_error resolved
  · obtain ⟨⟩ := failed
    exact ⟨rfl, .inl rfl⟩
  · exact absurd failed (by simp)
  · split at failed
    · exact absurd failed (by simp)
    · obtain ⟨⟩ := failed
      exact ⟨rfl, .inl rfl⟩

/-- Looking at a path fails exactly if there is an obstacle. -/
theorem probe_eq_error_iff {fault : AccessFault} :
    fs.probe cwd p = .error fault ↔ ∃ e, fault = .system e p ∧ fs.IsBlocked cwd p e := by
  rw [probe]
  cases status_eq : fs.status cwd p with
  | ok node =>
    refine iff_of_false (by simp) ?_
    rintro ⟨_, _, blocked⟩
    exact absurd (status_eq.symm.trans blocked.status_eq) (by simp)
  | error failed =>
    have same {e : SystemError} (blocked : fs.IsBlocked cwd p e) : failed = .system e p :=
      Except.error.inj (status_eq.symm.trans blocked.status_eq)
    cases failed with
    | system e q =>
      obtain ⟨rfl, missing | isObstacle⟩ := status_error status_eq
      · dsimp only
        rw [if_pos missing]
        refine iff_of_false (by simp) ?_
        rintro ⟨_, _, blocked⟩
        obtain ⟨⟩ := same blocked
        exact blocked.isObstacle.not_meansMissing missing
      · dsimp only
        rw [if_neg isObstacle.not_meansMissing]
        constructor
        · intro e
          exact ⟨_, (Except.error.inj e).symm, isObstacle, status_eq⟩
        · rintro ⟨_, rfl, blocked⟩
          rw [same blocked]
    | nullCharacter | unencodable =>
      refine iff_of_false (by simp) ?_
      rintro ⟨_, _, blocked⟩
      exact absurd (same blocked) (by simp)

end FileSystem

end CompileFlags
