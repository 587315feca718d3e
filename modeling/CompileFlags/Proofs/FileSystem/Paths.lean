import CompileFlags.Proofs.FileSystem.Growth
import CompileFlags.Proofs.Json.Text
import CompileFlags.Proofs.Path.Names

/-!
# Paths that can be used

A path can be passed to the system if it has no null character, and no surrogates but those that stand
for single bytes (`FileSystem.pathFault?_eq_none_iff`). The path of a file is one (`pathFault?_of_isFile`), and
so is its tidy form (`pathFault?_tidy`); such a path can be kept in a document
(`isSeparable_of_pathFault?`), and only the system itself refuses it (`exists_system_of_read`).
-/

namespace CompileFlags

namespace Path

variable {p : Text} {c : CodePoint}

/-- The pieces of a path are made of its characters. -/
lemma mem_of_mem_pieces {piece : Text} (mem : piece ∈ pieces p) (inPiece : c ∈ piece) : c ∈ p := by
  induction p generalizing piece with
  | nil =>
    rw [pieces, List.mem_singleton] at mem
    rw [mem] at inPiece
    exact inPiece
  | cons d rest ih =>
    rw [pieces] at mem
    split at mem
    · obtain rfl | mem := List.mem_cons.1 mem
      · exact absurd inPiece List.not_mem_nil
      · exact List.mem_cons_of_mem d (ih mem inPiece)
    · obtain ⟨first, others, pieces_eq⟩ := List.exists_cons_of_ne_nil (pieces_ne_nil rest)
      rw [pieces_eq, List.modifyHead_cons] at mem
      rw [pieces_eq] at ih
      obtain rfl | mem := List.mem_cons.1 mem
      · obtain rfl | inPiece := List.mem_cons.1 inPiece
        · exact List.mem_cons_self
        · exact List.mem_cons_of_mem d (ih List.mem_cons_self inPiece)
      · exact List.mem_cons_of_mem d (ih (List.mem_cons_of_mem first mem) inPiece)

/-- Joined names are made of their characters and slashes. -/
lemma mem_joinNames {names : List Text} (mem : c ∈ joinNames names) :
    c = .char '/' ∨ ∃ name ∈ names, c ∈ name := by
  by_cases none : names = []
  · rw [none] at mem
    exact absurd mem List.not_mem_nil
  have inTrail : c ∈ trail names := by
    rw [trail_eq_joinNames none]
    exact List.mem_append_left _ mem
  obtain ⟨name, there, inName⟩ := List.mem_flatMap.1 inTrail
  obtain inName | slash := List.mem_append.1 inName
  · exact .inr ⟨name, there, inName⟩
  · exact .inl (List.mem_singleton.1 slash)

/-- A tidy path is made of the characters of the path, slashes and dots. -/
lemma mem_tidy (mem : c ∈ tidy p) : c ∈ p ∨ c = .char '/' ∨ c = .char '.' := by
  rw [tidy] at mem
  split at mem
  · exact .inr (.inr (List.mem_singleton.1 mem))
  · obtain inRoot | inNames := List.mem_append.1 mem
    · have slash : c = .char '/' := by
        rw [root] at inRoot
        split_ifs at inRoot
        · simpa using inRoot
        · simpa using inRoot
        · exact absurd inRoot List.not_mem_nil
      exact .inr (.inl slash)
    · obtain slash | ⟨name, there, inName⟩ := mem_joinNames inNames
      · exact .inr (.inl slash)
      · exact .inl (mem_of_mem_pieces (List.mem_of_mem_filter there) inName)

end Path

namespace FileSystem

variable {fs : FileSystem} {cwd : CurrentDirectory} {p : Text}

/-- A path can be passed to the system if each of its characters can. -/
lemma pathFault?_eq_none_iff : pathFault? p = none ↔
    (∀ n, .surrogate n ∈ p → isStrayByte n = true) ∧ .char '\x00' ∉ p := by
  rw [pathFault?]
  cases fault : Text.firstEncodingFault isStrayByte 0 p with
  | none =>
    have allowed := Text.firstEncodingFault_eq_none_iff_forall.1 fault
    simpa using fun _ => allowed
  | some fault' =>
    have refused := mt Text.firstEncodingFault_eq_none_iff_forall.2
      (fault ▸ Option.some_ne_none fault')
    exact iff_of_false (by simp) fun h => refused h.1

/-- A path that cannot be passed to the system is refused before the system is asked. -/
lemma pathFault?_ne_system {e : SystemError} {q : Text} : pathFault? p ≠ some (.system e q) := by
  unfold pathFault?
  split
  · simp
  · split
    · simp
    · simp

/-- A tidy path can be passed to the system if the path can. -/
lemma pathFault?_tidy (usable : pathFault? p = none) : pathFault? (Path.tidy p) = none := by
  obtain ⟨allowed, noNull⟩ := pathFault?_eq_none_iff.1 usable
  refine pathFault?_eq_none_iff.2 ⟨fun n mem => ?_, fun mem => ?_⟩
  · obtain mem | e | e := Path.mem_tidy mem
    · exact allowed n mem
    · exact absurd e (by simp)
    · exact absurd e (by simp)
  · obtain mem | e | e := Path.mem_tidy mem
    · exact noNull mem
    · exact absurd e (by simp)
    · exact absurd e (by simp)

/-- A path that can be passed to the system is separable. -/
lemma isSeparable_of_pathFault? (usable : pathFault? p = none) : Json.IsSeparable p := by
  refine Json.isSeparable_of_not_high fun c mem => ?_
  cases c with
  | char c => exact (Json.not_surrogate_of_char c).1
  | surrogate n =>
    -- a surrogate that stands for a byte comes second of two
    have stray := (pathFault?_eq_none_iff.1 usable).1 n mem
    simp only [isStrayByte, Bool.and_eq_true, decide_eq_true_eq] at stray
    rw [Json.isHighSurrogate, CodePoint.number, Bool.and_eq_false_iff, decide_eq_false_iff_not,
      decide_eq_false_iff_not]
    omega

/-- The path of what is found can be passed to the system. -/
lemma pathFault?_of_status {node : Node} (found : fs.status cwd p = .ok node) :
    pathFault? p = none := by
  obtain ⟨_, goal, _⟩ | ⟨goal, _⟩ := status_eq_ok_iff.1 found
  · exact (goal_eq_ok_iff.1 goal).1
  · exact (goal_eq_ok_iff.1 goal).1

/-- The path of a file can be passed to the system. -/
lemma pathFault?_of_isFile (isFile : fs.isFile cwd p = true) : pathFault? p = none := by
  obtain ⟨_, found⟩ := isFile_iff.1 isFile
  exact pathFault?_of_status found

/-- A path that can be passed to the system is refused by nothing but the system. -/
lemma exists_system_of_status {fault : AccessFault} (usable : pathFault? p = none)
    (failed : fs.status cwd p = .error fault) : ∃ e q, fault = .system e q := by
  rw [status, goal, usable] at failed
  dsimp only at failed
  cases resolved : fs.resolve cwd p .content with
  | error e =>
    rw [resolved] at failed
    exact ⟨e, p, (Except.error.inj failed).symm⟩
  | ok g =>
    rw [resolved] at failed
    cases g with
    | absent loc => exact ⟨_, _, (Except.error.inj failed).symm⟩
    | removed => exact absurd failed (by simp)
    | present loc =>
      dsimp only at failed
      split at failed
      · exact absurd failed (by simp)
      · exact ⟨_, _, (Except.error.inj failed).symm⟩

/-- A file at a path that can be passed to the system is refused by nothing but the system. -/
lemma exists_system_of_read {fault : AccessFault} (usable : pathFault? p = none)
    (failed : fs.read cwd p = .error fault) : ∃ e q, fault = .system e q := by
  rw [read] at failed
  split at failed
  · rename_i notFound
    obtain ⟨⟩ := failed
    exact exists_system_of_status usable notFound
  · exact ⟨_, _, (Except.error.inj failed).symm⟩
  · exact absurd failed (by simp)
  · exact ⟨_, _, (Except.error.inj failed).symm⟩

end FileSystem

end CompileFlags
