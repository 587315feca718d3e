import CompileFlags.Entry
import CompileFlags.Proofs.Path.Normal

/-!
# What an entry holds

An entry is made from a build command that names a file, a directory and arguments
(`BuildCommand.normalize?_eq_some_iff`). Whatever these are, the file of the entry is in normal form,
its options are what is left of the arguments behind the compiler, and none of them is a word that
concerns the output or names the file itself (`Entry.isWellFormed_of_normalize?`).
-/

namespace CompileFlags

/-- What holds of every entry that is made from a build command. -/
structure Entry.IsWellFormed (env : Env) (e : Entry) : Prop where
  file_isNormal : Path.IsNormal e.file
  file_isName : Path.belowRoot e.file ≠ [] →
    ∀ piece ∈ Path.pieces (Path.belowRoot e.file), Path.IsName piece
  base_ne_empty : e.base ≠ ""
  options_ne_nil : e.options ≠ []
  ne_terminator : ∀ option ∈ e.options, option ≠ "--"
  ne_compile : ∀ option ∈ e.options, option ≠ "-c"
  not_output : ∀ option ∈ e.options, ¬ ("-o" : Text) <+: option
  ne_file : ∀ option ∈ e.options, Path.expand env option e.base ≠ e.file

/-- Whether an entry is made from some build command, in whatever surroundings. -/
def Entry.IsMade (e : Entry) : Prop :=
  ∃ (env : Env) (c : BuildCommand), c.normalize? env = some e

/-- No terminator is a relevant argument, nor does `-c` or an output count as one. -/
lemma of_mem_relevantArguments {args : List Text} {arg : Text}
    (mem : arg ∈ relevantArguments args) : arg ≠ "--" ∧ arg ≠ "-c" ∧ ¬ ("-o" : Text) <+: arg := by
  fun_induction relevantArguments args with
  | case1 => exact absurd mem List.not_mem_nil
  | case2 => exact absurd mem List.not_mem_nil
  | case3 _ _ ih => exact ih mem
  | case4 => exact absurd mem List.not_mem_nil
  | case5 _ _ _ _ ih => exact ih mem
  | case6 _ _ _ _ _ _ ih => exact ih mem
  | case7 other rest neTerminator neCompile neOutput notJoined ih =>
    cases mem with
    | head => exact ⟨neTerminator, neCompile, fun h => notJoined (List.isPrefixOf_iff_prefix.2 h)⟩
    | tail _ mem => exact ih mem

namespace BuildCommand

variable {c : BuildCommand} {env : Env}

/-- A build command has a source if its file and its directory are named. -/
lemma source?_eq_some_iff {file directory : Text} :
    c.source? = some (file, directory) ↔
      c.file = some file ∧ c.directory = some directory ∧ file ≠ "" ∧ directory ≠ "" := by
  rw [source?]
  cases c.file with
  | none => simp
  | some _ =>
    cases c.directory with
    | none => simp
    | some _ => grind

/-- The entry of a build command: its file is taken from its directory, and its options are those
among its words behind the compiler, of which there has to be one. -/
lemma normalize?_eq_some_iff {e : Entry} :
    c.normalize? env = some e ↔
      ∃ file words, c.source? = some (file, e.base) ∧ c.words? = some words ∧
        e.file = Path.expand env file e.base ∧
        e.options = stripOptions env e.file e.base (words.drop 1) ∧ e.options ≠ [] := by
  rw [normalize?]
  constructor
  · intro made
    split at made
    · rename_i file directory words source words'
      dsimp only at made
      split at made
      · exact absurd made (Option.some_ne_none e).symm
      · rename_i options ne
        obtain ⟨⟩ := made
        exact ⟨file, words, source, words', rfl, rfl, ne⟩
    · exact absurd made (Option.some_ne_none e).symm
  · rintro ⟨file, words, source, words', file_eq, options_eq, ne⟩
    rw [source, words']
    dsimp only
    rw [← file_eq, ← options_eq]
    cases h : e.options with
    | nil => exact absurd h ne
    | cons option options =>
      show some (Entry.mk e.file (option :: options) e.base) = some e
      rw [← h]

end BuildCommand

/-- An entry is well formed, however its build command was written. -/
theorem Entry.isWellFormed_of_normalize? {env : Env} {c : BuildCommand} {e : Entry}
    (made : c.normalize? env = some e) : e.IsWellFormed env := by
  obtain ⟨file, words, source, _, file_eq, options_eq, ne⟩ :=
    BuildCommand.normalize?_eq_some_iff.1 made
  have kept {option : Text} (mem : option ∈ e.options) := by
    rw [options_eq, stripOptions, List.mem_filter] at mem
    exact mem
  have relevant {option : Text} (mem : option ∈ e.options) :=
    of_mem_relevantArguments (kept mem).1
  have normal : Path.IsNormal e.file := file_eq ▸ Path.isNormal_expand env file e.base
  exact {
    file_isNormal := normal
    file_isName := fun ne _ => normal.isName_of_mem_pieces ne
    base_ne_empty := (BuildCommand.source?_eq_some_iff.1 source).2.2.2
    options_ne_nil := ne
    ne_terminator := fun _ mem => (relevant mem).1
    ne_compile := fun _ mem => (relevant mem).2.1
    not_output := fun _ mem => (relevant mem).2.2
    ne_file := fun _ mem => of_decide_eq_true (kept mem).2 }

end CompileFlags
