import CompileFlags.Proofs.CommandLine
import CompileFlags.Proofs.Entry
import Mathlib

/-!
# Options on one line

Options are tokens as they stand, so a line of them with blanks between is no command line in general:
what stands in an option is read once more. Lines that can be read by themselves can be read with
blanks between them, and have their tokens in order (`Command.writes_intercalate`). So of options that
can be read by themselves their own tokens are what is read; and of options without blanks, quotes and
backslashes nothing is read but these options, so that no token comes back that was left out
(`Entry.split_line`).
-/

namespace CompileFlags

namespace Command

variable {body other gap text line : Text} {tokens others : List Text} {c : CodePoint}

lemma IsGap.append {next : Text} (isGap : IsGap gap) (isNext : IsGap next) : IsGap (gap ++ next) := by
  intro c mem
  obtain mem | mem := List.mem_append.1 mem
  · exact isGap c mem
  · exact isNext c mem

lemma Spellings.append (first : Spellings body tokens) (isGap : IsGap gap) (ne : gap ≠ [])
    (second : Spellings other others) :
    Spellings (body ++ gap ++ other) (tokens ++ others) := by
  induction second with
  | one spelling => exact first.more isGap ne spelling
  | more _ isGap' ne' spelling ih =>
    have longer := ih.more isGap' ne' spelling
    simpa only [List.append_assoc] using longer

lemma Writes.append (first : Writes line tokens) (separates : isSeparator c = true)
    (second : Writes other others) : Writes (line ++ c :: other) (tokens ++ others) := by
  have isGap : IsGap [c] := List.forall_mem_singleton.2 separates
  cases first with
  | blank isLead =>
    cases second with
    | blank isTrail => exact .blank (isLead.append (isGap.append isTrail))
    | @tokens lead body trail _ isLead' spellings isTrail =>
      have written := Writes.tokens (isLead.append (isGap.append isLead')) spellings isTrail
      simpa only [List.append_assoc, List.cons_append, List.nil_append] using written
  | @tokens lead body trail _ isLead spellings isTrail =>
    cases second with
    | blank isTrail' =>
      have written := Writes.tokens isLead spellings (isTrail.append (isGap.append isTrail'))
      simpa only [List.append_assoc, List.singleton_append, List.append_nil] using written
    | @tokens lead' body' trail' _ isLead' spellings' isTrail' =>
      -- what stands between the two lines is one gap, which is not empty
      have isBetween := isTrail.append (isGap.append isLead')
      have written := Writes.tokens isLead (spellings.append isBetween (by simp) spellings') isTrail'
      simpa only [List.append_assoc, List.cons_append, List.nil_append] using written

/-- Lines with blanks between them have the tokens of each, in order. -/
lemma writes_intercalate {lines : List Text} {tokens : List (List Text)}
    (each : List.Forall₂ Writes lines tokens) :
    Writes (List.intercalate " " lines) tokens.flatten := by
  induction each with
  | nil => exact .blank (List.forall_mem_nil _)
  | @cons line own lines tokens written others ih =>
    cases others with
    | nil => simpa using written
    | cons next others =>
      have joined := written.append (c := .char ' ') rfl ih
      rw [List.intercalate_cons_cons, List.flatten_cons, List.append_assoc]
      exact joined

/-- A line with the tokens that it is written as, unless it is blank. -/
lemma split_of_writes (written : Writes line tokens) :
    split line = .ok (if Text.isBlankText line then [] else tokens) := by
  rw [split, scan_of_writes written]
  split
  · rfl
  · rfl

/-- A line is written as the tokens that are scanned in it. -/
lemma writes_of_scan (scanned : scan (.outside false) line = .ok tokens) : Writes line tokens := by
  obtain ⟨others, written⟩ | ⟨missing, cut⟩ := writes_or_cuts line
  · rw [scan_of_writes written] at scanned
    exact Except.ok.inj scanned ▸ written
  · rw [scan_of_cuts cut] at scanned
    exact absurd scanned (by simp)

/-- A text of plain characters is spelled as it is. -/
lemma spelling_of_isPlain (isPlain : ∀ c ∈ text, IsPlain c) (ne : text ≠ []) :
    Spelling text text := by
  induction text using List.reverseRecOn with
  | nil => exact absurd rfl ne
  | append_singleton text c ih =>
    obtain ⟨before, last⟩ := List.forall_mem_append.1 isPlain
    have piece : Piece [c] [c] := .plain (List.forall_mem_singleton.1 last)
    by_cases first : text = []
    · rw [first]
      exact .piece piece
    · exact (ih before first).append piece

/-- A text of plain characters is written as itself, and as nothing if it is empty. -/
lemma writes_of_isPlain (isPlain : ∀ c ∈ text, IsPlain c) :
    Writes text ([text].filter (· ≠ [])) := by
  by_cases ne : text = []
  · rw [ne]
    exact .blank (List.forall_mem_nil _)
  · have written := Writes.tokens (List.forall_mem_nil _) (.one (spelling_of_isPlain isPlain ne))
      (List.forall_mem_nil _)
    rw [List.append_nil, List.nil_append] at written
    rwa [List.filter_singleton, decide_eq_true ne]

/-- Texts of plain characters, with blanks between them, are written as those that are not empty. -/
lemma writes_intercalate_of_isPlain {texts : List Text}
    (isPlain : ∀ text ∈ texts, ∀ c ∈ text, IsPlain c) :
    Writes (List.intercalate " " texts) (texts.filter (· ≠ [])) := by
  have each : List.Forall₂ Writes texts (texts.map fun text => [text].filter (· ≠ [])) := by
    rw [List.forall₂_map_right_iff, List.forall₂_same]
    exact fun text mem => writes_of_isPlain (isPlain text mem)
  have flatten_eq (texts : List Text) :
      (texts.map fun text => [text].filter (· ≠ [])).flatten = texts.filter (· ≠ []) := by
    induction texts with
    | nil => rfl
    | cons text texts ih =>
      rw [List.map_cons, List.flatten_cons, ih, ← List.filter_append, List.singleton_append]
  exact flatten_eq texts ▸ writes_intercalate each

end Command

namespace Entry

variable {env : Env} {c : BuildCommand} {e : Entry}

/-- The options of an entry on one line, with a blank between each two. -/
def optionLine (e : Entry) : Text := List.intercalate " " e.options

/-- Whether a token is left out of the options of an entry: it asks for compilation only, or names the
output or the file itself. -/
def LeavesOut (env : Env) (e : Entry) (token : Text) : Prop :=
  token = "-c" ∨ ("-o" : Text) <+: token ∨ Path.expand env token e.base = e.file

/-- No option of an entry is a token that is left out. -/
lemma not_leavesOut_of_mem (made : c.normalize? env = some e) {option : Text}
    (mem : option ∈ e.options) : ¬ e.LeavesOut env option := by
  have wellFormed := isWellFormed_of_normalize? made
  rintro (compile | output | file)
  · exact wellFormed.ne_compile option mem compile
  · exact wellFormed.not_output option mem output
  · exact wellFormed.ne_file option mem file

/-- Options that can be read by themselves can be read from one line, and what is read are their own
tokens in order. Of options without separators, quotes and backslashes these are the options, but for
empty ones, so none of them is a token that is left out. A line that is blank in any script has no
tokens. -/
theorem split_optionLine (made : c.normalize? env = some e) :
    (∀ tokens, List.Forall₂ Command.Writes e.options tokens →
      Command.split e.optionLine =
        .ok (if Text.isBlankText e.optionLine then [] else tokens.flatten)) ∧
    ((∀ option ∈ e.options, ∀ c ∈ option, Command.IsPlain c) →
      ∃ tokens, Command.split e.optionLine = .ok tokens ∧
        tokens = (if Text.isBlankText e.optionLine then [] else e.options.filter (· ≠ [])) ∧
        ∀ token ∈ tokens, ¬ e.LeavesOut env token) := by
  constructor
  · intro tokens each
    exact Command.split_of_writes (Command.writes_intercalate each)
  · intro isPlain
    refine ⟨_, Command.split_of_writes (Command.writes_intercalate_of_isPlain isPlain), rfl, ?_⟩
    intro token mem
    split at mem
    · exact absurd mem List.not_mem_nil
    · exact not_leavesOut_of_mem made (List.mem_of_mem_filter mem)

/-- Surroundings where nothing depends on the home directory. -/
def plainEnv : Env := { home := "/", cwd := ⟨[], 0⟩, clock := 0 }

/-- A build command of `/w/a.c` with an argument list. -/
def argumentsCommand (arguments : List Text) : BuildCommand :=
  ⟨some "/w", some "a.c", none, some ("cc" :: arguments)⟩

/-- An option that holds quotes is read without them, and an empty one is not read. -/
theorem split_optionLine_quoted :
    let e : Entry := ⟨"/w/a.c", ["-DA='x y'", "", "-DB"], "/w"⟩
    (argumentsCommand ["-DA='x y'", "", "-c", "-DB", "a.c"]).normalize? plainEnv = some e ∧
      Command.split e.optionLine = .ok ["-DA=x y", "-DB"] := by
  intro e
  have made : (argumentsCommand ["-DA='x y'", "", "-c", "-DB", "a.c"]).normalize? plainEnv =
      some e := by cbv
  have each : List.Forall₂ Command.Writes e.options [["-DA=x y"], [], ["-DB"]] := by
    refine .cons ?_ (.cons ?_ (.cons ?_ .nil))
    · exact Command.writes_of_scan (by cbv)
    · exact Command.writes_of_scan (by cbv)
    · exact Command.writes_of_scan (by cbv)
  have notBlank : Text.isBlankText e.optionLine = false := by cbv
  have read := (split_optionLine made).1 _ each
  rw [notBlank] at read
  exact ⟨made, read⟩

/-- Of a token with blanks in it, and of one with an open quote, something that was left out comes back
or nothing is read at all. -/
theorem leavesOut_of_split_optionLine :
    let spaced : Entry := ⟨"/w/a.c", ["-DA -c a.c"], "/w"⟩
    let quoted : Entry := ⟨"/w/a.c", ["-DA='"], "/w"⟩
    (argumentsCommand ["-DA -c a.c"]).normalize? plainEnv = some spaced ∧
      Command.split spaced.optionLine = .ok ["-DA", "-c", "a.c"] ∧
      spaced.LeavesOut plainEnv "-c" ∧ spaced.LeavesOut plainEnv "a.c" ∧
      (argumentsCommand ["-DA='"]).normalize? plainEnv = some quoted ∧
      Command.split quoted.optionLine = .error .quotation := by
  refine ⟨by cbv, by cbv, .inl rfl, .inr (.inr (by cbv)), by cbv, by cbv⟩

end Entry

end CompileFlags
