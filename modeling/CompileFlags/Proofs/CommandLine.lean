import CompileFlags.Command.Tokens
import Mathlib.Data.List.Induction

/-!
# The grammar of a command line

A token is spelled as a sequence of pieces, and its value is what the pieces stand for: a character
by itself, a character behind a backslash, or a quotation. A command line is written as spellings
with separators between them, and perhaps around them. The tokens of a command line that is not blank
are the values of the spellings that it is written as (`split_eq_iff`). A command line that is not
written so ends either within a quotation, or behind a backslash that takes the next character; which
of the two is missing is what is told.
-/

namespace CompileFlags.Command

/-- A character that stands for itself outside quotes: no separator, quote or backslash. -/
structure IsPlain (c : CodePoint) : Prop where
  not_separator : isSeparator c = false
  ne_single : c ≠ '\''
  ne_double : c ≠ '"'
  ne_backslash : c ≠ '\\'

/-- What may stand between double quotes, and what it stands for. A backslash takes a double quote or
a backslash as it is, and is kept before any other character. -/
inductive Quoted : Text → Text → Prop where
  | nil : Quoted [] []
  | plain {c : CodePoint} {body value : Text} (ne_double : c ≠ '"') (ne_backslash : c ≠ '\\') :
    Quoted body value → Quoted (c :: body) (c :: value)
  | escaped {c : CodePoint} {body value : Text} (special : c = '"' ∨ c = '\\') :
    Quoted body value → Quoted ('\\' :: c :: body) (c :: value)
  | kept {c : CodePoint} {body value : Text} (common : ¬ (c = '"' ∨ c = '\\')) :
    Quoted body value → Quoted ('\\' :: c :: body) ('\\' :: c :: value)

/-- A piece of a token, and what it stands for. -/
inductive Piece : Text → Text → Prop where
  | plain {c : CodePoint} (isPlain : IsPlain c) : Piece [c] [c]
  | escaped (c : CodePoint) : Piece [.char '\\', c] [c]
  | single {body : Text} (no : .char '\'' ∉ body) : Piece (.char '\'' :: (body ++ [.char '\''])) body
  | double {body value : Text} (quoted : Quoted body value) : Piece (.char '"' :: (body ++ [.char '"'])) value

/-- A token as it is written, one piece or more, and its value. -/
inductive Spelling : Text → Text → Prop where
  | piece {text value : Text} (piece : Piece text value) : Spelling text value
  | append {text value next nextValue : Text} (spelling : Spelling text value)
    (piece : Piece next nextValue) : Spelling (text ++ next) (value ++ nextValue)

/-- A run of separators, which may be empty. -/
def IsGap (gap : Text) : Prop := ∀ c ∈ gap, isSeparator c = true

/-- Spellings of tokens with separators between each two, and the values of the tokens. -/
inductive Spellings : Text → List Text → Prop where
  | one {text value : Text} (spelling : Spelling text value) : Spellings text [value]
  | more {body text value gap : Text} {tokens : List Text} (spellings : Spellings body tokens)
    (isGap : IsGap gap) (ne : gap ≠ []) (spelling : Spelling text value) :
    Spellings (body ++ gap ++ text) (tokens ++ [value])

/-- Whether a command line is written as the spellings of some tokens. At both ends there may be
separators, and a line of no tokens has nothing else. -/
inductive Writes : Text → List Text → Prop where
  | blank {gap : Text} (isGap : IsGap gap) : Writes gap []
  | tokens {lead body trail : Text} {tokens : List Text} (isLead : IsGap lead)
    (spellings : Spellings body tokens) (isTrail : IsGap trail) :
    Writes (lead ++ body ++ trail) tokens

/-- Whether something is missing from a command line, the rest of which is well written: the end of a
quotation, or the character that a backslash takes, be it within double quotes. -/
inductive Incomplete.Cuts : Incomplete → Text → Prop where
  | single {line body : Text} {tokens : List Text} (written : Writes line tokens)
    (no : .char '\'' ∉ body) : Cuts .quotation (line ++ .char '\'' :: body)
  | double {line body value : Text} {tokens : List Text} (written : Writes line tokens)
    (quoted : Quoted body value) : Cuts .quotation (line ++ .char '"' :: body)
  | escape {line : Text} {tokens : List Text} (written : Writes line tokens) :
    Cuts .escape (line ++ [.char '\\'])
  | doubleEscape {line body value : Text} {tokens : List Text} (written : Writes line tokens)
    (quoted : Quoted body value) : Cuts .escape (line ++ .char '"' :: (body ++ [.char '\\']))

section Writing

variable {line body value text gap : Text} {tokens : List Text} {c : CodePoint}

/-- What stands between quotes may be put together. -/
lemma Quoted.append {next nextValue : Text} (quoted : Quoted body value)
    (more : Quoted next nextValue) : Quoted (body ++ next) (value ++ nextValue) := by
  induction quoted with
  | nil => exact more
  | plain ne_double ne_backslash _ ih => exact .plain ne_double ne_backslash ih
  | escaped special _ ih => exact .escaped special ih
  | kept common _ ih => exact .kept common ih

/-- Separators go on with a gap. -/
lemma IsGap.concat (isGap : IsGap gap) (separates : isSeparator c = true) : IsGap (gap ++ [c]) := by
  intro d mem
  rw [List.mem_append, List.mem_singleton] at mem
  cases mem with
  | inl mem => exact isGap d mem
  | inr e => exact e ▸ separates

/-- A separator may follow a line. -/
lemma Writes.separator (written : Writes line tokens) (separates : isSeparator c = true) :
    Writes (line ++ [c]) tokens := by
  cases written with
  | blank isGap => exact .blank (isGap.concat separates)
  | tokens isLead spellings isTrail =>
    rw [List.append_assoc]
    exact .tokens isLead spellings (isTrail.concat separates)

/-- A piece that follows a last spelling goes on with it. -/
lemma Spellings.piece (spellings : Spellings body tokens) (piece : Piece text value) :
    ∃ tokens, Spellings (body ++ text) tokens := by
  cases spellings with
  | one spelling => exact ⟨_, .one (spelling.append piece)⟩
  | more spellings isGap ne spelling =>
    rw [List.append_assoc]
    exact ⟨_, .more spellings isGap ne (spelling.append piece)⟩

/-- A piece may follow a line, and belongs to its last token or is a new one. -/
lemma Writes.piece (written : Writes line tokens) (piece : Piece text value) :
    ∃ tokens, Writes (line ++ text) tokens := by
  have noTrail : IsGap [] := List.forall_mem_nil _
  cases written with
  | blank isGap =>
    have one : Writes (line ++ text ++ []) [value] := .tokens isGap (.one (.piece piece)) noTrail
    rw [List.append_nil] at one
    exact ⟨_, one⟩
  | @tokens lead body trail _ isLead spellings isTrail =>
    by_cases ne : trail = []
    · obtain ⟨longer, written⟩ := spellings.piece piece
      have joined : Writes (lead ++ (body ++ text) ++ []) longer := .tokens isLead written noTrail
      rw [List.append_nil, ← List.append_assoc] at joined
      rw [ne, List.append_nil]
      exact ⟨_, joined⟩
    · have joined : Writes (lead ++ (body ++ trail ++ text) ++ []) (tokens ++ [value]) :=
        .tokens isLead (.more spellings isTrail ne (.piece piece)) noTrail
      rw [List.append_nil, ← List.append_assoc, ← List.append_assoc] at joined
      exact ⟨_, joined⟩

/-- One more character after a line that is well written. -/
lemma Writes.concat (written : Writes line tokens) (c : CodePoint) :
    (∃ tokens, Writes (line ++ [c]) tokens) ∨ ∃ missing : Incomplete, missing.Cuts (line ++ [c]) := by
  by_cases separates : isSeparator c = true
  · exact .inl ⟨_, written.separator separates⟩
  · by_cases single : c = '\''
    · rw [single]
      exact .inr ⟨_, .single written List.not_mem_nil⟩
    · by_cases double : c = '"'
      · rw [double]
        exact .inr ⟨_, .double written .nil⟩
      · by_cases backslash : c = '\\'
        · rw [backslash]
          exact .inr ⟨_, .escape written⟩
        · have isPlain : IsPlain c :=
            ⟨Bool.eq_false_iff.2 separates, single, double, backslash⟩
          exact .inl (written.piece (.plain isPlain))

/-- One more character after a line from which something is missing. -/
lemma Incomplete.Cuts.concat {missing : Incomplete} (cut : missing.Cuts line) (c : CodePoint) :
    (∃ tokens, Writes (line ++ [c]) tokens) ∨ ∃ missing : Incomplete, missing.Cuts (line ++ [c]) := by
  cases cut with
  | single written no =>
    rw [List.append_assoc, List.cons_append]
    by_cases closes : c = '\''
    · rw [closes]
      exact .inl (written.piece (.single no))
    · refine .inr ⟨_, .single written ?_⟩
      rw [List.mem_append, List.mem_singleton]
      exact not_or.2 ⟨no, fun e => closes e.symm⟩
  | double written quoted =>
    rw [List.append_assoc, List.cons_append]
    by_cases closes : c = '"'
    · rw [closes]
      exact .inl (written.piece (.double quoted))
    · by_cases backslash : c = '\\'
      · rw [backslash]
        exact .inr ⟨_, .doubleEscape written quoted⟩
      · exact .inr ⟨_, .double written (quoted.append (.plain closes backslash .nil))⟩
  | escape written =>
    rw [List.append_assoc]
    exact .inl (written.piece (.escaped c))
  | doubleEscape written quoted =>
    rw [List.append_assoc, List.cons_append, List.append_assoc]
    by_cases special : c = '"' ∨ c = '\\'
    · exact .inr ⟨_, .double written (quoted.append (.escaped special .nil))⟩
    · exact .inr ⟨_, .double written (quoted.append (.kept special .nil))⟩

/-- Every text is well written, or something is missing from it. The text is taken character by
character, so each way to end has to allow any character after it. -/
lemma writes_or_cuts (command : Text) :
    (∃ tokens, Writes command tokens) ∨ ∃ missing : Incomplete, missing.Cuts command := by
  induction command using List.reverseRecOn with
  | nil => exact .inl ⟨[], .blank (List.forall_mem_nil _)⟩
  | append_singleton line c ih =>
    obtain ⟨tokens, written⟩ | ⟨missing, cut⟩ := ih
    · exact written.concat c
    · exact cut.concat c

end Writing

section Scanning

variable {line body value text gap rest : Text} {tokens : List Text} {begun : Bool} {c : CodePoint}

/-- Puts a text in front of the first token. -/
def pushAll (value : Text) (tokens : List Text) : List Text := tokens.modifyHead (value ++ ·)

/-- Nothing is put in front of the first token. -/
@[simp]
lemma pushAll_nil : pushAll [] = id := by
  funext tokens
  cases tokens with
  | nil => rfl
  | cons token tokens => rfl

/-- A text is put in front character by character. -/
@[simp]
lemma pushAll_cons (c : CodePoint) (value : Text) : pushAll (c :: value) = push c ∘ pushAll value := by
  funext tokens
  cases tokens with
  | nil => rfl
  | cons token tokens => rfl

/-- A text is put in front part by part. -/
@[simp]
lemma pushAll_append (value next : Text) : pushAll (value ++ next) = pushAll value ∘ pushAll next := by
  induction value with
  | nil => rw [List.nil_append, pushAll_nil, Function.id_comp]
  | cons c value ih => rw [List.cons_append, pushAll_cons, pushAll_cons, ih, Function.comp_assoc]

/-- A result that is left as it is. -/
lemma map_id {ε α : Type} (x : Except ε α) : x.map id = x := congrFun Except.map_id x

/-- A result may be changed in two steps. -/
lemma map_map {ε α β γ : Type} (x : Except ε α) (f : α → β) (g : β → γ) :
    (x.map f).map g = x.map (g ∘ f) := by
  cases x with
  | error e => rfl
  | ok a => rfl

/-- Within single quotes, all but the closing one belongs to the token. -/
lemma scan_single (no : .char '\'' ∉ body) :
    scan .single (body ++ rest) = (scan .single rest).map (pushAll body) := by
  induction body with
  | nil => rw [List.nil_append, pushAll_nil, map_id]
  | cons c body ih =>
    rw [List.mem_cons, not_or] at no
    rw [List.cons_append, scan, if_neg (Ne.symm no.1), ih no.2, map_map, pushAll_cons]

/-- Within double quotes, the token gets what stands there for something. -/
lemma scan_double (quoted : Quoted body value) :
    scan .double (body ++ rest) = (scan .double rest).map (pushAll value) := by
  induction quoted with
  | nil => rw [List.nil_append, pushAll_nil, map_id]
  | plain ne_double ne_backslash _ ih =>
    rw [List.cons_append, scan.eq_def]
    dsimp only
    rw [if_neg ne_double, if_neg ne_backslash, ih, map_map, pushAll_cons]
  | escaped special _ ih =>
    rw [List.cons_append, List.cons_append, scan, if_neg (by decide), if_pos rfl, if_pos special, ih,
      map_map, pushAll_cons]
  | kept common _ ih =>
    rw [List.cons_append, List.cons_append, scan, if_neg (by decide), if_pos rfl, if_neg common, ih,
      map_map, pushAll_cons, pushAll_cons, Function.comp_assoc]

/-- What a character does outside quotes. -/
lemma scan_outside (begun : Bool) (c : CodePoint) (rest : Text) :
    scan (.outside begun) (c :: rest) =
      if isSeparator c then (scan (.outside false) rest).map (close begun)
      else if c = '\'' then scan .single rest
      else if c = '"' then scan .double rest
      else if c = '\\' then
        match rest with
        | [] => .error .escape
        | d :: rest => (scan (.outside true) rest).map (push d)
      else (scan (.outside true) rest).map (push c) :=
  scan.eq_def (.outside begun) (c :: rest)

/-- A separator ends the token at hand. -/
lemma scan_separator (separates : isSeparator c = true) :
    scan (.outside begun) (c :: rest) = (scan (.outside false) rest).map (close begun) := by
  rw [scan_outside, if_pos separates]

/-- A single quote opens a quotation. -/
lemma scan_openSingle : scan (.outside begun) (.char '\'' :: rest) = scan .single rest := by
  rw [scan_outside]
  rfl

/-- A double quote opens a quotation. -/
lemma scan_openDouble : scan (.outside begun) (.char '"' :: rest) = scan .double rest := by
  rw [scan_outside]
  rfl

/-- A plain character belongs to the token. -/
lemma scan_plain (isPlain : IsPlain c) :
    scan (.outside begun) (c :: rest) = (scan (.outside true) rest).map (push c) := by
  rw [scan_outside, isPlain.not_separator, if_neg Bool.false_ne_true, if_neg isPlain.ne_single,
    if_neg isPlain.ne_double, if_neg isPlain.ne_backslash]

/-- A piece adds its value to the token at hand. -/
lemma scan_piece (piece : Piece text value) :
    scan (.outside begun) (text ++ rest) = (scan (.outside true) rest).map (pushAll value) := by
  cases piece with
  | plain isPlain =>
    rw [List.singleton_append, scan_plain isPlain, pushAll_cons, pushAll_nil]
    rfl
  | escaped c =>
    rw [List.cons_append, List.singleton_append, scan_outside, pushAll_cons, pushAll_nil]
    rfl
  | single no =>
    rw [List.cons_append, List.append_assoc, scan_openSingle, scan_single no, List.singleton_append,
      scan, if_pos rfl]
  | double quoted =>
    rw [List.cons_append, List.append_assoc, scan_openDouble, scan_double quoted,
      List.singleton_append, scan.eq_def]
    rfl

/-- A spelling adds its value to the token at hand. -/
lemma scan_spelling (spelling : Spelling text value) :
    scan (.outside begun) (text ++ rest) = (scan (.outside true) rest).map (pushAll value) := by
  induction spelling generalizing begun rest with
  | piece piece => exact scan_piece piece
  | append _ piece ih => rw [List.append_assoc, ih, scan_piece piece, map_map, pushAll_append]

/-- Separators before a token change nothing. -/
lemma scan_gap (isGap : IsGap gap) :
    scan (.outside false) (gap ++ rest) = scan (.outside false) rest := by
  induction gap with
  | nil => rfl
  | cons c gap ih =>
    obtain ⟨separates, isGap⟩ := List.forall_mem_cons.1 isGap
    rw [List.cons_append, scan_separator separates, ih isGap]
    exact map_id _

/-- Separators behind a token end it. -/
lemma scan_gap_of_ne_nil (isGap : IsGap gap) (ne : gap ≠ []) :
    scan (.outside begun) (gap ++ rest) = (scan (.outside false) rest).map (close begun) := by
  cases gap with
  | nil => exact absurd rfl ne
  | cons c gap =>
    obtain ⟨separates, isGap⟩ := List.forall_mem_cons.1 isGap
    rw [List.cons_append, scan_separator separates, scan_gap isGap]

/-- Spellings leave their tokens behind, the last of which is still at hand. -/
lemma scan_spellings (spellings : Spellings body tokens) :
    ∃ before last, tokens = before ++ [last] ∧ ∀ rest,
      scan (.outside false) (body ++ rest) =
        (scan (.outside true) rest).map (before ++ pushAll last ·) := by
  induction spellings with
  | @one text value spelling => exact ⟨[], value, rfl, fun rest => scan_spelling spelling⟩
  | @more body text value gap tokens _ isGap ne spelling ih =>
    obtain ⟨before, last, rfl, scanned⟩ := ih
    refine ⟨before ++ [last], value, rfl, fun rest => ?_⟩
    rw [List.append_assoc, List.append_assoc, scanned, scan_gap_of_ne_nil isGap ne,
      scan_spelling spelling, map_map, map_map]
    congr 1
    funext tokens
    simp [close, pushAll]

/-- What is scanned behind a line that is well written adds to its tokens. -/
lemma scan_written (written : Writes line tokens) :
    ∃ (begun : Bool) (add : List Text → List Text), add (close begun []) = tokens ∧ ∀ rest,
      scan (.outside false) (line ++ rest) = (scan (.outside begun) rest).map add := by
  cases written with
  | blank isGap => exact ⟨false, id, rfl, fun rest => by rw [scan_gap isGap, map_id]⟩
  | @tokens lead body trail _ isLead spellings isTrail =>
    obtain ⟨before, last, rfl, scanned⟩ := scan_spellings spellings
    -- the last token is still at hand where no separator follows it
    by_cases ne : trail = []
    · refine ⟨true, (before ++ pushAll last ·), by simp [close, pushAll], fun rest => ?_⟩
      rw [ne, List.append_nil, List.append_assoc, scan_gap isLead, scanned]
    · refine ⟨false, (before ++ pushAll last ·) ∘ close true, by simp [close, pushAll],
        fun rest => ?_⟩
      rw [List.append_assoc, List.append_assoc, scan_gap isLead, scanned,
        scan_gap_of_ne_nil isTrail ne, map_map]

/-- A line that is well written has its tokens. -/
lemma scan_of_writes (written : Writes line tokens) : scan (.outside false) line = .ok tokens := by
  obtain ⟨begun, add, rfl, scanned⟩ := scan_written written
  rw [← List.append_nil line, scanned, scan]
  rfl

/-- What is missing from a line is told. -/
lemma scan_of_cuts {missing : Incomplete} (cut : missing.Cuts line) :
    scan (.outside false) line = .error missing := by
  cases cut with
  | @single _ body _ written no =>
    obtain ⟨begun, add, _, scanned⟩ := scan_written written
    rw [scanned, scan_openSingle, ← List.append_nil body, scan_single no]
    rfl
  | @double _ body _ _ written quoted =>
    obtain ⟨begun, add, _, scanned⟩ := scan_written written
    rw [scanned, scan_openDouble, ← List.append_nil body, scan_double quoted]
    rfl
  | escape written =>
    obtain ⟨begun, add, _, scanned⟩ := scan_written written
    rw [scanned]
    rfl
  | doubleEscape written quoted =>
    obtain ⟨begun, add, _, scanned⟩ := scan_written written
    rw [scanned, scan_openDouble, scan_double quoted]
    rfl

end Scanning

/-- The tokens of a command line that is not blank are those that it is written as, and it is refused
exactly if something is missing from it, which is then told. One of the two is always so. -/
theorem split_eq_iff (command : Text) (notBlank : Text.isBlankText command = false) :
    (∀ tokens, split command = .ok tokens ↔ Writes command tokens) ∧
      (∀ missing, split command = .error missing ↔ missing.Cuts command) ∧
      ((∃ tokens, Writes command tokens) ∨ ∃ missing : Incomplete, missing.Cuts command) ∧
      Incomplete.escape.reason = "No escaped character" ∧
      Incomplete.quotation.reason = "No closing quotation" := by
  have split_eq : split command = scan (.outside false) command := by
    rw [split, notBlank, if_neg Bool.false_ne_true]
  refine ⟨fun tokens => ?_, fun missing => ?_, writes_or_cuts command, rfl, rfl⟩
  · rw [split_eq]
    refine ⟨fun scanned => ?_, scan_of_writes⟩
    obtain ⟨others, written⟩ | ⟨missing, cut⟩ := writes_or_cuts command
    · rw [scan_of_writes written] at scanned
      exact Except.ok.inj scanned ▸ written
    · rw [scan_of_cuts cut] at scanned
      exact absurd scanned (by simp)
  · rw [split_eq]
    refine ⟨fun scanned => ?_, scan_of_cuts⟩
    obtain ⟨tokens, written⟩ | ⟨other, cut⟩ := writes_or_cuts command
    · rw [scan_of_writes written] at scanned
      exact absurd scanned (by simp)
    · rw [scan_of_cuts cut] at scanned
      exact Except.error.inj scanned ▸ cut

/-- A command line with an empty token, one of joined pieces, and a line break that is kept. -/
def joinedPieces : Text := "cc -D'a b'\"\\\"\\c\"\\ d\t'' \\\n\r"

/-- Pieces that touch are one token, and a pair of quotes alone is an empty one. -/
theorem split_eq_iff_joinedPieces :
    Text.isBlankText joinedPieces = false ∧
      Writes joinedPieces ["cc", "-Da b\"\\c d", "", "\n"] := by
  have notBlank : Text.isBlankText joinedPieces = false := by cbv
  have tokens : split joinedPieces = .ok ["cc", "-Da b\"\\c d", "", "\n"] := by cbv
  exact ⟨notBlank, ((split_eq_iff joinedPieces notBlank).1 _).1 tokens⟩

end CompileFlags.Command
