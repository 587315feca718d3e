import CompileFlags.Proofs.OptionLine
import CompileFlags.Proofs.Path.Resolve
import CompileFlags.Proofs.Stripping

/-!
# Entries as build commands

An entry can be written as a build command again: its file, its base directory, and its options behind
some compiler, either as an argument list or as one command line. In a line every token stands in single
quotes, and a single quote within it between double ones (`Command.quote`); so a line of tokens has these
tokens, whatever they hold (`Command.split_line`). Nothing in an entry is left to be resolved or stripped,
so both build commands give the entry back (`Entry.normalize?_restated`).
-/

namespace CompileFlags

namespace Command

variable {token rest : Text}

/-- A character between single quotes. A single quote ends the quotation, stands between double quotes,
and opens a new one. -/
def quoteOne (c : CodePoint) : Text := if c = '\'' then "'\"'\"'" else [c]

/-- A token in single quotes. -/
def quote (token : Text) : Text := .char '\'' :: (token.flatMap quoteOne ++ [.char '\''])

/-- Tokens on one line, each in quotes, with a blank between each two. -/
def line (tokens : List Text) : Text := List.intercalate " " (tokens.map quote)

lemma scan_quoteOne (c : CodePoint) (rest : Text) :
    scan .single (quoteOne c ++ rest) = (scan .single rest).map (push c) := by
  rw [quoteOne]
  split
  · rename_i isQuote
    subst isQuote
    -- behind the quote that closes, a piece of its own holds the one that is meant
    have inDouble : Piece [.char '"', .char '\'', .char '"'] [.char '\''] :=
      .double (.plain (by decide) (by decide) .nil)
    have between : scan (.outside true) ([.char '"', .char '\'', .char '"'] ++ .char '\'' :: rest) =
        (scan (.outside true) (.char '\'' :: rest)).map (pushAll [.char '\'']) := scan_piece inDouble
    rw [scan_openSingle, pushAll_cons, pushAll_nil, Function.comp_id] at between
    exact between
  · rename_i ne
    exact if_neg ne

lemma scan_quote_body (token rest : Text) :
    scan .single (token.flatMap quoteOne ++ .char '\'' :: rest) =
      (scan (.outside true) rest).map (pushAll token) := by
  induction token with
  | nil => rw [List.flatMap_nil, List.nil_append, pushAll_nil, map_id, scan, if_pos rfl]
  | cons c token ih =>
    rw [List.flatMap_cons, List.append_assoc, scan_quoteOne, ih, map_map, pushAll_cons]

/-- A quoted token is written as the token alone. -/
lemma writes_quote (token : Text) : Writes (quote token) [token] := by
  apply writes_of_scan
  rw [quote, scan_openSingle, scan_quote_body, scan]
  exact congrArg (fun text => Except.ok [text]) (List.append_nil token)

lemma writes_line (tokens : List Text) : Writes (line tokens) tokens := by
  have each : List.Forall₂ Writes (tokens.map quote) (tokens.map ([·])) := by
    rw [List.forall₂_map_left_iff, List.forall₂_map_right_iff, List.forall₂_same]
    exact fun token _ => writes_quote token
  have written := writes_intercalate each
  rwa [← List.flatMap_def, List.flatMap_singleton'] at written

/-- A line of quoted tokens is split into these tokens. -/
lemma split_line (tokens : List Text) : split (line tokens) = .ok tokens := by
  have written := split_of_writes (writes_line tokens)
  cases tokens with
  | nil => exact written
  | cons token tokens =>
    have notBlank : Text.isBlankText (line (token :: tokens)) = false := by
      cases tokens with
      | nil => rfl
      | cons next tokens => rfl
    rwa [notBlank] at written

end Command

namespace BuildCommand

variable {env : Env} {file directory : Option Text} {arguments : Option (List Text)}

/-- A line of quoted words stands for the words, whatever argument list comes with it. -/
lemma words?_line (words : List Text) :
    words? ⟨directory, file, some (Command.line words), arguments⟩ = some words :=
  congrArg Except.toOption (Command.split_line words)

lemma normalize?_line (words : List Text) :
    normalize? env ⟨directory, file, some (Command.line words), arguments⟩ =
      normalize? env ⟨directory, file, none, some words⟩ := by
  rw [normalize?, normalize?, words?_line]
  rfl

lemma fault?_line (words : List Text) :
    fault? env ⟨directory, file, some (Command.line words), arguments⟩ =
      fault? env ⟨directory, file, none, some words⟩ := by
  rw [fault?, fault?, words?_line]
  rfl

end BuildCommand

namespace Entry

variable {env : Env} {c : BuildCommand} {e : Entry}

/-- An entry as a build command with an argument list. -/
def toArguments (e : Entry) (compiler : Text) : BuildCommand where
  directory := some e.base
  file := some e.file
  command := none
  arguments := some (compiler :: e.options)

/-- An entry as a build command with a command line. -/
def toCommandLine (e : Entry) (compiler : Text) : BuildCommand where
  directory := some e.base
  file := some e.file
  command := some (Command.line (compiler :: e.options))
  arguments := none

lemma source?_toArguments (wellFormed : e.IsWellFormed env) (compiler : Text) :
    (e.toArguments compiler).source? = some (e.file, e.base) := by
  apply BuildCommand.source?_eq_some_iff.2
  exact ⟨rfl, rfl, Path.ne_nil_of_isAbsolute wellFormed.file_isNormal.absolute,
    wellFormed.base_ne_empty⟩

lemma relevantArguments_options (wellFormed : e.IsWellFormed env) :
    relevantArguments e.options = e.options := by
  apply relevantArguments_eq_self
  intro option mem
  exact ⟨wellFormed.ne_terminator option mem, wellFormed.ne_compile option mem,
    wellFormed.not_output option mem⟩

lemma stripOptions_options (wellFormed : e.IsWellFormed env) :
    stripOptions env e.file e.base e.options = e.options := by
  rw [stripOptions, relevantArguments_options wellFormed, List.filter_eq_self]
  intro option mem
  exact decide_eq_true (wellFormed.ne_file option mem)

lemma normalize?_toArguments (wellFormed : e.IsWellFormed env) (compiler : Text) :
    (e.toArguments compiler).normalize? env = some e := by
  apply BuildCommand.normalize?_eq_some_iff.2
  refine ⟨e.file, compiler :: e.options, source?_toArguments wellFormed compiler, rfl, ?_, ?_,
    wellFormed.options_ne_nil⟩
  · exact (Path.expand_of_isNormal wellFormed.file_isNormal env e.base).symm
  · exact (stripOptions_options wellFormed).symm

/-- Each option of an entry can be resolved if the paths of its build command can. -/
lemma fault?_option (made : c.normalize? env = some e) (resolved : c.fault? env = none) {option : Text}
    (mem : option ∈ e.options) : Path.fault? env option e.base = none := by
  obtain ⟨file, words, source, words_eq, _, options_eq, _⟩ :=
    BuildCommand.normalize?_eq_some_iff.1 made
  rw [options_eq, stripOptions] at mem
  rw [BuildCommand.fault?, source, words_eq] at resolved
  refine Path.firstFault?_eq_none_iff.1 resolved option ?_
  exact List.mem_cons_of_mem file (List.mem_of_mem_filter mem)

/-- An entry depends on no path but those of its build command. -/
lemma fault?_toArguments (made : c.normalize? env = some e) (resolved : c.fault? env = none)
    (compiler : Text) : (e.toArguments compiler).fault? env = none := by
  have wellFormed := isWellFormed_of_normalize? made
  have arguments : ((e.toArguments compiler).words?.getD []).drop 1 = e.options := rfl
  rw [BuildCommand.fault?, source?_toArguments wellFormed, arguments]
  dsimp only
  rw [relevantArguments_options wellFormed, Path.firstFault?_eq_none_iff, List.forall_mem_cons]
  -- the file is absolute by now, the base directory may not be
  exact ⟨wellFormed.file_isNormal.fault?_eq_none env e.base, fun _ => fault?_option made resolved⟩

/-- An entry that is written as a build command is made again, in either form, whatever its options hold
and whatever the compiler is called; and its paths can be resolved where those of its build command
could. More than that, a command line of quoted words and the list of these words always give the same
entry. -/
theorem normalize?_restated (made : c.normalize? env = some e) (compiler : Text) :
    (e.toArguments compiler).normalize? env = some e ∧
    (e.toCommandLine compiler).normalize? env = some e ∧
    (c.fault? env = none → (e.toArguments compiler).fault? env = none ∧
      (e.toCommandLine compiler).fault? env = none) ∧
    ∀ directory file arguments words,
      BuildCommand.normalize? env ⟨directory, file, some (Command.line words), arguments⟩ =
        BuildCommand.normalize? env ⟨directory, file, none, some words⟩ := by
  have restated := normalize?_toArguments (isWellFormed_of_normalize? made) compiler
  refine ⟨restated, ?_, ?_, fun _ _ _ => BuildCommand.normalize?_line⟩
  · rw [toCommandLine, BuildCommand.normalize?_line]
    exact restated
  · intro resolved
    have again := fault?_toArguments made resolved compiler
    refine ⟨again, ?_⟩
    rw [toCommandLine, BuildCommand.fault?_line]
    exact again

/-- Options with quotes, a line break and a backslash, and an empty one, are read again. -/
theorem normalize?_restated_quoted :
    let e : Entry := ⟨"/w/a.c", ["-DA='x y'", "", "-DB=\"\n\\"], "/w"⟩
    let c : BuildCommand := ⟨some "/w", some "a.c", none,
      some ["cc", "-DA='x y'", "", "-c", "-DB=\"\n\\", "-o", "a.o", "a.c"]⟩
    c.normalize? plainEnv = some e ∧ (e.toArguments "cc").normalize? plainEnv = some e ∧
      (e.toCommandLine "it's").normalize? plainEnv = some e := by
  intro e c
  have made : c.normalize? plainEnv = some e := by cbv
  exact ⟨made, (normalize?_restated made "cc").1, (normalize?_restated made "it's").2.1⟩

end Entry

end CompileFlags
