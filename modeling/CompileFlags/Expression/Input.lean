import CompileFlags.Expression.Basic
import CompileFlags.Expression.Escape
import CompileFlags.Expression.Lexer

/-!
# The input of a reader

A reader of expressions takes tokens from the front and gives back those that are left. It goes as
far as it can: where nothing that may follow fits, what is read so far stands. Running out of tokens
and known faults end the reading at once.
-/

namespace CompileFlags.Expression.Reader

/-- The tokens that are left. They run out before the end of an expression that is not finished. -/
abbrev Input := List Placed

/-- Why reading stops: at tokens that cannot stand there, or for a known fault. -/
inductive Stop where
  | unexpected (rest : Input)
  | fault (fault : Fault)
deriving DecidableEq, Repr

/-- What is read, and the tokens after it. -/
abbrev Reading (α : Type) := Except Stop (α × Input)

/-- What is read, or something else if it cannot be read. Running out of tokens goes first, and so
does a known fault. -/
def Reading.orElse {α β : Type} (r : Reading α) (found : α → Input → Reading β)
    (otherwise : Unit → Reading β) : Reading β :=
  match r with
  | .ok (a, rest) => found a rest
  | .error (.unexpected (_ :: _)) => otherwise ()
  | .error stop => .error stop

/-- Goes on with what is read. -/
def Reading.andThen {α β : Type} (r : Reading α) (found : α → Input → Reading β) : Reading β :=
  match r with
  | .ok (a, rest) => found a rest
  | .error stop => .error stop

/-- The mark that opens a map or set. -/
def openingBrace : String := "\x7b"

/-- The mark that closes a map or set. -/
def closingBrace : String := "\x7d"

/-- The words that cannot be names. -/
def keywords : List String := [
  "False", "None", "True", "and", "as", "assert", "async", "await", "break", "class", "continue",
  "def", "del", "elif", "else", "except", "finally", "for", "from", "global", "if", "import", "in",
  "is", "lambda", "nonlocal", "not", "or", "pass", "raise", "return", "try", "while", "with",
  "yield"]

/-- The keywords for constants. -/
def constants : List String := ["True", "False", "None"]

/-- Whether a word is the beginning of one that has a meaning of its own at the start of some
statements. -/
def isSoftKeyword (word : Text) : Bool :=
  ["match", "case", "_"].any fun (keyword : String) => word.isPrefixOf keyword

/-- The statements of old that are functions now. -/
def oldStatements : List String := ["print", "exec"]

/-- Whether a word is one of some strings. -/
def isAmong (words : List String) (word : Text) : Bool := words.any fun w => word = w

/-- Goes past a word or mark, if it is next. -/
def skip? (spelling : String) : Input → Option Input
  | ⟨.word t, _, _⟩ :: rest | ⟨.mark t, _, _⟩ :: rest => if t = spelling then some rest else none
  | _ => none

/-- Whether one of some words and marks is next. -/
def isNext (spellings : List String) (ts : Input) : Bool :=
  spellings.any fun spelling => (skip? spelling ts).isSome

/-- Goes past a word or mark, which has to be next. -/
def skip {α : Type} (spelling : String) (a : α) (ts : Input) : Reading α :=
  match skip? spelling ts with
  | some rest => .ok (a, rest)
  | none => .error (.unexpected ts)

/-- Goes past a name, if one is next. -/
def name? : Input → Option (Text × Input)
  | ⟨.word word, _, _⟩ :: rest => if isAmong keywords word then none else some (word, rest)
  | _ => none

/-- Goes past a name and the mark after it, if they are next. -/
def nameBefore? (mark : String) (ts : Input) : Option Input :=
  (name? ts).bind fun (_, rest) => skip? mark rest

/-- The constant that is next, with the tokens after it. -/
def constant? (ts : Input) : Option (String × Input) :=
  constants.findSome? fun word => (skip? word ts).map (word, ·)

/-- The tokens after an operator that has two sides and does not compare them, and whether it is a
sign. -/
def arithmeticOperator? (ts : Input) : Option (Bool × Input) :=
  match ["+", "-"].findSome? fun (sign : String) => skip? sign ts with
  | some rest => some (true, rest)
  | none =>
    (["*", "/", "//", "%", "@", "<<", ">>", "&", "^", "|"].findSome?
      fun (operator : String) => skip? operator ts).map (false, ·)

/-- The tokens after a comparison. -/
def comparison? (ts : Input) : Option Input :=
  match ["==", "!=", "<", ">", "<=", ">=", "in"].findSome?
    fun (operator : String) => skip? operator ts with
  | some rest => some rest
  | none =>
    match skip? "not" ts, skip? "is" ts with
    | some rest, _ => skip? "in" rest
    | none, some rest => some ((skip? "not" rest).getD rest)
    | none, none => none

/-- Whether an operand may start here, apart from its signs. -/
def startsOperand : Input → Bool
  | ⟨.number _ _, _, _⟩ :: _ | ⟨.quoted _ _, _, _⟩ :: _ => true
  | ts =>
    (name? ts).isSome || (constant? ts).isSome ||
      isNext ["not", "lambda", "await", "(", openingBrace, "...", "~"] ts

/-- The quoted texts that stand side by side here, each with the letters before its quote. -/
def quotedRun : Input → List (Text × Text)
  | ⟨.quoted letters body, _, _⟩ :: rest => (letters, body) :: quotedRun rest
  | _ => []

/-- What is wrong with quoted texts that follow others, which are bytes or not. -/
def quotedRunFault? (bytes : Bool) : List (Text × Text) → Option Fault
  | [] => none
  | (letters, body) :: rest =>
    match quotedFault? letters body with
    | some fault => some fault
    | none => if letters.contains 'b' = bytes then quotedRunFault? bytes rest else some .mixedTexts

/-- Reads quoted texts side by side. -/
def readQuoted (ts : Input) : Reading Expression :=
  let run := quotedRun ts
  match ts.drop run.length, run with
  | [], _ => .error (.unexpected [])
  | rest, [] => .error (.unexpected rest)
  | rest, first :: _ =>
    match quotedRunFault? (first.1.contains 'b') run with
    | some fault => .error (.fault fault)
    | none =>
      let formatted := run.any fun quoted => quoted.1.contains 'f'
      .ok (if formatted then .other "f-string expression" else .quoted, rest)

end CompileFlags.Expression.Reader
