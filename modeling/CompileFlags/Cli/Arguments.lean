import CompileFlags.Text.Digits
import CompileFlags.Text.Quoted

/-!
# Command line arguments

The words of a command line are first sorted into options and plain words, and then taken from left
to right. A long option may be shortened as long as only one option starts that way, and its
argument may be joined to it by an equals sign; after `--` every word is plain. Of the plain words
the first is the file, and all others are too many.
-/

namespace CompileFlags.Cli

/-- The options of the command. -/
inductive Flag where
  | help
  | start
  | all
  | absolute
  | json
  | addProject
  | removeProject
deriving DecidableEq, Repr

/-- The spellings of the options, in the order in which they are listed to users. -/
def spellings : List (Text × Flag) := [
  ("-h", .help), ("--help", .help), ("--start", .start), ("--all", .all),
  ("--absolute", .absolute), ("--json", .json), ("--add-project", .addProject),
  ("--remove-project", .removeProject)]

namespace Flag

/-- How many arguments an option takes. -/
def arity : Flag → Nat
  | .help | .all | .absolute | .json => 0
  | .start | .removeProject => 1
  | .addProject => 2

/-- All spellings of an option. -/
def name (f : Flag) : Text :=
  List.intercalate "/" ((spellings.filter (·.2 = f)).map (·.1))

end Flag

/-- Why a command line is refused. -/
inductive Refusal where
  | ambiguous (word : Text) (spellings : List Text)
  | missingArguments (flag : Flag)
  /-- An option that takes no argument, or more than one, has one joined to it. -/
  | ignoredArgument (flag : Flag) (argument : Text)
  | unrecognized (words : List Text)
deriving DecidableEq, Repr

/-- What a user is told about a refused command line. -/
def Refusal.message : Refusal → Text
  | .ambiguous word spellings =>
    "ambiguous option: " ++ word ++ " could match " ++ List.intercalate ", " spellings
  | .missingArguments flag =>
    "argument " ++ flag.name ++ ": expected " ++
      (if flag.arity = 1 then "one argument" else toString flag.arity ++ " arguments")
  | .ignoredArgument flag argument =>
    "argument " ++ flag.name ++ ": ignored explicit argument " ++ Text.quoted argument
  | .unrecognized words => "unrecognized arguments: " ++ List.intercalate " " words

/-- What a word of the command line is. -/
inductive Word where
  | plain (word : Text)
  /-- An option with the spelling it was found by, and the argument joined to it. -/
  | flag (flag : Flag) (spelling : Text) (joined : Option Text)
  /-- A word that looks like an option and is none. -/
  | unknown (word : Text)
  /-- The word after which all words are plain. -/
  | terminator
deriving DecidableEq, Repr

/-- A word cut at its first equals sign. -/
def cutAtEquals (word : Text) : Text × Option Text :=
  match word.dropWhile (· ≠ CodePoint.char '=') with
  | [] => (word, none)
  | _ :: rest => (word.takeWhile (· ≠ '='), some rest)

/-- The options that a word with two dashes may be short for, and those whose one letter a word with
one dash starts with. What follows the letter is joined to it. -/
def candidates (word : Text) : List (Flag × Text × Option Text) :=
  match word with
  | .char '-' :: .char '-' :: _ =>
    let (stem, joined) := cutAtEquals word
    (spellings.filter fun s => stem.isPrefixOf s.1).map fun s => (s.2, s.1, joined)
  | _ => (spellings.filter fun s => s.1 = word.take 2).map fun s => (s.2, s.1, some (word.drop 2))

/-- Digits after a dash, with a point before the last of them at most. A line feed at the end does
no harm. -/
def isNegativeNumber (word : Text) : Bool :=
  let isDigit (c : CodePoint) : Bool := c.isIn Text.isDecimalDigit
  match word with
  | .char '-' :: cs =>
    let cs := if cs.getLast? = some '\n' then cs.dropLast else cs
    match cs.dropWhile isDigit with
    | [] => !cs.isEmpty
    | c :: rest => c = '.' && !rest.isEmpty && rest.all isDigit
  | _ => false

/-- Sorts one word that stands before the terminator. -/
def classify (word : Text) : Except Refusal Word :=
  match word with
  | .char '-' :: _ :: _ =>
    match spellings.lookup word with
    | some flag => .ok (.flag flag word none)
    | none =>
      let (stem, joined) := cutAtEquals word
      match joined, spellings.lookup stem with
      | some argument, some flag => .ok (.flag flag stem (some argument))
      | _, _ =>
        match candidates word with
        | [(flag, spelling, joined)] => .ok (.flag flag spelling joined)
        | [] =>
          if isNegativeNumber word || word.contains ' ' then .ok (.plain word)
          else .ok (.unknown word)
        | several => .error (.ambiguous word (several.map (·.2.1)))
  | _ => .ok (.plain word)

/-- Sorts all words. -/
def classifyAll : List Text → Except Refusal (List Word)
  | [] => .ok []
  | word :: rest =>
    if word = "--" then .ok (.terminator :: rest.map .plain)
    else
      match classify word with
      | .error refusal => .error refusal
      | .ok w => (classifyAll rest).map (w :: ·)

/-- What a command line asks for. -/
structure Arguments where
  file : Option Text := none
  start : Option Text := none
  all : Bool := false
  absolute : Bool := false
  json : Bool := false
  addProject : Option (Text × Text) := none
  removeProject : Option Text := none
deriving DecidableEq, Repr

/-- What to do: answer a request, or show the help. -/
inductive Request where
  | run (arguments : Arguments)
  | help
deriving DecidableEq, Repr

/-- The words taken so far, and those that are too many. -/
structure Taken where
  arguments : Arguments := {}
  extra : List Text := []
deriving DecidableEq, Repr

/-- An argument joined to its option. The terminator is no argument, and leaves none. -/
def joinedArgument (argument : Text) : Option Text :=
  if argument = "--" then none else some argument

/-- The effect of an option with one argument or none. -/
def Arguments.take (a : Arguments) (flag : Flag) (argument : Option Text) : Arguments :=
  match flag with
  | .start => { a with start := argument }
  | .removeProject => { a with removeProject := argument }
  | .all => { a with all := true }
  | .absolute => { a with absolute := true }
  | .json => { a with json := true }
  | _ => a

/-- Reads letters joined to an option of one letter as further options of one letter. -/
def bundled (flag : Flag) : Text → Except Refusal Flag
  | [] => .ok flag
  | c :: rest =>
    match spellings.lookup [.char '-', c] with
    | some next => bundled next rest
    | none => .error (.ignoredArgument flag (c :: rest))

/-- Takes an option with an argument joined to it; `none` if it asks for help. -/
def takeJoined (t : Taken) (flag : Flag) (spelling argument : Text) :
    Except Refusal (Option Taken) :=
  match flag.arity with
  | 1 => .ok (some { t with arguments := t.arguments.take flag (joinedArgument argument) })
  | 0 =>
    if List.isPrefixOf "--" spelling || argument = "" then
      .error (.ignoredArgument flag argument)
    else
      match bundled flag argument with
      | .error refusal => .error refusal
      | .ok .help => .ok none
      | .ok last => .ok (some { t with arguments := t.arguments.take last none })
  | _ => .error (.missingArguments flag)

/-- Takes words from left to right. `awaitsFile` says whether the file is still to come. -/
def takeWords (t : Taken) (awaitsFile : Bool) : List Word → Except Refusal Request
  | [] => if t.extra = [] then .ok (.run t.arguments) else .error (.unrecognized t.extra)
  | .plain word :: rest =>
    if awaitsFile then
      let t := { t with arguments := { t.arguments with file := some word } }
      match rest with
      | .terminator :: rest => takeWords t false rest
      | rest => takeWords t false rest
    else takeWords { t with extra := t.extra ++ [word] } false rest
  | .terminator :: rest =>
    if awaitsFile then
      match rest with
      | .plain word :: rest =>
        takeWords { t with arguments := { t.arguments with file := some word } } false rest
      | rest => takeWords t false rest
    else takeWords { t with extra := t.extra ++ [("--" : Text)] } false rest
  | .unknown word :: rest => takeWords { t with extra := t.extra ++ [word] } awaitsFile rest
  | .flag flag spelling (some argument) :: rest =>
    match takeJoined t flag spelling argument with
    | .error refusal => .error refusal
    | .ok none => .ok .help
    | .ok (some t) => takeWords t awaitsFile rest
  | .flag .help _ none :: _ => .ok .help
  | .flag .addProject _ none :: rest =>
    match rest with
    | .plain root :: .plain database :: rest =>
      takeWords { t with arguments := { t.arguments with addProject := some (root, database) } }
        awaitsFile rest
    | _ => .error (.missingArguments .addProject)
  | .flag flag _ none :: rest =>
    if flag.arity = 0 then
      takeWords { t with arguments := t.arguments.take flag none } awaitsFile rest
    else
      match rest with
      | .plain argument :: rest =>
        takeWords { t with arguments := t.arguments.take flag (some argument) } awaitsFile rest
      | _ => .error (.missingArguments flag)
termination_by structural words => words

/-- What the words of a command line ask for. -/
def parse (words : List Text) : Except Refusal Request :=
  match classifyAll words with
  | .error refusal => .error refusal
  | .ok words => takeWords {} true words

end CompileFlags.Cli
