import CompileFlags.Expression.Token
import CompileFlags.Text.Identifier
import CompileFlags.Text.Printable

/-!
# Reading tokens

An expression is split into its tokens from left to right. The longest mark that is possible is
taken. Line ends count only where no bracket is open.
-/

namespace CompileFlags.Expression.Lexer

/-- A token or number and what is left after it. -/
abbrev Lexing (α : Type) := Except Fault (α × Text)

/-- Whether a code point is a letter, a digit or an underscore of the first 128 characters. -/
def isPlainWord (c : CodePoint) : Bool := c.isIn fun c => c.isAlphanum || c = '_'

/-- Whether a code point can be a part of a word. Beyond the first 128 all can, at first. -/
def continuesWord (c : CodePoint) : Bool := c.number ≥ 0x80 || isPlainWord c

/-- Whether a text starts with a decimal digit. -/
def startsDigit (t : Text) : Bool := (t.head?.map (·.isIn Char.isDigit)).getD false

/-- The words that may follow a number without a blank. -/
def wordsAfterNumber : List String := ["and", "else", "for", "if", "in", "is", "not", "or"]

/-- Ends a number, which no other letter or digit of the first 128 characters may follow. -/
def endNumber (kind : String) (token : Token) (rest : Text) : Lexing Token :=
  if wordsAfterNumber.any (Text.ofString · |>.isPrefixOf rest) then .ok (token, rest)
  else if (rest.head?.map isPlainWord).getD false then .error (.malformedNumber kind)
  else .ok (token, rest)

/-- Decimal digits, among which single underscores may stand; gives their number. -/
def digitRun (t : Text) : Lexing Nat :=
  let run := t.takeWhile (·.isIn fun c => c.isDigit || c = '_')
  if (run.splitOn (.char '_')).any (·.isEmpty) then .error (.malformedNumber "decimal")
  else .ok ((run.filter (· ≠ CodePoint.char '_')).length, t.drop run.length)

/-- Digits of another base, after the letter that names it. -/
def radixNumber (kind : String) (isDigit : Char → Bool) (t : Text) : Lexing Token :=
  let run := t.takeWhile (·.isIn fun c => isDigit c || c = '_')
  let rest := t.drop run.length
  let groups := (if run.head? = some (.char '_') then run.tail else run).splitOn (.char '_')
  if groups.dropLast.any (·.isEmpty) then .error (.malformedNumber kind)
  else
    match rest with
    | .char c :: _ =>
      if c.isDigit then .error (.malformedDigit c kind)
      else if groups.any (·.isEmpty) then .error (.malformedNumber kind)
      else endNumber kind (.number false 0) rest
    | _ =>
      if groups.any (·.isEmpty) then .error (.malformedNumber kind)
      else endNumber kind (.number false 0) rest

/-- The end of a number that is not whole, where it may turn out to be imaginary. -/
def endFraction : Text → Lexing Token
  | .char 'j' :: rest | .char 'J' :: rest => endNumber "imaginary" (.number true 0) rest
  | rest => endNumber "decimal" (.number false 0) rest

/-- An exponent, if there is one, and the end of the number. -/
def exponentAndEnd (t : Text) : Lexing Token :=
  let digitsAndEnd (t : Text) : Lexing Token :=
    match digitRun t with
    | .ok (_, rest) => endFraction rest
    | .error fault => .error fault
  match t with
  | .char 'e' :: rest | .char 'E' :: rest =>
    match rest with
    | .char '+' :: rest | .char '-' :: rest =>
      if startsDigit rest then digitsAndEnd rest else .error (.malformedNumber "decimal")
    | rest =>
      if startsDigit rest then digitsAndEnd rest else endNumber "decimal" (.number false 0) t
  | t => endFraction t

/-- What follows the point of a number. -/
def fraction (t : Text) : Lexing Token :=
  if startsDigit t then
    match digitRun t with
    | .ok (_, rest) => exponentAndEnd rest
    | .error fault => .error fault
  else exponentAndEnd t

/-- A decimal number that starts with a digit. Zeros in front are for numbers that are not whole. -/
def decimalNumber (t : Text) : Lexing Token :=
  match digitRun t with
  | .error fault => .error fault
  | .ok (count, rest) =>
    let digits := t.take (t.length - rest.length)
    match rest with
    | .char '.' :: rest => fraction rest
    | .char 'e' :: _ | .char 'E' :: _ => exponentAndEnd rest
    | .char 'j' :: _ | .char 'J' :: _ => endFraction rest
    | rest =>
      if digits.head? = some '0' && digits.any (fun c => c ≠ '0' && c ≠ '_') then
        .error .leadingZeros
      else endNumber "decimal" (.number false count) rest

/-- A number that starts with a digit. -/
def number : Text → Lexing Token
  | .char '0' :: .char 'x' :: rest | .char '0' :: .char 'X' :: rest =>
    radixNumber "hexadecimal"
      (fun c => c.isDigit || ('a' ≤ c && c ≤ 'f') || ('A' ≤ c && c ≤ 'F')) rest
  | .char '0' :: .char 'o' :: rest | .char '0' :: .char 'O' :: rest =>
    radixNumber "octal" (fun c => '0' ≤ c && c ≤ '7') rest
  | .char '0' :: .char 'b' :: rest | .char '0' :: .char 'B' :: rest =>
    radixNumber "binary" (fun c => c = '0' || c = '1') rest
  | t => decimalNumber t

/-- What stands before the closing quote or quotes, and what is left after them. Without any, the
number of line ends before the place where they are missed. -/
def untilQuote (quote : Char) (long : Bool) (lines : Nat) : Text → Except Nat (Text × Text)
  | [] => .error lines
  | [c] => if c = quote && !long then .ok ([], []) else .error lines
  | c :: d :: rest =>
    let passed := if c = '\n' then lines + 1 else lines
    if c = '\\' then
      (untilQuote quote long (if d = '\n' then lines + 1 else lines) rest).map
        fun (body, rest) => (c :: d :: body, rest)
    else if c = quote && (!long || (d = quote && rest.head? = some (.char quote))) then
      .ok ([], if long then rest.tail else d :: rest)
    else if c = '\n' && !long then .error lines
    else (untilQuote quote long passed (d :: rest)).map fun (body, rest) => (c :: body, rest)

/-- A quoted text after its first quote, on a line. -/
def quotedText (letters : Text) (quote : Char) (line : Nat) (t : Text) : Lexing Token :=
  let long := t.head? = some (.char quote) && t.tail.head? = some (.char quote)
  match untilQuote quote long 0 (if long then t.drop 2 else t) with
  | .ok (body, rest) => .ok (.quoted letters body, rest)
  | .error lines =>
    .error (if long then .openLongQuote (line + lines) else .openQuote (line + lines))

/-- The letters that may stand before a quote. -/
def quoteLetters : List Text := ["", "u", "b", "r", "f", "br", "rb", "fr", "rf"]

/-- The marks of three and of two characters, the longer ones first. -/
def longMarks : List Text := [
  "**=", "//=", "<<=", ">>=", "...",
  "!=", "%=", "&=", "**", "*=", "+=", "-=", "->", "//", "/=", ":=", "<<", "<=", "<>", "==", ">=",
  ">>", "@=", "^=", "|="]

/-- The first character of a word that cannot stand where it stands. -/
def strange? : Text → Option Char
  | [] => none
  | c :: rest =>
    if c.isIn Text.startsIdentifier then
      ((rest.find? fun c => !c.isIn Text.continuesIdentifier).bind CodePoint.char?)
    else c.char?

/-- A word, or a quoted text with letters in front. -/
def wordOrQuoted (line : Nat) (t : Text) : Lexing Token :=
  let word := t.takeWhile continuesWord
  let rest := t.drop word.length
  let letters := word.map fun c => (c.char?.map fun c => CodePoint.char c.toLower).getD c
  let named : Lexing Token :=
    match strange? word with
    | none => .ok (.word word, rest)
    | some c =>
      .error (if Text.isPrintable c then .strangeCharacter c else .invisibleCharacter c)
  match rest with
  | .char '"' :: after =>
    if quoteLetters.contains letters then quotedText letters '"' line after else named
  | .char '\'' :: after =>
    if quoteLetters.contains letters then quotedText letters '\'' line after else named
  | _ => named

/-- The brackets that are open at a place, innermost first, each with its line. -/
abbrev Open := List (Char × Nat)

/-- What stands at the end of the tokens: the brackets that are open there, or a backslash that no
line end follows. -/
inductive Ending where
  | brackets (opened : Open)
  | backslash
deriving DecidableEq, Repr

/-- The most brackets that can be open. -/
def maxDepth : Nat := 200

/-- The bracket that closes another. -/
def closing (opening : Char) : Char :=
  if opening = '(' then ')' else if opening = '[' then ']' else '}'

/-- The open brackets after a character. -/
def brackets (opened : Open) (line : Nat) (c : Char) : Except Fault Open :=
  if c = '(' || c = '[' || c = '{' then
    if maxDepth ≤ opened.length then .error .tooDeep else .ok ((c, line) :: opened)
  else if c = ')' || c = ']' || c = '}' then
    match opened with
    | [] => .error (.unmatched c)
    | (opening, openingLine) :: outer =>
      if closing opening = c then .ok outer
      else
        .error (.mismatched c opening (if openingLine = line then none else some openingLine))
  else .ok opened

/-- White space inside a line. -/
def isInlineBlank (c : CodePoint) : Bool := c = ' ' || c = '\t' || c = '\x0c'

/-- The tokens of an expression from a place on, and what stands at their end. Every step takes a
code point at least, which the fuel counts. -/
def tokensFrom : Nat → Open → Nat → Text → Except Fault (List Placed × Ending)
  | 0, opened, _, _ => .ok ([], .brackets opened)
  | fuel + 1, opened, line, t =>
    let place (token : Token) (line : Nat) (opened : Open) (line' : Nat) (rest : Text) :
        Except Fault (List Placed × Ending) :=
      (tokensFrom fuel opened line' rest).map fun (tokens, last) =>
        (⟨token, line, opened.length⟩ :: tokens, last)
    match t with
    | [] => .ok (if opened = [] then [⟨.finish, line, 0⟩] else [], .brackets opened)
    | c :: rest =>
      if isInlineBlank c then tokensFrom fuel opened line rest
      else if c = '#' then
        tokensFrom fuel opened line (rest.dropWhile (· ≠ CodePoint.char '\n'))
      else if c = '\n' then
        if opened ≠ [] then tokensFrom fuel opened (line + 1) rest
        else
          let content := rest.dropWhile isInlineBlank
          let margin := (rest.takeWhile isInlineBlank).reverse.takeWhile (· ≠ CodePoint.char '\x0c')
          if margin = [] || content.head? = some '\n' || content.head? = some '#' then
            place .lineEnd line opened (line + 1) rest
          else
            (place .indent (line + 1) opened (line + 1) content).map fun (tokens, last) =>
              (⟨.lineEnd, line, 0⟩ :: tokens, last)
      else if c = '\\' then
        if rest.head? = some '\n' then tokensFrom fuel opened (line + 1) rest.tail
        else .ok ([], .backslash)
      else
        match c with
        | .surrogate _ => .error .unexpected
        | .char c =>
          let lexed : Lexing Token → Except Fault (List Placed × Ending)
            | .error fault => .error fault
            | .ok (token, rest) =>
              let passed := (t.take (t.length - rest.length)).count (.char '\n')
              place token line opened (line + passed) rest
          if c.isDigit || (c = '.' && startsDigit rest) then
            lexed (if c = '.' then fraction rest else number t)
          else if continuesWord c || c = '"' || c = '\'' then lexed (wordOrQuoted line t)
          else
            match longMarks.find? (·.isPrefixOf t) with
            | some mark => place (.mark mark) line opened line (t.drop mark.length)
            | none =>
              match brackets opened line c with
              | .error fault => .error fault
              | .ok opened =>
                if Text.isPrintable c then place (.mark [c]) line opened line rest
                else .error (.invisibleCharacter c)

/-- The tokens of an expression, and what stands at their end. Empty lines in front do not count. -/
def tokens (t : Text) : Except Fault (List Placed × Ending) :=
  (tokensFrom (t.length + 1) [] 1 t).map fun (tokens, ending) =>
    (tokens.dropWhile (·.token = .lineEnd), ending)

end CompileFlags.Expression.Lexer
