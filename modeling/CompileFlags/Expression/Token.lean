import CompileFlags.Text.Basic
import CompileFlags.Text.Digits

/-!
# Tokens of expressions

The arguments of a tag are an expression. It is made of words, numbers, quoted texts and marks. What
is wrong with an expression is said about the first token that cannot stand where it stands.
-/

namespace CompileFlags.Expression

/-- A token. -/
inductive Token where
  /-- A name or a keyword. -/
  | word (name : Text)
  /-- A number, and how many digits it has if it is a whole number written in decimal digits. -/
  | number (imaginary : Bool) (digits : Nat)
  /-- What stands between quotes, and the letters in front, in lower case. -/
  | quoted (letters : Text) (body : Text)
  /-- An operator, a bracket or another sign. -/
  | mark (spelling : Text)
  /-- The end of a line that no bracket keeps open. -/
  | lineEnd
  /-- White space at the start of a line. -/
  | indent
  /-- The end of an expression, unless a bracket keeps it open. -/
  | finish
deriving DecidableEq, Repr

/-- A token, the line it is on, and how many brackets are open after it. -/
structure Placed where
  token : Token
  line : Nat
  depth : Nat
deriving DecidableEq, Repr

/-- What can be wrong with an expression. -/
inductive Fault where
  /-- It holds the null character. -/
  | nullCharacter
  /-- A character has no meaning outside quotes. -/
  | strangeCharacter (c : Char)
  /-- A character that does not print stands outside quotes. -/
  | invisibleCharacter (c : Char)
  /-- Something follows the backslash that continues a line. -/
  | afterBackslash
  /-- A quote is not closed, on a line. -/
  | openQuote (line : Nat)
  /-- Three quotes in a row are not closed; the text ends on a line. -/
  | openLongQuote (line : Nat)
  /-- A number of some kind goes on with something else. -/
  | malformedNumber (kind : String)
  /-- A digit is too large for its kind of number. -/
  | malformedDigit (digit : Char) (kind : String)
  /-- A decimal number starts with zeros. -/
  | leadingZeros
  /-- A whole number has more digits than are read. -/
  | tooManyDigits (count : Nat)
  /-- A bracket closes nothing. -/
  | unmatched (closing : Char)
  /-- A bracket closes one of another kind, which may be on another line. -/
  | mismatched (closing opening : Char) (line : Option Nat)
  /-- A bracket is not closed. -/
  | openBracket (opening : Char)
  /-- More brackets are open than can be. -/
  | tooDeep
  /-- An escape in a text is cut short, from a position up to another. -/
  | shortEscape (first last : Nat) (form : String)
  /-- An escape in a text names a number beyond all characters. -/
  | noCharacter (first last : Nat)
  /-- An escape in a text should name a character. -/
  | malformedName (first last : Nat)
  /-- An escape in bytes is cut short. -/
  | shortByte (position : Nat)
  /-- Bytes are written with other characters than the first 128. -/
  | wideByte
  /-- Bytes and texts stand side by side. -/
  | mixedTexts
  /-- A line starts with white space. -/
  | indented
  /-- A comma may be missing. -/
  | missingComma
  /-- A condition has no alternative. -/
  | missingElse
  /-- A statement of old needs parentheses now. -/
  | missingParentheses (word : Text)
  /-- One equals sign stands in place of two. -/
  | singleEquals
  /-- One equals sign stands after what nothing can be assigned to. -/
  | assigned (kind : String)
  /-- A constant is the name of an argument. -/
  | assignedConstant (word : Text)
  /-- An argument that is no name is assigned to. -/
  | assignedArgument
  /-- Only a name can get a value inside an expression. -/
  | namedExpression (kind : String)
  /-- Nothing that can be unpacked follows a star. -/
  | emptyStar
  /-- An unpacked list stands alone. -/
  | loneStar
  /-- An unpacked map stands alone. -/
  | loneDoubleStar
  /-- An unpacked list is gone through. -/
  | starInComprehension
  /-- An unpacked map is gone through. -/
  | doubleStarInComprehension
  /-- A key has no colon. -/
  | missingColon
  /-- A key has no value. -/
  | missingValue
  /-- A value is an unpacked list. -/
  | starredValue
  /-- A generator needs parentheses among other arguments. -/
  | bareGenerator
  /-- An argument without a name follows one with a name. -/
  | positionalAfterNamed
  /-- An argument without a name follows an unpacked map. -/
  | positionalAfterMap
  /-- An unpacked list follows an unpacked map. -/
  | listAfterMap
  /-- What is gone through needs parentheses around it. -/
  | bareTarget
  /-- Nothing of this kind can take the elements that are gone through. -/
  | fixedTarget (kind : String)
  /-- Anything else. -/
  | unexpected
deriving DecidableEq, Repr

/-- The number of a character, in four capital hexadecimal digits or more. -/
def codeOf (c : Char) : String := String.ofList ((Text.hex 4 c.toNat).map Char.toUpper)

/-- The words about an escape between two positions of a text. -/
def escapeMessage (first last : Nat) (complaint : String) : String :=
  "(unicode error) 'unicodeescape' codec can't decode bytes in position " ++
    toString first ++ "-" ++ toString last ++ ": " ++ complaint

/-- The words for a fault. -/
def Fault.message : Fault → Text
  | .nullCharacter => "source code string cannot contain null bytes"
  | .strangeCharacter c => "invalid character '" ++ String.ofList [c] ++ "' (U+" ++ codeOf c ++ ")"
  | .invisibleCharacter c => "invalid non-printable character U+" ++ codeOf c
  | .afterBackslash => "unexpected character after line continuation character"
  | .openQuote line => "unterminated string literal (detected at line " ++ toString line ++ ")"
  | .openLongQuote line =>
    "unterminated triple-quoted string literal (detected at line " ++ toString line ++ ")"
  | .malformedNumber kind => "invalid " ++ kind ++ " literal"
  | .malformedDigit digit kind =>
    "invalid digit '" ++ String.ofList [digit] ++ "' in " ++ kind ++ " literal"
  | .leadingZeros =>
    "leading zeros in decimal integer literals are not permitted; " ++
      "use an 0o prefix for octal integers"
  | .tooManyDigits count =>
    (Text.NumberFault.tooManyDigits count).message ++
      " - Consider hexadecimal for huge integer literals to avoid decimal conversion limits."
  | .unmatched closing => "unmatched '" ++ String.ofList [closing] ++ "'"
  | .mismatched closing opening line =>
    "closing parenthesis '" ++ String.ofList [closing] ++
      "' does not match opening parenthesis '" ++ String.ofList [opening] ++ "'" ++
      (line.map fun n => " on line " ++ toString n).getD ""
  | .openBracket opening => "'" ++ String.ofList [opening] ++ "' was never closed"
  | .tooDeep => "too many nested parentheses"
  | .shortEscape first last form => escapeMessage first last ("truncated " ++ form ++ " escape")
  | .noCharacter first last => escapeMessage first last "illegal Unicode character"
  | .malformedName first last => escapeMessage first last "malformed \\N character escape"
  | .shortByte position => "(value error) invalid \\x escape at position " ++ toString position
  | .wideByte => "bytes can only contain ASCII literal characters"
  | .mixedTexts => "cannot mix bytes and nonbytes literals"
  | .indented => "unexpected indent"
  | .missingComma => "invalid syntax. Perhaps you forgot a comma?"
  | .missingElse => "expected 'else' after 'if' expression"
  | .missingParentheses word =>
    "Missing parentheses in call to '" ++ word ++ "'. Did you mean " ++ word ++ "(...)?"
  | .singleEquals => "invalid syntax. Maybe you meant '==' or ':=' instead of '='?"
  | .assigned kind =>
    "cannot assign to " ++ kind ++ " here. Maybe you meant '==' instead of '='?"
  | .assignedConstant word => "cannot assign to " ++ word
  | .assignedArgument => "expression cannot contain assignment, perhaps you meant \"==\"?"
  | .namedExpression kind => "cannot use assignment expressions with " ++ kind
  | .emptyStar => "Invalid star expression"
  | .loneStar => "cannot use starred expression here"
  | .loneDoubleStar => "cannot use double starred expression here"
  | .starInComprehension => "iterable unpacking cannot be used in comprehension"
  | .doubleStarInComprehension => "dict unpacking cannot be used in dict comprehension"
  | .missingColon => "':' expected after dictionary key"
  | .missingValue => "expression expected after dictionary key and ':'"
  | .starredValue => "cannot use a starred expression in a dictionary value"
  | .bareGenerator => "Generator expression must be parenthesized"
  | .positionalAfterNamed => "positional argument follows keyword argument"
  | .positionalAfterMap => "positional argument follows keyword argument unpacking"
  | .listAfterMap => "iterable argument unpacking follows keyword argument unpacking"
  | .bareTarget => "did you forget parentheses around the comprehension target?"
  | .fixedTarget kind => "cannot assign to " ++ kind
  | .unexpected => "invalid syntax"

end CompileFlags.Expression
