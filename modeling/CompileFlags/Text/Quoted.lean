import CompileFlags.Text.Basic
import CompileFlags.Text.Digits
import CompileFlags.Text.Printable

/-!
# Quoted literals

A text between quotes on one line, as messages show paths and values. The quote is the apostrophe,
unless the text holds apostrophes and no double quote. A backslash, the quote itself, surrogates and
characters that do not print are escaped.
-/

namespace CompileFlags.Text

/-- The escape of a number, the shortest of three that can hold it. -/
def numericEscape (n : Nat) : List Char :=
  if n < 0x100 then '\\' :: 'x' :: hex 2 n
  else if n < 0x10000 then '\\' :: 'u' :: hex 4 n
  else '\\' :: 'U' :: hex 8 n

/-- What stands for one code point between the given quotes. -/
def quoteOne (quote : Char) : CodePoint → List Char
  | .surrogate n => numericEscape (CodePoint.surrogate n).number
  | .char c =>
    if c = quote || c = '\\' then ['\\', c]
    else if c = '\n' then ['\\', 'n']
    else if c = '\r' then ['\\', 'r']
    else if c = '\t' then ['\\', 't']
    else if isPrintable c then [c]
    else numericEscape c.toNat

/-- The quote that a text is written with. -/
def quoteFor (t : Text) : Char := if t.contains '\'' && !t.contains '"' then '"' else '\''

/-- The text as a quoted literal. -/
def quoted (t : Text) : String :=
  let quote := quoteFor t
  String.ofList (quote :: t.flatMap (quoteOne quote) ++ [quote])

end CompileFlags.Text
