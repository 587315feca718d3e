import CompileFlags.Expression.Token

/-!
# Escapes in quoted texts

A backslash in a quoted text starts an escape. Some escapes spell the number of a character in
hexadecimal digits, and there have to be enough of them. Positions count a character beyond the
first 128 as ten, the length of its own escape.
-/

namespace CompileFlags.Expression

/-- The letters of the escapes that spell a number, how many digits each takes, and its form in
messages. -/
def numericEscapes : List (Char × Nat × String) := [
  ('x', 2, "\\xXX"), ('u', 4, "\\uXXXX"), ('U', 8, "\\UXXXXXXXX")]

/-- The value of a hexadecimal digit. -/
def hexDigit? (c : CodePoint) : Option Nat :=
  c.char?.bind fun c =>
    if c.isDigit then some (c.toNat - 48)
    else if 'a' ≤ c && c ≤ 'f' then some (c.toNat - 87)
    else if 'A' ≤ c && c ≤ 'F' then some (c.toNat - 55)
    else none

/-- What is wrong with an escape at a position, given the text after its backslash. -/
def escapeFault? (position : Nat) : Text → Option Fault
  | .char 'N' :: rest =>
    match rest with
    | .char '{' :: named =>
      let length := (named.takeWhile (· ≠ CodePoint.char '}')).length
      if length = 0 || !named.contains '}' then
        some (.malformedName position (position + 2 + length))
      else none
    | _ => some (.malformedName position (position + 1))
  | .char c :: rest =>
    match numericEscapes.lookup c with
    | none => none
    | some (width, form) =>
      let digits := (rest.take width).takeWhile fun c => (hexDigit? c).isSome
      let last := position + 1 + digits.length
      if digits.length < width then some (.shortEscape position last form)
      else if (digits.filterMap hexDigit?).foldl (fun n d => 16 * n + d) 0 > 0x10ffff then
        some (.noCharacter position last)
      else none
  | _ => none

/-- The first fault of the escapes of a text, from a position on. -/
def textFault? (position : Nat) : Text → Option Fault
  | [] => none
  | [_] => none
  | c :: d :: rest =>
    let width (c : CodePoint) : Nat := if c.number < 0x80 then 1 else 10
    if c = '\\' then
      match escapeFault? position (d :: rest) with
      | some fault => some fault
      | none => textFault? (position + (if d.number < 0x80 then 2 else 16)) rest
    else textFault? (position + width c) (d :: rest)

/-- The first fault of the escapes of bytes, from a position on. -/
def bytesFault? (position : Nat) : Text → Option Fault
  | [] => none
  | [_] => none
  | c :: d :: rest =>
    if c = '\\' then
      if d = 'x' && ((rest.take 2).takeWhile fun c => (hexDigit? c).isSome).length < 2 then
        some (.shortByte position)
      else bytesFault? (position + 2) rest
    else bytesFault? (position + 1) (d :: rest)

/-- What is wrong with a quoted text, given the letters before its quote. -/
def quotedFault? (letters body : Text) : Option Fault :=
  if letters.contains 'b' then
    if body.any (·.number ≥ 0x80) then some .wideByte
    else if letters.contains 'r' then none
    else bytesFault? 0 body
  else if letters.contains 'r' || letters.contains 'f' then none
  else textFault? 0 body

end CompileFlags.Expression
