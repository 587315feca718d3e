/-!
# Texts

A text is a sequence of code points. Nearly all of them are characters. A document can also name one
half of a pair of numbers that stand for a character together; such a surrogate is kept as it is,
equal to itself and to no character.
-/

namespace CompileFlags

/-- A character, or a surrogate, which is no character by itself. -/
inductive CodePoint where
  | char (c : Char)
  /-- The surrogate with this number, counted from the first of them. -/
  | surrogate (n : Fin 0x800)
deriving DecidableEq, Repr, Inhabited

namespace CodePoint

instance : Coe Char CodePoint := ⟨.char⟩

/-- The number of a code point. -/
def number : CodePoint → Nat
  | .char c => c.toNat
  | .surrogate n => 0xd800 + n

/-- The code point with a number. -/
def ofNumber (n : Nat) : CodePoint :=
  if h : 0xd800 ≤ n ∧ n < 0xe000 then .surrogate ⟨n - 0xd800, by omega⟩
  else .char (Char.ofNat n)

/-- The character that a code point is. -/
def char? : CodePoint → Option Char
  | .char c => some c
  | .surrogate _ => none

/-- Whether a code point is a character of some class. -/
def isIn (p : Char → Bool) (c : CodePoint) : Bool := c.char?.any p

end CodePoint

/-- A sequence of code points. -/
abbrev Text := List CodePoint

namespace Text

/-- The text of a string, which holds characters only. -/
def ofString (s : String) : Text := s.toList.map .char

instance : Coe String Text := ⟨ofString⟩

/-- The text as a string, where the replacement character stands for each surrogate. -/
def display (t : Text) : String := String.ofList (t.map fun c => c.char?.getD '\ufffd')

/-- Whether one of the ranges of a table, which include both of their ends, holds a number. -/
def inRanges (ranges : List (Nat × Nat)) (n : Nat) : Bool :=
  ranges.any fun range => range.1 ≤ n && n ≤ range.2

end Text

end CompileFlags
