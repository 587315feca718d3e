import CompileFlags.Text.Basic

/-!
# Styled text

A text with styles on some of its parts. Positions count code points, from zero, and the end of a
part is not in it.
-/

namespace CompileFlags.Report

/-- A part of a text and its style. -/
structure Span where
  first : Nat
  last : Nat
  style : Text
deriving DecidableEq, Repr

/-- A text and the styles of its parts, in the order in which they were given. -/
structure Styled where
  text : Text
  spans : List Span
deriving DecidableEq, Repr

namespace Styled

/-- No text. -/
def empty : Styled := ⟨[], []⟩

/-- The control characters that would move the cursor; they are left out of a styled text. -/
def isCursorControl (c : CodePoint) : Bool := [7, 8, 11, 12, 13].contains c.number

/-- What a styled text keeps of a text. -/
def kept (t : Text) : Text := t.filter (!isCursorControl ·)

/-- Adds a text without a style. -/
def append (s : Styled) (text : Text) : Styled := { s with text := s.text ++ kept text }

/-- Adds a text with a style. -/
def appendStyled (s : Styled) (style text : Text) : Styled :=
  if text = "" then s
  else
    let added := kept text
    { text := s.text ++ added
      spans := s.spans ++ [⟨s.text.length, s.text.length + added.length, style⟩] }

end Styled

end CompileFlags.Report
