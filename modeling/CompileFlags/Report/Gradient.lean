import CompileFlags.Fault
import CompileFlags.Report.Styled
import CompileFlags.Text.Blank
import CompileFlags.Text.Digits

/-!
# Gradients

A title whose colour changes from character to character. A colour is a mark and three hexadecimal
numbers of two characters each.
-/

namespace CompileFlags.Report

/-- The value of a hexadecimal digit, which may be a decimal digit of any script. -/
def hexValue? : CodePoint → Option Int
  | .char c =>
    if 'a' ≤ c && c ≤ 'f' then some (c.toNat - 87)
    else if 'A' ≤ c && c ≤ 'F' then some (c.toNat - 55)
    else (Text.digitValue? c).map Int.ofNat
  | .surrogate _ => none

/-- White space around a number: the separators of information do not count as such. -/
def isPadding (c : CodePoint) : Bool :=
  c.isIn Text.isBlank && !(28 ≤ c.number && c.number ≤ 31)

/-- A hexadecimal number, with a sign and white space around it if need be. -/
def hexNumber? (cs : Text) : Option Int :=
  let unsigned (cs : Text) : Option Int :=
    let digits := cs.takeWhile fun c => (hexValue? c).isSome
    if digits.isEmpty || !(cs.dropWhile fun c => (hexValue? c).isSome).all isPadding then none
    else digits.foldlM (fun n c => (hexValue? c).map (16 * n + ·)) 0
  match cs.dropWhile isPadding with
  | .char '-' :: rest => (unsigned rest).map (-·)
  | .char '+' :: rest => unsigned rest
  | rest => unsigned rest

/-- The three parts of a colour. -/
structure Colour where
  red : Int
  green : Int
  blue : Int
deriving DecidableEq, Repr

namespace Colour

/-- A part of a colour's text, from an index on. -/
def part (text : Text) (index : Nat) : Except Fault Int :=
  let cs := (text.drop index).take 2
  match hexNumber? cs with
  | some n => .ok n
  | none => .error (.notHexadecimal cs)

/-- Reads a colour. The mark in front is not looked at. -/
def ofText (text : Text) : Except Fault Colour :=
  match part text 1, part text 3, part text 5 with
  | .ok red, .ok green, .ok blue => .ok ⟨red, green, blue⟩
  | .error fault, _, _ => .error fault
  | _, .error fault, _ => .error fault
  | _, _, .error fault => .error fault

/-- A part of a colour as text. -/
def partText (n : Int) : List Char :=
  if n < 0 then '-' :: Text.hex 1 n.natAbs else Text.hex 2 n.natAbs

/-- A colour as text. -/
def text (c : Colour) : String :=
  String.ofList ('#' :: partText c.red ++ partText c.green ++ partText c.blue)

end Colour

/-- A number on the way from one to another, cut to a whole number. -/
def between (first last : Int) (ratio : Float) : Int :=
  (Float.ofInt first + Float.ofInt (last - first) * ratio).toInt64.toInt

/-- The colour on the way from one to another. -/
def Colour.between (first last : Colour) (ratio : Float) : Colour where
  red := Report.between first.red last.red ratio
  green := Report.between first.green last.green ratio
  blue := Report.between first.blue last.blue ratio

/-- A title, with a blank on each side, that fades from one colour to another. -/
def gradient (title first last : Text) : Except Fault Styled :=
  match Colour.ofText first, Colour.ofText last with
  | .ok first, .ok last =>
    let text := Styled.kept (" " ++ title ++ " ")
    let total := Float.ofNat text.length
    .ok {
      text
      spans := (List.range text.length).map fun i =>
        ⟨i, i + 1, (Colour.between first last (Float.ofNat i / total)).text⟩ }
  | .error fault, _ => .error fault
  | _, .error fault => .error fault

end CompileFlags.Report
