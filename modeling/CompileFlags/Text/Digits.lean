/-!
# Digits and numbers

A decimal digit of any script has a value from zero to nine. The digits of one script are ten
consecutive code points, so the table lists the zeros only. A whole number is spelled by such digits:
it needs one, and there is a limit to how many are read. Escapes and colours write hexadecimal numbers,
in lower case and with zeros in front.
-/

namespace CompileFlags.Text

/-- The lower-case hexadecimal digits of a number, with zeros in front up to a least width. -/
def hex (width n : Nat) : List Char :=
  let digits := Nat.toDigits 16 n
  List.replicate (width - digits.length) '0' ++ digits

/-- The zeros of all scripts, in ascending order. -/
def digitZeros : List Nat := [
  0x30, 0x660, 0x6f0, 0x7c0, 0x966, 0x9e6, 0xa66, 0xae6, 0xb66, 0xbe6, 0xc66, 0xce6, 0xd66,
  0xde6, 0xe50, 0xed0, 0xf20, 0x1040, 0x1090, 0x17e0, 0x1810, 0x1946, 0x19d0, 0x1a80, 0x1a90,
  0x1b50, 0x1bb0, 0x1c40, 0x1c50, 0xa620, 0xa8d0, 0xa900, 0xa9d0, 0xa9f0, 0xaa50, 0xabf0, 0xff10,
  0x104a0, 0x10d30, 0x11066, 0x110f0, 0x11136, 0x111d0, 0x112f0, 0x11450, 0x114d0, 0x11650,
  0x116c0, 0x11730, 0x118e0, 0x11950, 0x11c50, 0x11d50, 0x11da0, 0x16a60, 0x16ac0, 0x16b50,
  0x1d7ce, 0x1d7d8, 0x1d7e2, 0x1d7ec, 0x1d7f6, 0x1e140, 0x1e2f0, 0x1e950, 0x1fbf0]

/-- The value of a decimal digit, whatever its script. -/
def digitValue? (c : Char) : Option Nat :=
  (digitZeros.find? fun z => z ≤ c.toNat && c.toNat < z + 10).map (c.toNat - ·)

/-- Whether a character is a decimal digit of some script. -/
def isDecimalDigit (c : Char) : Bool := (digitValue? c).isSome

/-- The most digits that a whole number may have. -/
def maxDigits : Nat := 4300

/-- Why digits are not read as a whole number. -/
inductive NumberFault where
  /-- There are none. -/
  | missing
  /-- There are more than are read. -/
  | tooManyDigits (count : Nat)
deriving DecidableEq, Repr

/-- The words for a fault. -/
def NumberFault.message : NumberFault → String
  | .missing => "invalid literal for int() with base 10: ''"
  | .tooManyDigits count =>
    "Exceeds the limit (" ++ toString maxDigits ++
      " digits) for integer string conversion: value has " ++ toString count ++
      " digits; use sys.set_int_max_str_digits() to increase the limit"

/-- The words for a number that has more digits than are written. -/
def tooManyDigitsToWrite : String :=
  "Exceeds the limit (" ++ toString maxDigits ++
    " digits) for integer string conversion; use sys.set_int_max_str_digits() to increase the limit"

/-- The number that digits spell, given the value of each. -/
def wholeNumber (digits : List Nat) : Except NumberFault Nat :=
  if digits = [] then .error .missing
  else if maxDigits < digits.length then .error (.tooManyDigits digits.length)
  else .ok (digits.foldl (fun n d => 10 * n + d) 0)

end CompileFlags.Text
