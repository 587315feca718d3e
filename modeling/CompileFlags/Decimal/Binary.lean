/-!
# Doubles as exact numbers

A finite double is a whole number times a power of two. This exact form is what decimals are
compared with and read into.
-/

namespace CompileFlags.Decimal

/-- A non-negative number `mantissa * 2 ^ exponent`. It is `narrow` if the double below it is half
as far away as the double above it. -/
structure Binary where
  mantissa : Nat
  exponent : Int
  narrow : Bool
deriving DecidableEq, Repr

/-- The absolute value of a finite double. -/
def Binary.ofFloat (x : Float) : Binary :=
  let bits := x.toBits.toNat
  let fraction : Nat := bits % Nat.pow 2 52
  let biased : Nat := bits / Nat.pow 2 52 % Nat.pow 2 11
  if biased = 0 then ⟨fraction, -1074, false⟩
  else ⟨fraction + Nat.pow 2 52, (biased : Int) - 1075, fraction = 0 && biased > 1⟩

/-- Whether a double has its sign bit set, as the negative zero has. -/
def isNegative (x : Float) : Bool := x.toBits.toNat / Nat.pow 2 63 % 2 = 1

/-- The whole number that a double equals, if it equals one. -/
def toInt? (x : Float) : Option Int :=
  if x.isFinite then
    let b := Binary.ofFloat x
    let magnitude? : Option Nat :=
      match b.exponent with
      | .ofNat e => some (b.mantissa * Nat.pow 2 e)
      | .negSucc e =>
        let unit := Nat.pow 2 (e + 1)
        if b.mantissa % unit = 0 then some (b.mantissa / unit) else none
    magnitude?.map fun (n : Nat) => if isNegative x then -(n : Int) else n
  else none

/-- The double nearest to `digits * 10 ^ exponent`. Far beyond the largest and the smallest double
the answer needs no power of ten. -/
def toFloat (digits : Nat) (exponent : Int) : Float :=
  let magnitude := (Nat.toDigits 10 digits).length + exponent
  if digits = 0 || magnitude < -400 then 0.0
  else if magnitude > 400 then 1.0 / 0.0
  else
    match exponent with
    | .ofNat e => Float.ofScientific digits false e
    | .negSucc e => Float.ofScientific digits true (e + 1)

end CompileFlags.Decimal
