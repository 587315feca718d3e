import CompileFlags.Decimal.Binary

/-!
# The shortest decimal of a double

Many decimals read back as the same double. The one to write has the fewest digits, and is the
nearest of those; of two equally near ones it is the even one.
-/

namespace CompileFlags.Decimal

/-- A decimal number `digits * 10 ^ exponent`. -/
structure Numeral where
  digits : Nat
  exponent : Int
deriving DecidableEq, Repr

/-- A quarter of the last binary place of a number, as a quotient. In this unit the number and the
ends of the interval that rounds to it are whole. -/
def Binary.quarter (b : Binary) : Nat × Nat :=
  match b.exponent - 2 with
  | .ofNat e => (Nat.pow 2 e, 1)
  | .negSucc e => (1, Nat.pow 2 (e + 1))

/-- Compares `quarters` of the last place of a number with `digits * 10 ^ exponent`. -/
def Binary.compareQuarters (b : Binary) (quarters digits : Nat) (exponent : Int) : Ordering :=
  let (num, den) := b.quarter
  match exponent with
  | .ofNat e => compare (quarters * num) (digits * Nat.pow 10 e * den)
  | .negSucc e => compare (quarters * num * Nat.pow 10 (e + 1)) (digits * den)

/-- Whether a decimal rounds to a number: it lies between the halves of the gaps around it. The ends
round to the even mantissa. -/
def Binary.readsBack (b : Binary) (digits : Nat) (exponent : Int) : Bool :=
  let below := b.compareQuarters (4 * b.mantissa - (if b.narrow then 1 else 2)) digits exponent
  let above := b.compareQuarters (4 * b.mantissa + 2) digits exponent
  if b.mantissa % 2 = 0 then below != .gt && above != .lt else below == .lt && above == .gt

/-- The whole multiples of `10 ^ exponent` in a number. -/
def Binary.countOf (b : Binary) (exponent : Int) : Nat :=
  let (num, den) := b.quarter
  match exponent with
  | .ofNat e => 4 * b.mantissa * num / (Nat.pow 10 e * den)
  | .negSucc e => 4 * b.mantissa * num * Nat.pow 10 (e + 1) / den

/-- The least `k` with the number below `10 ^ k`; no double is below `10 ^ -400`. -/
def Binary.magnitude (b : Binary) : Int :=
  (Nat.toDigits 10 (b.countOf (-400))).length - 400

/-- The decimal with the given last place that reads back, if there is one: the multiple just below
or just above the number, whichever is nearer. -/
def Binary.atPlace? (b : Binary) (exponent : Int) : Option Numeral :=
  let low := b.countOf exponent
  match b.readsBack low exponent, b.readsBack (low + 1) exponent with
  | false, false => none
  | true, false => some ⟨low, exponent⟩
  | false, true => some ⟨low + 1, exponent⟩
  | true, true =>
    match b.compareQuarters (8 * b.mantissa) (2 * low + 1) exponent with
    | .lt => some ⟨low, exponent⟩
    | .gt => some ⟨low + 1, exponent⟩
    | .eq => some ⟨if low % 2 = 0 then low else low + 1, exponent⟩

/-- The number itself as a decimal. -/
def Binary.exact (b : Binary) : Numeral :=
  match b.exponent with
  | .ofNat e => ⟨b.mantissa * Nat.pow 2 e, 0⟩
  | .negSucc e => ⟨b.mantissa * Nat.pow 5 (e + 1), .negSucc e⟩

/-- The shortest decimal of the absolute value of a finite double. Seventeen digits always do. -/
def shortest (x : Float) : Numeral :=
  let b := Binary.ofFloat x
  if b.mantissa = 0 then ⟨0, 0⟩
  else
    let k := b.magnitude
    ((List.range 17).findSome? fun (n : Nat) => b.atPlace? (k - n - 1)).getD b.exact

end CompileFlags.Decimal
