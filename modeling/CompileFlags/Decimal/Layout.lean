import CompileFlags.Decimal.Shortest

/-!
# How doubles are written

A number between `10 ^ -4` and `10 ^ 16` is written positionally and always with a point; any other
has its point after the first digit and a signed exponent of at least two digits.
-/

namespace CompileFlags.Decimal

/-- The decisions of a format. A decimal with `point` digits before its point is positional if
`point` is above `lowest` and at most `highest`. -/
structure Layout where
  nan : String
  infinity : String
  lowest : Int := -4
  highest : Int := 16
  exponentWidth : Nat := 2
deriving Repr

/-- The digits of a decimal without zeros at the end, and the number of places before the point.
Zero is the digit zero before the point. -/
def Numeral.scientific (d : Numeral) : List Char × Int :=
  let digits := Nat.toDigits 10 d.digits
  if d.digits = 0 then (['0'], 1)
  else ((digits.reverse.dropWhile (· = '0')).reverse, digits.length + d.exponent)

/-- Digits with the point among them, or with zeros up to it. -/
def positional (digits : List Char) (point : Int) : List Char :=
  match point with
  | .negSucc n => '0' :: '.' :: List.replicate (n + 1) '0' ++ digits
  | .ofNat n =>
    let whole := digits.take n ++ List.replicate (n - digits.length) '0'
    let part := digits.drop n
    (if whole = [] then ['0'] else whole) ++ '.' :: (if part = [] then ['0'] else part)

/-- Digits with the point after the first, and the exponent. -/
def exponential (width : Nat) (digits : List Char) (point : Int) : List Char :=
  let power := Nat.toDigits 10 (point - 1).natAbs
  digits.take 1 ++ (if digits.length > 1 then '.' :: digits.drop 1 else []) ++
    'e' :: (if point - 1 < 0 then '-' else '+') ::
      List.replicate (width - power.length) '0' ++ power

/-- The text of a double. -/
def Layout.write (layout : Layout) (x : Float) : String :=
  let sign := if isNegative x then "-" else ""
  if x.isNaN then layout.nan
  else if x.isInf then sign ++ layout.infinity
  else
    let (digits, point) := (shortest x).scientific
    sign ++ String.ofList
      (if layout.lowest < point ∧ point ≤ layout.highest then positional digits point
       else exponential layout.exponentWidth digits point)

end CompileFlags.Decimal
