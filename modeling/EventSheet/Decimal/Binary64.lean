/-!
# Decimal numbers as binary64

The double nearest to a decimal number, computed exactly on natural numbers. A positive quotient is
scaled by the weight of the last place that a double of its size has, rounded to the nearest integer
with ties to the even one, and put together with the exponent field. Adding the rounded significand
to the shifted exponent lets a carry run into the exponent by itself, and subnormal numbers need no
case of their own.
-/

namespace EventSheet.Decimal

/-- The integer nearest to `num / den`; a tie goes to the even one. -/
def roundHalfEven (num den : Nat) : Nat :=
  let q := num / den
  let twice := 2 * (num % den)
  if twice < den then q else if den < twice then q + 1 else q + q % 2

/-- Whether `2 ^ e ≤ num / den`. -/
def powerAtMost (e : Int) (num den : Nat) : Bool :=
  decide (Nat.pow 2 e.toNat * den ≤ num * Nat.pow 2 (-e).toNat)

/-- The exponent of the greatest power of two that is at most `num / den`. -/
def floorLog2 (num den : Nat) : Int :=
  let e : Int := (num.log2 : Int) - (den.log2 : Int)
  if powerAtMost e num den then e else e - 1

/-- The bits of positive infinity. -/
def infinityBits : Nat := 0x7FF0000000000000

/-- The bits of the double nearest to `num / den`. -/
def quotientBits (num den : Nat) : Nat :=
  if num = 0 then 0
  else
    let place := max (floorLog2 num den - 52) (-1074)
    let significand :=
      roundHalfEven (num * Nat.pow 2 (-place).toNat) (den * Nat.pow 2 place.toNat)
    min ((place + 1074).toNat * Nat.pow 2 52 + significand) infinityBits

/-- The value of a run of decimal digits. -/
def digitsValue (digits : List Char) : Nat :=
  digits.foldl (fun n c => 10 * n + (c.toNat - '0'.toNat)) 0

/-- The bits of the double nearest to a number written as digits with an optional point. -/
def bits (text : String) : Nat :=
  let whole := text.toList.takeWhile Char.isDigit
  let fraction := (text.toList.dropWhile Char.isDigit).drop 1
  quotientBits (digitsValue (whole ++ fraction)) (Nat.pow 10 fraction.length)

end EventSheet.Decimal
