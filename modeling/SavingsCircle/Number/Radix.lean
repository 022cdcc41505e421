import SavingsCircle.Number.Basic
import SavingsCircle.Text.Radix

/-!
# Numbers in other bases

A number in a base up to thirty-six has a sign, a whole part and, if it is no whole number, a
fraction. The fraction has no more digits than tell the number from the values of the format
around it; its last digit is rounded, which can carry into the digits before it and into the whole
part. The arithmetic on the way is that of the format: each product, sum, difference and quotient is
rounded. So the last digits of a whole part beyond `2 ^ 53` are approximate, and are zeros where the
format cannot tell them.
-/

namespace SavingsCircle.Number

def nearest (value : Rat) : Rat := roundPositive value.num.natAbs value.den

/-- Half the distance from a positive value to the next one, and at least the finest place. -/
def halfStep (value : Rat) : Rat :=
  let place := max (lastPlace value.num.natAbs value.den - 1) (-1074)
  mkRat (twoPow place.toNat : Nat) (twoPow (-place).toNat)

/-- Adds one to the last of the digits of a fraction, the last digit first. The digits that this
makes full are dropped, and without digits the one is left over for the whole part. -/
def carried (base : Nat) : List Nat → List Nat × Nat
  | [] => ([], 1)
  | digit :: before =>
    if digit + 1 < base then ((digit + 1) :: before, 0) else carried base before

/-- The digits of a fraction behind those given, the last digit first, and what is carried into the
whole part. Digits are written while the rest is at least the tolerance, which grows with each
digit. The fuel bounds their count. -/
def fractionDigits (base : Nat) : Nat → Rat → Rat → List Nat → List Nat × Nat
  | 0, _, _, done => (done, 0)
  | fuel + 1, fraction, tolerance, done =>
    if fraction < tolerance then (done, 0)
    else
      let shifted := nearest (fraction * (base : Rat))
      let tolerance := nearest (tolerance * (base : Rat))
      let digit := shifted.floor.toNat
      let rest := shifted - (digit : Rat)
      let done := digit :: done
      let isUp := decide (1 / 2 < rest) || (decide (rest = 1 / 2) && digit % 2 == 1)
      if isUp && decide (1 < nearest (rest + tolerance)) then carried base done
      else fractionDigits base fuel rest tolerance done

/-- The digits of a whole part. From `2 ^ 53` on the last digit is split off by a rounded division,
and is a zero while the quotient stays beyond `2 ^ 53`. The fuel bounds the count of divisions. -/
def wholeDigits (base : Nat) : Nat → Rat → List Char
  | 0, whole => Text.natDigits base whole.floor.toNat
  | fuel + 1, whole =>
    let exact : Rat := (twoPow 53 : Nat)
    if whole < exact then Text.natDigits base whole.floor.toNat
    else
      let quotient := nearest (whole / (base : Rat))
      if exact ≤ quotient then wholeDigits base fuel quotient ++ ['0']
      else
        let digit := whole.floor.toNat % base
        let rest := nearest (nearest (whole - (digit : Rat)) / (base : Rat))
        Text.natDigits base rest.floor.toNat ++ [Text.digitChar digit]

def positiveRadix (base : Nat) (value : Rat) : List Char :=
  let whole := (value.floor : Rat)
  let (digits, carry) := fractionDigits base 1100 (value - whole) (halfStep value) []
  let fraction := if digits.isEmpty then [] else '.' :: digits.reverse.map Text.digitChar
  wholeDigits base 1024 (if carry = 0 then whole else nearest (whole + 1)) ++ fraction

def radix (base : Nat) : Number → String
  | .nan => "NaN"
  | .infinity negative => if negative then "-Infinity" else "Infinity"
  | .finite value =>
    if value = 0 then "0"
    else if value < 0 then String.ofList ('-' :: positiveRadix base (-value))
    else String.ofList (positiveRadix base value)

end SavingsCircle.Number
