import SavingsCircle.Number.Basic

/-!
# The 64 bits of a number

A number of the binary64 format has a sign bit, eleven bits of exponent and fifty-two bits of
fraction. A value below the normal range has exponent bits zero and no hidden leading bit.
-/

namespace SavingsCircle.Number

/-- The exponent and fraction bits of a positive value. -/
def positiveBits (value : Rat) : Nat :=
  let place := lastPlace value.num.natAbs value.den
  let significand := (value.num.natAbs * twoPow (-place).toNat) / (value.den * twoPow place.toNat)
  if significand < twoPow 52 then significand
  else (place + 1074).toNat * twoPow 52 + significand

/-- The bit pattern of a number, as a natural number below `2 ^ 64`. -/
def bits : Number → Nat
  | .nan => 0x7ff8000000000000
  | .infinity negative => (if negative then twoPow 63 else 0) + 0x7ff0000000000000
  | .finite value =>
    if value = 0 then 0
    else (if value < 0 then twoPow 63 else 0) + positiveBits (if value < 0 then -value else value)

end SavingsCircle.Number
