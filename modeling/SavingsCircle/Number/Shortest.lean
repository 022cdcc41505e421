import SavingsCircle.Number.Basic

/-!
# Numbers as text

The text of a number has the fewest significant digits that read back as the number, and among
those the nearest to it. The search is exact: the reals that round to a value form an interval
around it, closed when the significand of the value is even, and a grid of decimals meets that
interval only if one of the value's two neighbours on the grid does.

Whole and fractional parts are written out while the first digit stands between `10 ^ -7` and
`10 ^ 20`; beyond that the text has an exponent.
-/

namespace SavingsCircle.Number

/-- The reals around a positive value that round to it. -/
structure Basin where
  low : Rat
  high : Rat
  /-- Whether the two ends round to the value as well. -/
  closed : Bool

namespace Basin

def contains (b : Basin) (x : Rat) : Bool :=
  if b.closed then decide (b.low ≤ x ∧ x ≤ b.high) else decide (b.low < x ∧ x < b.high)

/-- The basin of a positive value of the format. Below a power of two the values lie twice as
dense, so there the lower end is half as far away. -/
def around (value : Rat) : Basin :=
  let place := lastPlace value.num.natAbs value.den
  let unit : Rat := mkRat (twoPow place.toNat : Nat) (twoPow (-place).toNat)
  let significand := (value / unit).num.natAbs
  let below := if significand = twoPow 52 ∧ -1074 < place then unit / 4 else unit / 2
  { low := value - below, high := value + unit / 2, closed := significand % 2 = 0 }

end Basin

/-- A power of ten with any whole exponent. -/
def decimalPlace (e : Int) : Rat := mkRat (tenPow e.toNat : Nat) (tenPow (-e).toNat)

/-- The exponent `e` with `10 ^ e ≤ value < 10 ^ (e + 1)`, for a positive value. The first guess,
from the binary exponent, is at most one too small. -/
def decimalExponent (value : Rat) : Int :=
  let guess := (binaryExponent value.num.natAbs value.den * 30103).fdiv 100000
  if decimalPlace (guess + 1) ≤ value then guess + 1
  else if decimalPlace guess ≤ value then guess
  else guess - 1

/-- The decimal with the given number of digits that reads back as the value, if there is one: of
the value's two neighbours on that grid, the nearer of those in the basin, and of two equally
near ones the even one. -/
def onGrid? (basin : Basin) (value : Rat) (exponent : Int) (count : Nat) : Option (Nat × Int) :=
  let scale := exponent - (count - 1)
  let exact := value / decimalPlace scale
  let down := exact.floor.toNat
  let fits (n : Nat) := decide (0 < n) && basin.contains (n * decimalPlace scale)
  let rest := exact - down
  let downFirst := decide (rest < 1 / 2) || (decide (rest = 1 / 2) && down % 2 == 0)
  let order := if downFirst then [down, down + 1] else [down + 1, down]
  (order.find? fits).map (·, scale)

/-- The fewest decimal digits that read back as a positive value, with their power of ten. Seventeen
digits always suffice. -/
def shortest (value : Rat) : Nat × Int :=
  let basin := Basin.around value
  let exponent := decimalExponent value
  ((List.range' 1 17).findSome? (onGrid? basin value exponent)).getD (0, 0)

/-- Drops the zeros at the end of a whole number and counts them. The fuel bounds the count. -/
def stripZeros : Nat → Nat → Nat → Nat × Nat
  | 0, n, dropped => (n, dropped)
  | fuel + 1, n, dropped =>
    if n ≠ 0 ∧ n % 10 = 0 then stripZeros fuel (n / 10) (dropped + 1) else (n, dropped)

/-- Lays out `digits * 10 ^ scale`: in full while the point stands at most 21 digits behind the
first digit or 6 zeros before it, and with an exponent otherwise. -/
def layout (digits : List Char) (scale : Int) : List Char :=
  let count : Int := digits.length
  let point := count + scale
  if count ≤ point ∧ point ≤ 21 then
    digits ++ List.replicate scale.toNat '0'
  else if 0 < point ∧ point ≤ 21 then
    digits.take point.toNat ++ '.' :: digits.drop point.toNat
  else if -6 < point ∧ point ≤ 0 then
    '0' :: '.' :: List.replicate (-point).toNat '0' ++ digits
  else
    let shown := point - 1
    let sign := if shown < 0 then '-' else '+'
    let fraction := if digits.length ≤ 1 then [] else '.' :: digits.drop 1
    digits.take 1 ++ fraction ++ 'e' :: sign :: Nat.toDigits 10 shown.natAbs

def positiveText (value : Rat) : List Char :=
  let (digits, scale) := shortest value
  let (digits, dropped) := stripZeros 17 digits 0
  layout (Nat.toDigits 10 digits) (scale + dropped)

def text : Number → String
  | .nan => "NaN"
  | .infinity negative => if negative then "-Infinity" else "Infinity"
  | .finite value =>
    if value = 0 then "0"
    else if value < 0 then String.ofList ('-' :: positiveText (-value))
    else String.ofList (positiveText value)

end SavingsCircle.Number
