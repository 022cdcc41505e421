import SavingsCircle.Number.Basic
import SavingsCircle.Text.Blank

/-!
# Numbers written as text

A decimal numeral is a sign, a whole number of digits and a power of ten; its number is the
nearest value of the format. `Numeral.read?` reads the longest numeral at the front of a text
and leaves the rest, so that a reader of a larger format can go on from there.

`Number.ofText` reads a whole text as one number: blanks around it are dropped, an empty text is
zero, and a text that is no numeral is undefined.
-/

namespace SavingsCircle

/-- A number as decimal text gives it: `digits * 10 ^ exponent`, with a sign. -/
structure Numeral where
  negative : Bool
  digits : Nat
  exponent : Int
  deriving DecidableEq

namespace Numeral

/-- The value of a digit of the given base, letters standing for ten and more. -/
def digitValue? (base : Nat) (c : Char) : Option Nat :=
  let value? :=
    if c.isDigit then some (c.toNat - '0'.toNat)
    else if 'a' ≤ c ∧ c ≤ 'z' then some (c.toNat - 'a'.toNat + 10)
    else if 'A' ≤ c ∧ c ≤ 'Z' then some (c.toNat - 'A'.toNat + 10)
    else none
  value?.bind fun value => if value < base then some value else none

/-- The number that a list of digits writes, the first digit weighing most. -/
def ofDigits (base : Nat) (cs : List Char) : Nat :=
  cs.foldl (fun n c => n * base + (digitValue? base c).getD 0) 0

/-- The sign at the front of a text; no sign reads as plus. -/
def takeSign : List Char → Bool × List Char
  | '-' :: rest => (true, rest)
  | '+' :: rest => (false, rest)
  | rest => (false, rest)

/-- The digits after a point at the front of a text, if there is a point. -/
def takeFraction : List Char → Option (List Char) × List Char
  | '.' :: rest => (some (rest.takeWhile Char.isDigit), rest.dropWhile Char.isDigit)
  | rest => (none, rest)

/-- The exponent at the front of a text: none is zero, and one without digits is an error. -/
def takeExponent? : List Char → Option (Int × List Char)
  | c :: rest =>
    if c = 'e' ∨ c = 'E' then
      let (negative, rest) := takeSign rest
      let digits := rest.takeWhile Char.isDigit
      if digits.isEmpty then none
      else
        let size : Int := ofDigits 10 digits
        some (if negative then -size else size, rest.dropWhile Char.isDigit)
    else some (0, c :: rest)
  | [] => some (0, [])

def ofParts (negative : Bool) (whole fraction : List Char) (exponent : Int) : Numeral where
  negative
  digits := ofDigits 10 (whole ++ fraction)
  exponent := exponent - fraction.length

/-- The nearest number. A power of ten that decides the answer alone is not multiplied out. -/
def toNumber (n : Numeral) : Number :=
  if n.digits = 0 then .finite 0
  else if 400 < n.exponent then .infinity n.negative
  else if n.exponent < -(401 + n.digits.log2 : Int) then .finite 0
  else
    let size := mkRat (n.digits * tenPow n.exponent.toNat : Nat) (tenPow (-n.exponent).toNat)
    Number.round (if n.negative then -size else size)

end Numeral

namespace Number

/-- The number of a text of decimal form: a sign, digits with at most one point among them, and
an exponent. -/
def ofDecimalChars (cs : List Char) : Number :=
  let (negative, cs) := Numeral.takeSign cs
  let whole := cs.takeWhile Char.isDigit
  let (fraction?, cs) := Numeral.takeFraction (cs.dropWhile Char.isDigit)
  let fraction := fraction?.getD []
  if whole.isEmpty && fraction.isEmpty then .nan
  else
    match Numeral.takeExponent? cs with
    | some (exponent, []) => (Numeral.ofParts negative whole fraction exponent).toNumber
    | _ => .nan

def ofRadixChars (base : Nat) (cs : List Char) : Number :=
  if !cs.isEmpty && cs.all fun c => (Numeral.digitValue? base c).isSome then
    round (Numeral.ofDigits base cs)
  else .nan

/-- The number that a whole text writes: decimal, `0x`, `0o` or `0b`, or `Infinity` with a sign.
Blanks around it are dropped and an empty text is zero; any other text is undefined. -/
def ofText (s : String) : Number :=
  match Text.trimChars s.toList with
  | [] => .finite 0
  | '0' :: 'x' :: cs | '0' :: 'X' :: cs => ofRadixChars 16 cs
  | '0' :: 'o' :: cs | '0' :: 'O' :: cs => ofRadixChars 8 cs
  | '0' :: 'b' :: cs | '0' :: 'B' :: cs => ofRadixChars 2 cs
  | cs =>
    let (negative, rest) := Numeral.takeSign cs
    if rest = "Infinity".toList then .infinity negative else ofDecimalChars cs

end Number

end SavingsCircle
