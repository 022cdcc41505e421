import SavingsCircle.Number.Radix

/-!
# Calendar

Instants are whole milliseconds since the beginning of 1970. `timestamp` writes one in the
Gregorian calendar with milliseconds and the mark of universal time; years that do not fit four
digits have a sign and six digits.

A clock shows a number of milliseconds, which need not be whole. Its instant is that number cut to a
whole one, and a clock too far from 1970 shows no instant at all.
-/

namespace SavingsCircle.Calendar

/-- An instant in milliseconds. -/
abbrev Millis := Int

/-- A day of the Gregorian calendar. -/
structure Date where
  year : Int
  month : Nat
  day : Nat
  deriving DecidableEq

/-- The date of a day counted from the first of January 1970. Years are counted from March, so
that a leap day ends its year, and grouped in eras of four hundred. -/
def dateOf (days : Int) : Date :=
  let shifted := days + 719468
  let era := shifted.fdiv 146097
  let dayOfEra := (shifted - era * 146097).toNat
  let yearOfEra := (dayOfEra - dayOfEra / 1460 + dayOfEra / 36524 - dayOfEra / 146096) / 365
  let dayOfYear := dayOfEra - (365 * yearOfEra + yearOfEra / 4 - yearOfEra / 100)
  let monthFromMarch := (5 * dayOfYear + 2) / 153
  let month := if monthFromMarch < 10 then monthFromMarch + 3 else monthFromMarch - 9
  { year := era * 400 + yearOfEra + (if month ≤ 2 then 1 else 0)
    month
    day := dayOfYear - (153 * monthFromMarch + 2) / 5 + 1 }

/-- A year in four digits, or in six digits with a sign. -/
def yearText (year : Int) : String :=
  if year < 0 then "-" ++ Text.padded 6 year.natAbs
  else if year ≤ 9999 then Text.padded 4 year.natAbs
  else "+" ++ Text.padded 6 year.natAbs

def timestamp (instant : Millis) : String :=
  let date := dateOf (instant.fdiv 86400000)
  let rest := (instant.fmod 86400000).toNat
  yearText date.year ++ "-" ++ Text.padded 2 date.month ++ "-" ++ Text.padded 2 date.day ++ "T" ++
    Text.padded 2 (rest / 3600000) ++ ":" ++ Text.padded 2 (rest / 60000 % 60) ++ ":" ++
    Text.padded 2 (rest / 1000 % 60) ++ "." ++ Text.padded 3 (rest % 1000) ++ "Z"

def unixSeconds (instant : Millis) : Int := instant.fdiv 1000

/-- The instant of a number of milliseconds: cut to a whole number, and none beyond a hundred
million days from 1970. -/
def instant? : Number → Option Millis
  | .finite value =>
    let whole := if value < 0 then -(-value).floor else value.floor
    if whole.natAbs ≤ 8640000000000000 then some whole else none
  | _ => none

/-- What a clock shows in whole seconds, undefined where it shows no instant. -/
def secondsOf (clock : Number) : Number :=
  match instant? clock with
  | some instant => .ofInt (unixSeconds instant)
  | none => .nan

/-- An identifier: a prefix, random hexadecimal digits and what the clock shows, in base
thirty-six. -/
def identifier (kind nonce : String) (clock : Number) : String :=
  kind ++ "_" ++ nonce ++ "_" ++ clock.radix 36

end SavingsCircle.Calendar
