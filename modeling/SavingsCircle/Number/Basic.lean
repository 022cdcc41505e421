/-!
# Binary64 numbers

A number is a real in the binary64 format, one of the two infinities, or the result of a
meaningless operation. Finite values are kept as exact rationals, and every operation computes
the exact result first and rounds it once, to the nearest value of the format with ties to the
even significand. The sign of a zero is not kept, because no operation here can show it.

Rounding is the only inexact step: `Number.round` leaves every value of the format alone, so
sums, products and shares of whole numbers below `2 ^ 53` come out exact.
-/

namespace SavingsCircle

/-- The whole number nearest to `num / den`; of two equally near ones, the even one. -/
def roundQuotient (num den : Nat) : Nat :=
  let down := num / den
  let rest := num % den
  if 2 * rest < den then down
  else if den < 2 * rest then down + 1
  else down + down % 2

@[simp] theorem roundQuotient_one (n : Nat) : roundQuotient n 1 = n := by
  simp [roundQuotient, Nat.mod_one]

def twoPow (exponent : Nat) : Nat := Nat.pow 2 exponent

@[simp] theorem twoPow_zero : twoPow 0 = 1 := rfl

theorem twoPow_pos (exponent : Nat) : 0 < twoPow exponent := Nat.pow_pos (by decide)

theorem twoPow_le_twoPow {a b : Nat} (h : a ≤ b) : twoPow a ≤ twoPow b :=
  Nat.pow_le_pow_right (by decide) h

def tenPow (exponent : Nat) : Nat := Nat.pow 10 exponent

/-- A value of the binary64 format, with one zero and one undefined value. -/
inductive Number where
  /-- The result of an operation without a meaningful value. -/
  | nan
  | infinity (negative : Bool)
  | finite (value : Rat)
  deriving DecidableEq

namespace Number

/-- A whole number as it stands. Callers keep within the whole numbers of the format. -/
def ofInt (n : Int) : Number := .finite n

/-- A natural number as it stands. Callers keep within the whole numbers of the format. -/
def ofNat (n : Nat) : Number := ofInt n

/-- The exponent `e` with `2 ^ e ≤ num / den < 2 ^ (e + 1)`, for positive `num` and `den`. -/
def binaryExponent (num den : Nat) : Int :=
  let e : Int := num.log2 - den.log2
  if den * twoPow e.toNat ≤ num * twoPow (-e).toNat then e else e - 1

/-- The exponent of the last place kept for `num / den`: 53 significant bits, and nothing finer
than `2 ^ -1074`. -/
def lastPlace (num den : Nat) : Int :=
  max (binaryExponent num den - 52) (-1074)

/-- Rounds the positive quotient `num / den` to its last place. -/
def roundPositive (num den : Nat) : Rat :=
  let place := lastPlace num den
  let units := roundQuotient (num * twoPow (-place).toNat) (den * twoPow place.toNat)
  mkRat (units * twoPow place.toNat : Nat) (twoPow (-place).toNat)

/-- The nearest value of the format, and an infinity from `2 ^ 1024` on. -/
def round (value : Rat) : Number :=
  if value.num = 0 then .finite 0
  else
    let size := roundPositive value.num.natAbs value.den
    let negative := decide (value.num < 0)
    if (twoPow 1024 : Rat) ≤ size then .infinity negative
    else .finite (if negative then -size else size)

/-- The sum; opposite infinities have none. -/
def add : Number → Number → Number
  | .finite a, .finite b => round (a + b)
  | .nan, _ => .nan
  | _, .nan => .nan
  | .infinity a, .infinity b => if a = b then .infinity a else .nan
  | .infinity a, .finite _ => .infinity a
  | .finite _, .infinity b => .infinity b

def neg : Number → Number
  | .finite a => .finite (-a)
  | .nan => .nan
  | .infinity a => .infinity (!a)

def sub (a b : Number) : Number := a.add b.neg

def isNegative : Number → Bool
  | .finite a => decide (a < 0)
  | .nan => false
  | .infinity a => a

def isZero : Number → Bool
  | .finite a => decide (a = 0)
  | _ => false

/-- The product; an infinity times zero is undefined. -/
def mul : Number → Number → Number
  | .finite a, .finite b => round (a * b)
  | .nan, _ => .nan
  | _, .nan => .nan
  | a, b => if a.isZero || b.isZero then .nan else .infinity (a.isNegative ^^ b.isNegative)

/-- Division by a positive whole number of the format. -/
def divNat (a : Number) (den : Nat) : Number :=
  match a with
  | .finite a => round (a / (den : Rat))
  | other => other

def floor : Number → Number
  | .finite a => ofInt a.floor
  | other => other

/-- Strict order; nothing compares with the undefined value. -/
def lt : Number → Number → Bool
  | .finite a, .finite b => decide (a < b)
  | .infinity a, .finite _ => a
  | .finite _, .infinity b => !b
  | .infinity a, .infinity b => a && !b
  | _, _ => false

/-- Equality of values; the undefined value equals nothing, itself included. -/
def equals : Number → Number → Bool
  | .finite a, .finite b => decide (a = b)
  | .infinity a, .infinity b => a == b
  | _, _ => false

/-- Order; nothing compares with the undefined value. -/
def le (a b : Number) : Bool := a.lt b || a.equals b

/-- The smaller number, undefined as soon as one of the two is. -/
def min : Number → Number → Number
  | .nan, _ => .nan
  | _, .nan => .nan
  | a, b => if b.lt a then b else a

def int? : Number → Option Int
  | .finite a => if a.den = 1 then some a.num else none
  | _ => none

def nat? (a : Number) : Option Nat :=
  a.int?.bind fun n => if 0 ≤ n then some n.toNat else none

/-- The natural number that the number is, and zero for any other number. -/
def toNat (a : Number) : Nat := a.nat?.getD 0

/-- The largest whole number up to which every whole number is a value of the format and none is
the rounding of another. -/
def maxSafe : Nat := 9007199254740991

/-- The natural number that the number is, if it is at most `maxSafe`. -/
def safeNat? (a : Number) : Option Nat :=
  a.nat?.bind fun n => if n ≤ maxSafe then some n else none

@[simp] theorem int?_ofInt (n : Int) : (ofInt n).int? = some n := by
  simp [ofInt, int?]

@[simp] theorem nat?_ofNat (n : Nat) : (ofNat n).nat? = some n := by
  simp [ofNat, nat?]

@[simp] theorem toNat_ofNat (n : Nat) : (ofNat n).toNat = n := by
  simp [toNat]

/-- A natural number that a number safely is, is the integer that it is. -/
theorem int?_of_safeNat? {a : Number} {n : Nat} (safe : a.safeNat? = some n) :
    a.int? = some (n : Int) := by
  obtain ⟨m, whole, safe⟩ := Option.bind_eq_some_iff.1 safe
  obtain ⟨i, integer, natural⟩ := Option.bind_eq_some_iff.1 whole
  split at safe
  · obtain rfl := Option.some.inj safe
    split at natural
    · next above =>
      obtain rfl := Option.some.inj natural
      rw [integer, Int.toNat_of_nonneg above]
    · simp at natural
  · simp at safe

theorem toNat_of_safeNat? {a : Number} {n : Nat} (safe : a.safeNat? = some n) : a.toNat = n := by
  obtain ⟨m, whole, safe⟩ := Option.bind_eq_some_iff.1 safe
  split at safe
  · rw [toNat, whole, ← Option.some.inj safe, Option.getD_some]
  · cases safe

theorem binaryExponent_natCast {n : Nat} (positive : 0 < n) : binaryExponent n 1 = n.log2 := by
  have log : Nat.log2 1 = 0 := by decide
  have none : (-(n.log2 : Int)).toNat = 0 := by omega
  have below : twoPow n.log2 ≤ n := Nat.log2_self_le (by omega)
  simp [binaryExponent, log, none, below]

theorem roundPositive_natCast {n : Nat} (positive : 0 < n) (small : n ≤ maxSafe) :
    roundPositive n 1 = n := by
  have short : n.log2 < 53 :=
    (Nat.log2_lt (by omega)).2 (by simp only [maxSafe] at small; omega)
  have place : (lastPlace n 1).toNat = 0 := by
    rw [lastPlace, binaryExponent_natCast positive]
    omega
  have nonzero : twoPow (-lastPlace n 1).toNat ≠ 0 :=
    Nat.ne_of_gt (twoPow_pos _)
  simp only [roundPositive, place, twoPow_zero, Nat.mul_one, roundQuotient_one]
  have same := Rat.mkRat_mul_right (n := n) (d := 1) nonzero
  rw [Nat.one_mul] at same
  rw [Int.natCast_mul, same, Rat.mkRat_one, Rat.intCast_natCast]

/-- A natural number of at most 53 bits is not rounded. -/
theorem round_natCast {n : Nat} (small : n ≤ maxSafe) : round n = ofNat n := by
  rcases Nat.eq_zero_or_pos n with rfl | positive
  · rfl
  · have size : ¬ (twoPow 1024 : Rat) ≤ n := by
      rw [Rat.natCast_le_natCast]
      have : maxSafe < twoPow 53 := by decide
      have : twoPow 53 ≤ twoPow 1024 := twoPow_le_twoPow (by decide)
      omega
    have num : (n : Rat).num = n := by simp
    have den : (n : Rat).den = 1 := by simp
    have above : ¬ (n : Int) < 0 := by omega
    have nonzero : ¬ (n : Int) = 0 := by omega
    simp only [round, num, den, Int.natAbs_natCast, roundPositive_natCast positive small, size,
      above, nonzero, ofNat, ofInt]
    rfl

end Number

end SavingsCircle
