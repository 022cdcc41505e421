import SavingsCircle.Fees

/-!
# Amounts

An amount of money that the service keeps is a natural number of 53 significant bits: sums and
differences are rounded to the nearest such number, ties to the even one. Up to `Number.maxSafe`
nothing is rounded.
-/

namespace SavingsCircle

/-- An amount of money, a natural number of at most 53 significant bits. -/
abbrev Amount := Nat

namespace Amount

/-- The amount nearest to a natural number. -/
def hold (n : Nat) : Amount :=
  let unit := twoPow (n.log2 - 52)
  roundQuotient n unit * unit

def add (a b : Amount) : Amount := hold (a + b)

/-- The difference of two amounts, and zero where it would not be positive. -/
def sub (a b : Amount) : Amount := hold (a - b)

/-- The share of an amount at a rate. -/
def share (amount : Amount) (rate : Nat) : Amount :=
  (Fees.share (.ofNat amount) (.ofNat rate)).toNat

theorem hold_eq_self {n : Nat} (h : n ≤ Number.maxSafe) : hold n = n := by
  have small : n.log2 - 52 = 0 := by
    rcases Nat.eq_zero_or_pos n with rfl | positive
    · simp
    · have : n.log2 < 53 := (Nat.log2_lt (by omega)).2 (by simp only [Number.maxSafe] at h; omega)
      omega
  simp [hold, small, twoPow]

/-- Rounding brings no larger number down to `Number.maxSafe`. -/
theorem hold_le_maxSafe_iff {n : Nat} : hold n ≤ Number.maxSafe ↔ n ≤ Number.maxSafe := by
  refine ⟨fun held => Nat.le_of_not_lt fun large => ?_, fun h => (hold_eq_self h).symm ▸ h⟩
  simp only [Number.maxSafe] at held large
  obtain ⟨k, log⟩ : ∃ k, n.log2 = 53 + k :=
    Nat.exists_eq_add_of_le ((Nat.le_log2 (by omega)).2 (by omega))
  have unit : n.log2 - 52 = k + 1 := by omega
  have down : 2 ^ 52 ≤ n / twoPow (k + 1) := by
    rw [Nat.le_div_iff_mul_le (twoPow_pos _)]
    calc 2 ^ 52 * twoPow (k + 1) = 2 ^ n.log2 := by
          rw [log, twoPow, Nat.pow_eq, ← Nat.pow_add]
          congr 1
          omega
      _ ≤ n := Nat.log2_self_le (by omega)
  have rounded : n / twoPow (k + 1) ≤ roundQuotient n (twoPow (k + 1)) := by
    simp only [roundQuotient]
    split
    · exact Nat.le_refl _
    · split <;> omega
  have pair : 2 ≤ twoPow (k + 1) := twoPow_le_twoPow (a := 1) (by omega)
  have large : 2 ^ 52 * 2 ≤ hold n := by
    simp only [hold, unit]
    exact Nat.mul_le_mul (Nat.le_trans down rounded) pair
  exact absurd (Nat.le_trans large held) (by decide)

theorem add_eq {a b : Amount} (h : a + b ≤ Number.maxSafe) : add a b = a + b := hold_eq_self h

theorem sub_eq {a b : Amount} (h : a ≤ Number.maxSafe) : sub a b = a - b :=
  hold_eq_self (Nat.le_trans (Nat.sub_le a b) h)

theorem add_eq_of_le {a b : Amount} (h : add a b ≤ Number.maxSafe) : add a b = a + b :=
  add_eq (hold_le_maxSafe_iff.1 h)

theorem add_add_eq_of_le {a b c : Amount} (h : add (add a b) c ≤ Number.maxSafe) :
    add (add a b) c = a + b + c := by
  have whole := add_eq_of_le h
  have first : add a b ≤ Number.maxSafe := Nat.le_trans (Nat.le_add_right _ c) (whole ▸ h)
  rw [whole, add_eq_of_le first]

theorem sub_eq_of_le {a b : Amount} (h : sub a b ≤ Number.maxSafe) : sub a b = a - b :=
  hold_eq_self (hold_le_maxSafe_iff.1 h)

theorem le_add_add {a b c : Amount} (safe : a ≤ Number.maxSafe) : a ≤ add (add a b) c := by
  by_cases h : add (add a b) c ≤ Number.maxSafe
  · rw [add_add_eq_of_le h, Nat.add_assoc]
    exact Nat.le_add_right a (b + c)
  · exact Nat.le_trans safe (Nat.le_of_lt (Nat.lt_of_not_le h))

theorem lt_add {a b : Amount} (safe : a ≤ Number.maxSafe) (some : 0 < b) : a < add a b := by
  by_cases h : add a b ≤ Number.maxSafe
  · rw [add_eq_of_le h]
    exact Nat.lt_add_of_pos_right some
  · exact Nat.lt_of_le_of_lt safe (Nat.lt_of_not_le h)

end Amount

end SavingsCircle
