import Mathlib.Algebra.Order.Field.Power
import Mathlib.Algebra.Order.Ring.Rat
import Mathlib.Data.Rat.Floor
import Mathlib.Tactic.FieldSimp
import Mathlib.Tactic.Linarith
import Mathlib.Tactic.Positivity
import SavingsCircle.Amount

/-!
# How far rounding goes

A positive number is rounded to a whole multiple of its last place, a power of two, and the multiple
lies within half of the place (`Nearest`). From this alone follows what the callers of `round` need:
rounding never passes a multiple of the place, in particular no whole number while the place is no
larger than one, and no value of the format that is there already (`Number.not_round_lt`).
-/

namespace SavingsCircle

section

variable {num den : Nat}

/-- A rounded quotient is off by half at most. -/
theorem roundQuotient_near (positive : 0 < den) :
    2 * num ≤ 2 * (roundQuotient num den * den) + den ∧
      2 * (roundQuotient num den * den) ≤ 2 * num + den := by
  have parts := Nat.div_add_mod num den
  have rest := Nat.mod_lt num positive
  rw [Nat.mul_comm] at parts
  simp only [roundQuotient]
  split
  · omega
  · split
    · rw [Nat.add_mul]
      omega
    · rcases Nat.mod_two_eq_zero_or_one (num / den) with even | odd
      · rw [even, Nat.add_zero]
        omega
      · rw [odd, Nat.add_mul]
        omega

end

namespace Amount

theorem twoPow_dvd_hold (n : Nat) : twoPow (n.log2 - 52) ∣ hold n := Nat.dvd_mul_left ..

theorem hold_near (n : Nat) :
    2 * n ≤ 2 * hold n + twoPow (n.log2 - 52) ∧ 2 * hold n ≤ 2 * n + twoPow (n.log2 - 52) :=
  roundQuotient_near (twoPow_pos _)

theorem twoPow_mul_le {n : Nat} (long : 52 ≤ n.log2) : twoPow (n.log2 - 52) * 2 ^ 52 ≤ n := by
  have positive : n ≠ 0 := by
    rintro rfl
    simp at long
  calc twoPow (n.log2 - 52) * 2 ^ 52 = 2 ^ n.log2 := by
        rw [twoPow, Nat.pow_eq, ← Nat.pow_add]
        congr 1
        omega
    _ ≤ n := Nat.log2_self_le positive

/-- The amount nearest to a number is off by one part in `2 ^ 53` at most. -/
theorem hold_close (n : Nat) :
    2 ^ 53 * n ≤ 2 ^ 53 * hold n + n ∧ 2 ^ 53 * hold n ≤ 2 ^ 53 * n + n := by
  by_cases long : 52 ≤ n.log2
  · have near := hold_near n
    have unit := twoPow_mul_le long
    generalize twoPow (n.log2 - 52) = place at near unit
    lia
  · have exact : hold n = n := by
      have none : n.log2 - 52 = 0 := by omega
      simp [hold, none]
    rw [exact]
    lia

/-- A natural number that is kept without rounding: a multiple of the unit of its last place. -/
def IsHeld (n : Nat) : Prop := twoPow (n.log2 - 52) ∣ n

theorem isHeld_zero : IsHeld 0 := Nat.dvd_zero _

theorem log2_le_log2 {m n : Nat} (fewer : m ≤ n) : m.log2 ≤ n.log2 := by
  rcases Nat.eq_zero_or_pos m with rfl | positive
  · simp
  · rw [Nat.le_log2 (by omega)]
    exact Nat.le_trans (Nat.log2_self_le (Nat.ne_of_gt positive)) fewer

theorem twoPow_dvd_twoPow {a b : Nat} (fewer : a ≤ b) : twoPow a ∣ twoPow b :=
  Nat.pow_dvd_pow 2 fewer

theorem isHeld_twoPow (exponent : Nat) : IsHeld (twoPow exponent) := by
  have log : (twoPow exponent).log2 = exponent := Nat.log2_two_pow
  rw [IsHeld, log]
  exact twoPow_dvd_twoPow (Nat.sub_le ..)

/-- Rounding never passes a number that is kept without rounding. -/
theorem hold_le {n bound : Nat} (held : IsHeld bound) (below : n ≤ bound) : hold n ≤ bound := by
  have finer : n.log2 - 52 ≤ bound.log2 - 52 := Nat.sub_le_sub_right (log2_le_log2 below) 52
  obtain ⟨units, isBound⟩ := Nat.dvd_trans (twoPow_dvd_twoPow finer) held
  obtain ⟨rounded, isRounded⟩ := twoPow_dvd_hold n
  have near := (hold_near n).2
  have positive := twoPow_pos (n.log2 - 52)
  generalize twoPow (n.log2 - 52) = place at isBound isRounded near positive
  rw [isRounded] at near ⊢
  rw [isBound] at below ⊢
  apply Nat.mul_le_mul_left
  by_contra more
  have apart : place * (units + 1) ≤ place * rounded :=
    Nat.mul_le_mul_left place (Nat.lt_of_not_le more)
  rw [Nat.mul_add, Nat.mul_one] at apart
  lia

/-- What was rounded once is kept without rounding. -/
theorem isHeld_hold (n : Nat) : IsHeld (hold n) := by
  by_cases shorter : (hold n).log2 ≤ n.log2
  · exact Nat.dvd_trans (twoPow_dvd_twoPow (Nat.sub_le_sub_right shorter 52)) (twoPow_dvd_hold n)
  · -- Rounding up can add a bit to a number, and comes to a power of two then.
    have above : twoPow (n.log2 + 1) ≤ hold n := by
      have some : hold n ≠ 0 := by
        intro none
        simp [none] at shorter
      exact (Nat.le_log2 some).1 (Nat.lt_of_not_le shorter)
    have below : hold n ≤ twoPow (n.log2 + 1) := by
      apply hold_le (isHeld_twoPow _)
      exact Nat.le_of_lt Nat.lt_log2_self
    rw [Nat.le_antisymm below above]
    exact isHeld_twoPow _

theorem sub_le {a b : Amount} (held : IsHeld a) : sub a b ≤ a := hold_le held (Nat.sub_le a b)

end Amount

namespace Number

/-- A rounded number is a whole multiple of its place, and within half of it. -/
structure Nearest (place : Int) (x y : Rat) : Prop where
  multiple : ∃ units : Nat, y = units * 2 ^ place
  low : x ≤ y + 2 ^ place / 2
  high : y ≤ x + 2 ^ place / 2

namespace Nearest

variable {place : Int} {x y : Rat}

/-- Rounding up stops at a multiple of the place. -/
theorem le_multiple (nearest : Nearest place x y) {k : Nat} (above : x ≤ k * 2 ^ place) :
    y ≤ k * 2 ^ place := by
  obtain ⟨units, rfl⟩ := nearest.multiple
  have unit : (0 : Rat) < 2 ^ place := by positivity
  have high := nearest.high
  have fewer : units ≤ k := by
    by_contra more
    have next : ((k + 1 : Nat) : Rat) ≤ units := by exact_mod_cast Nat.lt_of_not_le more
    have apart := mul_le_mul_of_nonneg_right next unit.le
    push_cast at apart
    linarith
  exact mul_le_mul_of_nonneg_right (by exact_mod_cast fewer) unit.le

/-- Rounding down stops at a multiple of the place. -/
theorem multiple_le (nearest : Nearest place x y) {k : Nat} (below : k * 2 ^ place ≤ x) :
    k * 2 ^ place ≤ y := by
  obtain ⟨units, rfl⟩ := nearest.multiple
  have unit : (0 : Rat) < 2 ^ place := by positivity
  have low := nearest.low
  have fewer : k ≤ units := by
    by_contra more
    have next : ((units + 1 : Nat) : Rat) ≤ k := by exact_mod_cast Nat.lt_of_not_le more
    have apart := mul_le_mul_of_nonneg_right next unit.le
    push_cast at apart
    linarith
  exact mul_le_mul_of_nonneg_right (by exact_mod_cast fewer) unit.le

theorem natCast_eq_multiple (fine : place ≤ 0) (n : Nat) :
    (n : Rat) = ((n * 2 ^ (-place).toNat : Nat) : Rat) * 2 ^ place := by
  obtain ⟨digits, rfl⟩ : ∃ digits : Nat, place = -digits := ⟨(-place).toNat, by omega⟩
  simp

theorem le_natCast (nearest : Nearest place x y) (fine : place ≤ 0) {n : Nat} (above : x ≤ n) :
    y ≤ n := by
  rw [natCast_eq_multiple fine n] at above ⊢
  exact nearest.le_multiple above

theorem natCast_le (nearest : Nearest place x y) (fine : place ≤ 0) {n : Nat} (below : n ≤ x) :
    n ≤ y := by
  rw [natCast_eq_multiple fine n] at below ⊢
  exact nearest.multiple_le below

theorem nonneg (nearest : Nearest place x y) : 0 ≤ y := by
  obtain ⟨units, rfl⟩ := nearest.multiple
  positivity

/-- Rounding to a place is off by half of every coarser place at most. -/
theorem within (nearest : Nearest place x y) {coarse : Int} (fine : place ≤ coarse) :
    x ≤ y + 2 ^ coarse / 2 ∧ y ≤ x + 2 ^ coarse / 2 := by
  have unit : (2 : Rat) ^ place ≤ 2 ^ coarse := zpow_le_zpow_right₀ one_le_two fine
  have low := nearest.low
  have high := nearest.high
  constructor <;> linarith

theorem near (nearest : Nearest place x y) (fine : place ≤ 0) :
    x ≤ y + 1 / 2 ∧ y ≤ x + 1 / 2 := by
  simpa only [zpow_zero] using nearest.within fine

end Nearest

theorem twoPow_succ (exponent : Nat) : twoPow (exponent + 1) = 2 * twoPow exponent :=
  Nat.pow_succ'

theorem twoPow_toNat_div (e : Int) :
    (twoPow e.toNat : Rat) / twoPow (-e).toNat = 2 ^ e := by
  obtain ⟨n, rfl | rfl⟩ := e.eq_nat_or_neg <;> simp [twoPow]

section

variable {num den : Nat}

/-- The bounds that the binary exponent stands for. -/
theorem binaryExponent_bounds (some : 0 < num) (parts : 0 < den) :
    (2 : Rat) ^ binaryExponent num den ≤ (num : Rat) / den ∧
      (num : Rat) / den < 2 ^ (binaryExponent num den + 1) := by
  have positive : (0 : Rat) < den := by exact_mod_cast parts
  have numLow : (2 : Rat) ^ (num.log2 : Int) ≤ num := by
    exact_mod_cast Nat.log2_self_le (Nat.ne_of_gt some)
  have numHigh : (num : Rat) < 2 ^ (num.log2 + 1 : Int) := by exact_mod_cast Nat.lt_log2_self
  have denLow : (2 : Rat) ^ (den.log2 : Int) ≤ den := by
    exact_mod_cast Nat.log2_self_le (Nat.ne_of_gt parts)
  have denHigh : (den : Rat) < 2 ^ (den.log2 + 1 : Int) := by exact_mod_cast Nat.lt_log2_self
  -- The logarithms leave two candidates, and the comparison decides between them.
  obtain ⟨e, isExponent⟩ : ∃ e : Int, (num.log2 : Int) - den.log2 = e := ⟨_, rfl⟩
  have split : (2 : Rat) ^ e = 2 ^ (num.log2 : Int) / 2 ^ (den.log2 : Int) := by
    rw [← isExponent, zpow_sub₀ two_ne_zero]
  have above : (num : Rat) / den < 2 ^ (e + 1) := by
    rw [zpow_add_one₀ two_ne_zero, split, div_mul_eq_mul_div, ← zpow_add_one₀ two_ne_zero]
    exact div_lt_div₀ numHigh denLow (by positivity) (by positivity)
  have below : (2 : Rat) ^ (e - 1) < (num : Rat) / den := by
    rw [zpow_sub_one₀ two_ne_zero, split, ← div_eq_mul_inv, div_div,
      ← zpow_add_one₀ two_ne_zero]
    exact div_lt_div₀' numLow denHigh (by exact_mod_cast some) positive
  have decides : den * twoPow e.toNat ≤ num * twoPow (-e).toNat ↔
      (2 : Rat) ^ e ≤ (num : Rat) / den := by
    have scale : (0 : Rat) < twoPow (-e).toNat := by exact_mod_cast twoPow_pos _
    rw [← twoPow_toNat_div, div_le_div_iff₀ scale positive, Nat.mul_comm den]
    norm_cast
  rw [binaryExponent, isExponent]
  by_cases reached : den * twoPow e.toNat ≤ num * twoPow (-e).toNat
  · rw [if_pos reached]
    exact ⟨decides.1 reached, above⟩
  · rw [if_neg reached, Int.sub_add_cancel]
    exact ⟨below.le, lt_of_not_ge fun high => reached (decides.2 high)⟩

/-- A quotient rounded to its last place is a multiple of it, and within half of it. -/
theorem roundPositive_nearest (num : Nat) (parts : 0 < den) :
    Nearest (lastPlace num den) ((num : Rat) / den) (roundPositive num den) := by
  obtain ⟨place, isPlace⟩ : ∃ place : Int, lastPlace num den = place := ⟨_, rfl⟩
  obtain ⟨above, isAbove⟩ : ∃ above : Nat, twoPow place.toNat = above := ⟨_, rfl⟩
  obtain ⟨below, isBelow⟩ : ∃ below : Nat, twoPow (-place).toNat = below := ⟨_, rfl⟩
  have unit : (2 : Rat) ^ place = above / below := by
    rw [← twoPow_toNat_div, isAbove, isBelow]
  have abovePositive : 0 < above := isAbove ▸ twoPow_pos _
  have belowPositive : 0 < below := isBelow ▸ twoPow_pos _
  have scaled : 0 < den * above := Nat.mul_pos parts abovePositive
  simp only [roundPositive, isPlace, isAbove, isBelow]
  obtain ⟨units, isUnits⟩ :
      ∃ units, roundQuotient (num * below) (den * above) = units := ⟨_, rfl⟩
  have near : 2 * (num * below) ≤ 2 * (units * (den * above)) + den * above ∧
      2 * (units * (den * above)) ≤ 2 * (num * below) + den * above :=
    isUnits ▸ roundQuotient_near scaled
  have value : (mkRat (units * above : Nat) below : Rat) = units * 2 ^ place := by
    rw [unit, Rat.mkRat_eq_div]
    push_cast
    ring
  have nonzero : (den : Rat) * below ≠ 0 := by positivity
  have lowNat : (2 * (num * below) : Rat) ≤ 2 * (units * (den * above)) + den * above := by
    exact_mod_cast near.1
  have highNat : (2 * (units * (den * above)) : Rat) ≤ 2 * (num * below) + den * above := by
    exact_mod_cast near.2
  rw [isUnits, value]
  refine ⟨⟨units, rfl⟩, ?_, ?_⟩
  · rw [unit]
    field_simp
    linarith
  · rw [unit]
    field_simp
    linarith

end

def place (x : Rat) : Int := lastPlace x.num.natAbs x.den

section

variable {x : Rat} {e : Int}

theorem natAbs_div_den (positive : 0 < x) : (x.num.natAbs : Rat) / x.den = x := by
  have sign : 0 < x.num := Rat.num_pos.2 positive
  have same : ((x.num.natAbs : Int) : Rat) = x.num := by
    rw [Int.natAbs_of_nonneg sign.le]
  rw [← Int.cast_natCast, same, Rat.num_div_den]

theorem binaryExponent_num_bounds (positive : 0 < x) :
    (2 : Rat) ^ binaryExponent x.num.natAbs x.den ≤ x ∧
      x < 2 ^ (binaryExponent x.num.natAbs x.den + 1) := by
  have some : 0 < x.num.natAbs := Int.natAbs_pos.2 (Rat.num_pos.2 positive).ne'
  have bounds := binaryExponent_bounds some x.den_pos
  rwa [natAbs_div_den positive] at bounds

theorem place_le (positive : 0 < x) (normal : -1074 ≤ e) (small : x < 2 ^ (e + 53)) :
    place x ≤ e := by
  have between := (binaryExponent_num_bounds positive).1.trans_lt small
  have exponent := (zpow_lt_zpow_iff_right₀ one_lt_two).1 between
  simp only [place, lastPlace]
  omega

theorem le_place (positive : 0 < x) (large : 2 ^ (e + 52) ≤ x) : e ≤ place x := by
  have between := large.trans_lt (binaryExponent_num_bounds positive).2
  have exponent := (zpow_lt_zpow_iff_right₀ one_lt_two).1 between
  simp only [place, lastPlace]
  omega

theorem round_eq_finite (positive : 0 < x.num)
    (finite : ¬ (twoPow 1024 : Rat) ≤ roundPositive x.num.natAbs x.den) :
    round x = .finite (roundPositive x.num.natAbs x.den) := by
  have sign : decide (x.num < 0) = false := decide_eq_false positive.not_gt
  rw [round, if_neg positive.ne']
  simp only [sign, if_neg finite, Bool.false_eq_true, if_false]

/-- A positive number up to `2 ^ 53` is rounded to the nearest multiple of its place. -/
theorem round_nearest (positive : 0 < x) (small : x < 2 ^ 53) :
    ∃ y, round x = .finite y ∧ Nearest (place x) x y := by
  have nearest := roundPositive_nearest x.num.natAbs x.den_pos
  rw [natAbs_div_den positive] at nearest
  have fine : place x ≤ 0 := place_le positive (by decide) (by simpa using small)
  have held : roundPositive x.num.natAbs x.den ≤ (2 ^ 53 : Nat) :=
    nearest.le_natCast fine (by exact_mod_cast small.le)
  have finite : ¬ (twoPow 1024 : Rat) ≤ roundPositive x.num.natAbs x.den := by
    rw [not_le]
    have room : twoPow 54 ≤ twoPow 1024 := twoPow_le_twoPow (by decide)
    have below : 2 ^ 53 < twoPow 1024 := Nat.lt_of_lt_of_le (by decide) room
    exact held.trans_lt (by exact_mod_cast below)
  exact ⟨_, round_eq_finite (Rat.num_pos.2 positive) finite, nearest⟩

end

theorem roundPositive_natCast_eq_hold {n : Nat} (positive : 0 < n) :
    roundPositive n 1 = Amount.hold n := by
  by_cases long : 52 ≤ n.log2
  · have place : lastPlace n 1 = (n.log2 - 52 : Nat) := by
      rw [lastPlace, binaryExponent_natCast positive]
      omega
    have none : (-((n.log2 - 52 : Nat) : Int)).toNat = 0 := by omega
    simp only [roundPositive, Amount.hold, place, none, Int.toNat_natCast, twoPow_zero,
      Nat.mul_one, Nat.one_mul, Rat.mkRat_one]
    rfl
  · have small : n ≤ maxSafe := by
      have short := (Nat.log2_lt positive.ne').1 (Nat.lt_of_not_le long)
      simp only [maxSafe]
      omega
    rw [roundPositive_natCast positive small, Amount.hold_eq_self small]

/-- A natural number is rounded to the nearest amount. -/
theorem round_natCast_eq_hold {n : Nat} (small : n < twoPow 1023) :
    round n = ofNat (Amount.hold n) := by
  rcases Nat.eq_zero_or_pos n with rfl | positive
  · rfl
  · have finite : ¬ (twoPow 1024 : Rat) ≤ (Amount.hold n : Nat) := by
      have close := (Amount.hold_close n).2
      have double := twoPow_succ 1023
      have room : Amount.hold n < twoPow 1024 := by lia
      exact_mod_cast room.not_ge
    have rounded : roundPositive (n : Rat).num.natAbs (n : Rat).den = (Amount.hold n : Nat) := by
      rw [Rat.num_natCast, Rat.den_natCast, Int.natAbs_natCast,
        roundPositive_natCast_eq_hold positive]
    rw [← rounded] at finite
    rw [round_eq_finite (Rat.num_pos.2 (by exact_mod_cast positive)) finite, rounded, ofNat, ofInt,
      Int.cast_natCast]

/-! ## Order -/

/-- What is rounded of the size of a number. -/
def magnitude (x : Rat) : Rat := roundPositive x.num.natAbs x.den

section

variable {x q : Rat}

theorem magnitude_neg (x : Rat) : magnitude (-x) = magnitude x := by simp [magnitude]

theorem magnitude_nearest (positive : 0 < x) : Nearest (place x) x (magnitude x) := by
  have nearest := roundPositive_nearest x.num.natAbs x.den_pos
  rwa [natAbs_div_den positive] at nearest

theorem place_mono (positive : 0 < q) (above : q ≤ x) : place q ≤ place x := by
  have low := (binaryExponent_num_bounds positive).1
  have high := (binaryExponent_num_bounds (positive.trans_le above)).2
  have exponent := (zpow_lt_zpow_iff_right₀ one_lt_two).1 ((low.trans above).trans_lt high)
  simp only [place, lastPlace]
  omega

theorem exists_multiple {fine coarse : Int} (finer : fine ≤ coarse) (units : Nat) :
    ∃ more : Nat, (units : Rat) * 2 ^ coarse = more * 2 ^ fine := by
  obtain ⟨digits, rfl⟩ := Int.le.dest finer
  refine ⟨units * 2 ^ digits, ?_⟩
  rw [zpow_add₀ two_ne_zero, zpow_natCast]
  push_cast
  ring

theorem magnitude_le (positive : 0 < x) (held : magnitude q = q) (below : x ≤ q) :
    magnitude x ≤ q := by
  obtain ⟨units, same⟩ := (magnitude_nearest (positive.trans_le below)).multiple
  rw [held] at same
  obtain ⟨more, isMore⟩ := exists_multiple (place_mono positive below) units
  rw [same, isMore] at below ⊢
  exact (magnitude_nearest positive).le_multiple below

/-- Rounding down does not pass a number that rounding leaves alone. -/
theorem le_magnitude (positive : 0 < q) (held : magnitude q = q) (above : q ≤ x) :
    q ≤ magnitude x := by
  have nearest := magnitude_nearest (positive.trans_le above)
  obtain ⟨units, same⟩ := (magnitude_nearest positive).multiple
  rw [held] at same
  rcases (place_mono positive above).eq_or_lt with level | coarser
  · rw [level] at same
    rw [same] at above ⊢
    exact nearest.multiple_le above
  -- The power of two between the two numbers is a multiple of the coarser place.
  · have power := (binaryExponent_num_bounds (positive.trans_le above)).1
    have less := (binaryExponent_num_bounds positive).2
    simp only [place, lastPlace] at coarser
    have isPlace : place x + 52 = binaryExponent x.num.natAbs x.den := by
      simp only [place, lastPlace]
      omega
    have split : (2 : Rat) ^ binaryExponent x.num.natAbs x.den = (2 ^ 52 : Nat) * 2 ^ place x := by
      rw [← isPlace, zpow_add₀ two_ne_zero]
      norm_num
      ring
    have between : q ≤ 2 ^ binaryExponent x.num.natAbs x.den :=
      less.le.trans (zpow_le_zpow_right₀ one_le_two (by omega))
    rw [split] at power between
    exact between.trans (nearest.multiple_le power)

theorem round_of_pos (positive : 0 < x) :
    round x = if (twoPow 1024 : Rat) ≤ magnitude x then .infinity false
      else .finite (magnitude x) := by
  have sign : decide (x.num < 0) = false := decide_eq_false (Rat.num_pos.2 positive).not_gt
  rw [round, if_neg (Rat.num_pos.2 positive).ne']
  simp only [sign, Bool.false_eq_true, if_false]
  rfl

theorem round_of_neg (negative : x < 0) :
    round x = if (twoPow 1024 : Rat) ≤ magnitude x then .infinity true
      else .finite (-magnitude x) := by
  have sign : decide (x.num < 0) = true := decide_eq_true (Rat.num_neg.2 negative)
  rw [round, if_neg (Rat.num_neg.2 negative).ne]
  simp only [sign, if_true]
  rfl

/-- Rounding keeps a number above all values of the format that it is above. -/
theorem not_round_lt (isValue : round q = .finite q) (above : q ≤ x) :
    (round x).lt (.finite q) = false := by
  rcases lt_trichotomy x 0 with negative | rfl | positive
  · have lower := above.trans_lt negative
    rw [round_of_neg lower] at isValue
    split at isValue
    · cases isValue
    · next finite =>
      have held : magnitude (-q) = -q := by
        rw [magnitude_neg]
        linarith [Number.finite.inj isValue]
      have small : magnitude x ≤ -q := by
        rw [← magnitude_neg]
        exact magnitude_le (neg_pos.2 negative) held (neg_le_neg above)
      rw [magnitude_neg] at held
      have bounded : ¬(twoPow 1024 : Rat) ≤ magnitude x := fun large =>
        finite (held ▸ large.trans small)
      rw [round_of_neg negative, if_neg bounded]
      exact decide_eq_false (not_lt.2 (by linarith))
  · exact decide_eq_false (not_lt.2 above)
  · rw [round_of_pos positive]
    split
    · rfl
    · refine decide_eq_false (not_lt.2 ?_)
      rcases le_or_gt q 0 with low | some
      · exact low.trans (magnitude_nearest positive).nonneg
      · rw [round_of_pos some] at isValue
        split at isValue
        · cases isValue
        · exact le_magnitude some (Number.finite.inj isValue) above

end

/-- A number that rounding leaves alone. -/
def IsValue : Number → Prop
  | .finite x => round x = .finite x
  | _ => True

instance : (x : Number) → Decidable x.IsValue
  | .finite x => inferInstanceAs (Decidable (round x = .finite x))
  | .nan | .infinity _ => .isTrue trivial

/-- Adding a natural number brings no value of the format below itself. -/
theorem not_add_lt {x : Number} (isValue : x.IsValue) (n : Nat) :
    (x.add (.ofNat n)).lt x = false := by
  cases x with
  | nan => rfl
  | infinity negative => cases negative <;> rfl
  | finite x =>
      have above : x ≤ x + ((n : Int) : Rat) := by
        have := Nat.cast_nonneg (α := Rat) n
        push_cast
        linarith
      exact not_round_lt isValue above

/-- A whole number of at most 53 bits is not rounded. -/
theorem round_intCast {n : Int} (small : n.natAbs ≤ maxSafe) : round n = ofInt n := by
  obtain ⟨size, rfl | rfl⟩ := n.eq_nat_or_neg
  · rw [Int.cast_natCast, round_natCast (by simpa using small), ofNat]
  · rcases Nat.eq_zero_or_pos size with rfl | positive
    · rfl
    · have negative : ((-(size : Int) : Int) : Rat) < 0 := by exact_mod_cast by omega
      have exact : magnitude ((-(size : Int) : Int) : Rat) = size := by
        rw [Int.cast_neg, magnitude_neg, magnitude]
        simpa using roundPositive_natCast positive (by simpa using small)
      have bounded : ¬(twoPow 1024 : Rat) ≤ size := by
        have room : twoPow 53 ≤ twoPow 1024 := twoPow_le_twoPow (by decide)
        have below : maxSafe < twoPow 53 := by decide
        have short : size < twoPow 1024 := by
          rw [Int.natAbs_neg, Int.natAbs_natCast] at small
          omega
        exact_mod_cast short.not_ge
      rw [round_of_neg negative, exact, if_neg bounded, ofInt]
      simp

/-- A whole number of at most 53 bits comes after the sum of another and a natural number, as it is
computed, just if it comes after the exact sum. -/
theorem add_ofNat_lt_iff {a b : Int} (n : Nat) (small : a.natAbs ≤ maxSafe)
    (isSafe : b.natAbs ≤ maxSafe) :
    ((ofInt a).add (.ofNat n)).lt (.ofInt b) = true ↔ a + n < b := by
  have sum : (ofInt a).add (.ofNat n) = round ((a + n : Int) : Rat) := by
    rw [Int.cast_add]
    rfl
  rw [sum]
  constructor
  · intro later
    by_contra reached
    have above : (b : Rat) ≤ ((a + n : Int) : Rat) := by exact_mod_cast not_lt.1 reached
    rw [ofInt, not_round_lt (round_intCast isSafe) above] at later
    exact absurd later (by decide)
  · intro later
    rw [round_intCast (by omega)]
    exact decide_eq_true (by exact_mod_cast later)

theorem not_lt_of_le {x y : Number} (ordered : x.le y = true) : y.lt x = false := by
  rw [le, Bool.or_eq_true] at ordered
  match x, y with
  | .nan, .nan | .nan, .infinity _ | .nan, .finite _ => rfl
  | .infinity _, .nan | .finite _, .nan => rfl
  | .infinity _, .finite _ | .finite _, .infinity _ => simp_all [lt, equals]
  | .infinity negative, .infinity other => cases negative <;> cases other <;> simp_all [lt, equals]
  | .finite x, .finite y =>
      simp only [lt, equals, decide_eq_true_eq] at ordered
      exact decide_eq_false (not_lt.2 (ordered.elim le_of_lt le_of_eq))

end Number

end SavingsCircle
