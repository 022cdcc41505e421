import SavingsCircle.Proofs.Fees

/-!
# Exact shares

As long as the product of an amount and a rate is at most `2 ^ 53`, the product is not rounded, and
the quotient that the share is cut from is below `2 ^ 40`. Rounding then moves the quotient by
`2 ^ -14` at most. A quotient that is no whole number is at least one ten-thousandth, which is more,
away from the next whole number above, so rounding never reaches that; and it never leaves the whole
number below. What is cut from the rounded quotient is therefore cut from the exact one
(`Fees.share_eq_div`), and all that is computed from shares is exact as well
(`Fees.shares_are_exact`).
-/

namespace SavingsCircle

theorem Amount.hold_eq_of_le {n : Nat} (small : n ≤ 2 ^ 53) : hold n = n := by
  rcases Nat.lt_or_eq_of_le small with less | rfl
  · exact hold_eq_self (Nat.le_of_lt_succ less)
  · decide

namespace Number

theorem le_ofNat_iff {a b : Nat} : (ofNat a).le (ofNat b) = true ↔ a ≤ b := by
  simp only [le, lt, equals, ofNat, ofInt, Bool.or_eq_true, decide_eq_true_eq, Int.cast_natCast,
    Nat.cast_lt, Nat.cast_inj]
  exact Nat.le_iff_lt_or_eq.symm

theorem sub_ofNat {a b : Nat} (within : b ≤ a) (safe : a ≤ maxSafe) :
    (ofNat a).sub (ofNat b) = ofNat (a - b) := by
  have difference : (ofNat a).sub (ofNat b) = round ((a - b : Nat) : Rat) := by
    rw [Nat.cast_sub within]
    simp [sub, neg, add, ofNat, ofInt, sub_eq_add_neg]
  rw [difference, round_natCast (Nat.le_trans (Nat.sub_le a b) safe)]

end Number

namespace Fees

variable {amount rate : Nat}

/-- Where the product is not rounded, the quotient is a whole part and some ten-thousandths, and
rounding leaves the whole part. -/
theorem rounded_quotient_between {y : Rat} (some : 0 < amount) (charged : 0 < rate)
    (small : amount * rate ≤ 2 ^ 53)
    (nearest : Number.Nearest (Number.place (quotient amount rate)) (quotient amount rate) y) :
    (amount * rate / wholeRate : Nat) ≤ y ∧ y < (amount * rate / wholeRate + 1 : Nat) := by
  have product : 0 < amount * rate := Nat.mul_pos some charged
  have isQuotient : quotient amount rate = (amount * rate : Nat) / (wholeRate : Rat) := by
    rw [quotient, Amount.hold_eq_of_le small]
  generalize amount * rate = whole at *
  have positive : 0 < quotient amount rate := by
    rw [isQuotient]
    exact div_pos (by exact_mod_cast product) whole_pos
  have low : (whole / wholeRate : Nat) ≤ quotient amount rate := by
    rw [isQuotient, le_div_iff₀ whole_pos]
    exact_mod_cast Nat.div_mul_le_self whole wholeRate
  have high : quotient amount rate ≤ (whole / wholeRate : Nat) + 9999 / 10000 := by
    have rest : whole ≤ whole / wholeRate * wholeRate + 9999 := by
      simp only [wholeRate]
      omega
    have cast : (whole : Rat) ≤ (whole / wholeRate : Nat) * wholeRate + 9999 := by
      exact_mod_cast rest
    rw [isQuotient, div_le_iff₀ whole_pos, add_mul]
    norm_num [wholeRate] at cast ⊢
    exact cast
  have fine : Number.place (quotient amount rate) ≤ -13 := by
    refine Number.place_le positive (by decide) ?_
    have bound : (whole : Rat) ≤ 2 ^ 53 := by exact_mod_cast small
    rw [isQuotient, div_lt_iff₀ whole_pos]
    norm_num [wholeRate] at bound ⊢
    linarith
  constructor
  · exact nearest.natCast_le (by omega) low
  · have moved := (nearest.within fine).2
    push_cast
    norm_num at moved
    linarith

/-- The share of an amount is the whole part of the exact quotient, as long as the product of amount
and rate is exact. -/
theorem share_eq_div (safe : amount ≤ Number.maxSafe) (isRate : rate ≤ wholeRate)
    (small : amount * rate ≤ 2 ^ 53) :
    share (.ofNat amount) (.ofNat rate) = .ofNat (amount * rate / wholeRate) := by
  rcases Nat.eq_zero_or_pos amount with rfl | some
  · simp [share, Number.isZero, Number.ofNat, Number.ofInt]
  rcases Nat.eq_zero_or_pos rate with rfl | charged
  · simp [share, Number.isZero, Number.ofNat, Number.ofInt]
  obtain ⟨y, fee, nearest, isShare, low, high⟩ := share_eq some charged safe isRate
  obtain ⟨reached, missed⟩ := rounded_quotient_between some charged small nearest
  have most : fee < amount * rate / wholeRate + 1 := by exact_mod_cast low.trans_lt missed
  have least : amount * rate / wholeRate < fee + 1 := by exact_mod_cast reached.trans_lt high
  rw [isShare]
  congr 1
  omega

/-- As long as the product of an amount and a rate is at most `2 ^ 53`, the share of the amount at
the rate is the product divided by the whole rate and cut. Shares are then ordered as amounts and
rates are, no share is more than its amount, and the fee on a payout with what it leaves, the
insurance fee and the late fee are exact. -/
theorem shares_are_exact (safe : amount ≤ Number.maxSafe) (isRate : rate ≤ wholeRate)
    (small : amount * rate ≤ 2 ^ 53) :
    ∃ part : Nat, part = amount * rate / wholeRate ∧
      share (.ofNat amount) (.ofNat rate) = .ofNat part ∧ Amount.share amount rate = part ∧
      (∀ fewer lower : Nat, fewer ≤ amount → lower ≤ rate →
        (share (.ofNat fewer) (.ofNat lower)).le (share (.ofNat amount) (.ofNat rate)) = true) ∧
      (share (.ofNat amount) (.ofNat rate)).le (.ofNat amount) = true ∧
      split (.ofNat amount) (.ofNat rate) = ⟨.ofNat part, .ofNat (amount - part)⟩ ∧
      insuranceFee (.ofNat amount) (.ofNat rate) = .ofNat part ∧
      ∀ now deadline : Number, lateFee (.ofNat amount) (.ofNat rate) now deadline =
        if deadline.lt now then .ofNat part else .ofNat 0 := by
  have isShare := share_eq_div safe isRate small
  have within : amount * rate / wholeRate ≤ amount :=
    Nat.div_le_of_le_mul (Nat.mul_comm wholeRate amount ▸ Nat.mul_le_mul_left amount isRate)
  refine ⟨_, rfl, isShare, ?_, fun fewer lower less below => ?_, ?_, ?_, isShare, ?_⟩
  · rw [Amount.share, isShare, Number.toNat_ofNat]
  · have product : fewer * lower ≤ amount * rate := Nat.mul_le_mul less below
    rw [share_eq_div (less.trans safe) (below.trans isRate) (product.trans small), isShare,
      Number.le_ofNat_iff]
    exact Nat.div_le_div_right product
  · rw [isShare, Number.le_ofNat_iff]
    exact within
  · rw [split, isShare, Number.sub_ofNat within safe]
  · intro now deadline
    rw [lateFee, isShare]

/-- Just below the limit, where the exact share falls short of a whole number by one ten-thousandth
and rounding moves the quotient the furthest. -/
theorem shares_are_exact_near_limit :
    901350867143 * 9993 % wholeRate = 9999 ∧
      share (.ofNat 901350867143) (.ofNat 9993) = .ofNat 900719921535 ∧
      split (.ofNat 901350867143) (.ofNat 9993) = ⟨.ofNat 900719921535, .ofNat 630945608⟩ := by
  obtain ⟨part, rfl, isShare, -, -, -, isSplit, -, -⟩ :=
    shares_are_exact (by decide : 901350867143 ≤ Number.maxSafe) (by decide : 9993 ≤ wholeRate)
      (by decide)
  exact ⟨by decide, isShare, isSplit⟩

end Fees

end SavingsCircle
