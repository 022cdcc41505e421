import SavingsCircle.Proofs.Circle.Roster
import SavingsCircle.Proofs.Number.Rounding

/-!
# What the fee leaves

The fee on a payout is a rounded product, divided by the whole rate, rounded again and cut. Neither
rounding brings a fee above the gross amount, except where the fee is all of it and the product
comes out more than half a unit too large (`Overcharges`). The fee is then one more than the gross
amount and the recipient is left with minus one, which is no amount that can be transferred
(`payout_is_divided_iff`).
-/

namespace SavingsCircle

theorem Number.isSome_safeNat?_ofInt_iff {n : Int} :
    (ofInt n).safeNat?.isSome ↔ 0 ≤ n ∧ n ≤ maxSafe := by
  simp only [safeNat?, nat?, int?_ofInt, Option.bind_some]
  split
  · simp only [Option.bind_some]
    split <;> simp <;> omega
  · simp
    omega

namespace Fees

/-- The fee is all of a gross amount, and the product that it is cut from is rounded up by more than
half of a unit of the fee. -/
def Overcharges (gross rate : Nat) : Prop :=
  rate = wholeRate ∧ wholeRate * gross + 5000 < Amount.hold (wholeRate * gross)

instance (gross rate : Nat) : Decidable (Overcharges gross rate) :=
  inferInstanceAs (Decidable (_ ∧ _))

/-- The quotient that the share of an amount is cut from, before it is rounded. -/
def quotient (amount rate : Nat) : Rat := (Amount.hold (amount * rate) : Nat) / (wholeRate : Rat)

section

variable {gross rate : Nat}

/-- A product that is rounded up by half of a unit of the fee has a coarse last place. -/
theorem coarse_of_excess
    (excess : wholeRate * gross + 5000 ≤ Amount.hold (wholeRate * gross)) :
    14 ≤ (wholeRate * gross).log2 - 52 := by
  have near := (Amount.hold_near (wholeRate * gross)).2
  by_contra fine
  have small : twoPow ((wholeRate * gross).log2 - 52) ≤ twoPow 13 := twoPow_le_twoPow (by omega)
  have unit : twoPow 13 = 8192 := by decide
  lia

/-- The excess of a product is never just half of a unit of the fee. -/
theorem hold_ne_half (gross : Nat) :
    Amount.hold (wholeRate * gross) ≠ wholeRate * gross + 5000 := by
  intro half
  have coarse := coarse_of_excess half.ge
  -- Sixteen divides the rounded product and ten thousand, but not the five thousand between them.
  have sixteen : 16 ∣ Amount.hold (wholeRate * gross) :=
    (Nat.pow_dvd_pow 2 (by omega : 4 ≤ (wholeRate * gross).log2 - 52)).trans
      (Amount.twoPow_dvd_hold _)
  rw [half, wholeRate] at sixteen
  lia

/-- Only gross amounts from `2 ^ 66 / 10000` on are overcharged. -/
theorem Overcharges.le_gross (excessive : Overcharges gross rate) : 7378697629483821 ≤ gross := by
  have coarse := coarse_of_excess excessive.2.le
  have long := Amount.twoPow_mul_le (n := wholeRate * gross) (by omega)
  have unit := twoPow_le_twoPow coarse
  have units : twoPow 14 = 2 ^ 14 := by decide
  simp only [wholeRate] at *
  lia

theorem whole_pos : (0 : Rat) < wholeRate := by norm_num [wholeRate]

/-- The quotient of a safe amount lies between zero and `2 ^ 53`. -/
theorem quotient_bounds (some : 0 < gross) (charged : 0 < rate) (safe : gross ≤ Number.maxSafe)
    (isRate : rate ≤ wholeRate) : 0 < quotient gross rate ∧ quotient gross rate < 2 ^ 53 := by
  have close := Amount.hold_close (gross * rate)
  have product : 0 < gross * rate := Nat.mul_pos some charged
  have most : gross * rate ≤ Number.maxSafe * wholeRate := Nat.mul_le_mul safe isRate
  simp only [Number.maxSafe, wholeRate] at most
  constructor
  · have positive : 0 < Amount.hold (gross * rate) := by lia
    exact div_pos (by exact_mod_cast positive) whole_pos
  · have below : Amount.hold (gross * rate) < 2 ^ 53 * wholeRate := by
      rw [wholeRate]
      lia
    rw [quotient, div_lt_iff₀ whole_pos]
    exact_mod_cast below

/-- Unless it is overcharged, the quotient of an amount is less than half above the amount. -/
theorem quotient_lt (fair : ¬Overcharges gross rate) (isRate : rate ≤ wholeRate) :
    quotient gross rate < gross + 1 / 2 := by
  have below : Amount.hold (gross * rate) < wholeRate * gross + 5000 := by
    rcases Nat.lt_or_eq_of_le isRate with less | rfl
    · have close := (Amount.hold_close (gross * rate)).2
      have most : gross * rate ≤ gross * 9999 := Nat.mul_le_mul_left gross (Nat.le_of_lt_succ less)
      simp only [wholeRate]
      lia
    · have half := hold_ne_half gross
      have least : Amount.hold (wholeRate * gross) ≤ wholeRate * gross + 5000 :=
        Nat.le_of_not_lt fun more => fair ⟨rfl, more⟩
      rw [Nat.mul_comm gross]
      exact Nat.lt_of_le_of_ne least half
  have scaled : (Amount.hold (gross * rate) : Rat) < wholeRate * gross + 5000 := by
    exact_mod_cast below
  rw [quotient, div_lt_iff₀ whole_pos]
  norm_num [wholeRate] at scaled ⊢
  linarith

/-- The quotient of an overcharged amount is more than half above the amount, and by less than
one. -/
theorem Overcharges.quotient_between (excessive : Overcharges gross rate)
    (safe : gross ≤ Number.maxSafe) :
    gross + 1 / 2 < quotient gross rate ∧ quotient gross rate < gross + 1 := by
  obtain ⟨rfl, excess⟩ := excessive
  have close := (Amount.hold_close (wholeRate * gross)).2
  have below : Amount.hold (wholeRate * gross) < wholeRate * gross + wholeRate := by
    simp only [Number.maxSafe, wholeRate] at safe close ⊢
    lia
  have low : (wholeRate * gross + 5000 : Rat) < Amount.hold (wholeRate * gross) := by
    exact_mod_cast excess
  have high : (Amount.hold (wholeRate * gross) : Rat) < wholeRate * gross + wholeRate := by
    exact_mod_cast below
  rw [quotient, Nat.mul_comm gross, lt_div_iff₀ whole_pos, div_lt_iff₀ whole_pos]
  norm_num [wholeRate] at low high ⊢
  constructor <;> linarith

/-- A share that is not nothing is the whole part of a rounded quotient. -/
theorem share_eq (some : 0 < gross) (charged : 0 < rate) (safe : gross ≤ Number.maxSafe)
    (isRate : rate ≤ wholeRate) :
    ∃ (y : Rat) (fee : Nat),
      Number.Nearest (Number.place (quotient gross rate)) (quotient gross rate) y ∧
        share (.ofNat gross) (.ofNat rate) = .ofNat fee ∧ (fee : Rat) ≤ y ∧ y < fee + 1 := by
  obtain ⟨positive, below⟩ := quotient_bounds some charged safe isRate
  obtain ⟨y, rounded, nearest⟩ := Number.round_nearest positive below
  have whole : ((⌊y⌋.toNat : Int) : Rat) = ⌊y⌋ := by
    rw [Int.toNat_of_nonneg (Int.floor_nonneg.2 nearest.nonneg)]
  refine ⟨y, ⌊y⌋.toNat, nearest, ?_, ?_, ?_⟩
  · have small : gross * rate < twoPow 1023 := by
      have most : gross * rate ≤ Number.maxSafe * wholeRate := Nat.mul_le_mul safe isRate
      have room : Number.maxSafe * wholeRate < twoPow 67 := by decide
      have more := twoPow_le_twoPow (by decide : 67 ≤ 1023)
      omega
    have product : (Number.ofNat gross).mul (.ofNat rate) =
        .ofNat (Amount.hold (gross * rate)) := by
      rw [← Number.round_natCast_eq_hold small]
      simp [Number.mul, Number.ofNat, Number.ofInt]
    have divided : (Number.ofNat (Amount.hold (gross * rate))).divNat wholeRate = .finite y := by
      rw [← rounded]
      simp [Number.divNat, Number.ofNat, Number.ofInt, quotient]
    have chargeable : ((Number.ofNat rate).isZero || (Number.ofNat gross).isZero) = false := by
      simp [Number.isZero, Number.ofNat, Number.ofInt, some.ne', charged.ne']
    have cut : y.floor = (⌊y⌋.toNat : Int) := by
      rw [Int.toNat_of_nonneg (Int.floor_nonneg.2 nearest.nonneg)]
      rfl
    rw [share, chargeable, product, divided]
    exact congrArg Number.ofInt cut
  · rw [← Int.cast_natCast, whole]
    exact Int.floor_le y
  · rw [← Int.cast_natCast, whole]
    exact Int.lt_floor_add_one y

/-- The share of a safe amount is no larger than the amount, or it is overcharged and larger by
one. -/
theorem share_le_or (some : 0 < gross) (safe : gross ≤ Number.maxSafe)
    (isRate : rate ≤ wholeRate) :
    ∃ fee : Nat, share (.ofNat gross) (.ofNat rate) = .ofNat fee ∧
      (¬Overcharges gross rate → fee ≤ gross) ∧ (Overcharges gross rate → fee = gross + 1) := by
  rcases Nat.eq_zero_or_pos rate with rfl | charged
  · exact ⟨0, by simp [share, Number.isZero, Number.ofNat, Number.ofInt], fun _ => Nat.zero_le _,
      fun excessive => absurd excessive.1 (by decide)⟩
  · obtain ⟨y, fee, nearest, isShare, low, high⟩ := share_eq some charged safe isRate
    obtain ⟨positive, below⟩ := quotient_bounds some charged safe isRate
    have fine : Number.place (quotient gross rate) ≤ 0 :=
      Number.place_le positive (by decide) (by simpa using below)
    obtain ⟨nearLow, nearHigh⟩ := nearest.near fine
    refine ⟨fee, isShare, fun fair => ?_, fun excessive => ?_⟩
    · have most := quotient_lt fair isRate
      have less : (fee : Rat) < (gross + 1 : Nat) := by
        push_cast
        linarith
      exact Nat.le_of_lt_succ (by exact_mod_cast less)
    · obtain ⟨least, most⟩ := excessive.quotient_between safe
      have large : (2 : Rat) ^ ((0 : Int) + 52) ≤ quotient gross rate := by
        have bound : (7378697629483821 : Rat) ≤ gross := by exact_mod_cast excessive.le_gross
        norm_num
        linarith
      have whole : Number.place (quotient gross rate) = 0 :=
        le_antisymm fine (Number.le_place positive large)
      -- The rounded quotient is a whole number here, so cutting it changes nothing.
      obtain ⟨units, rfl⟩ := nearest.multiple
      rw [whole, zpow_zero, mul_one] at low high nearLow nearHigh
      have more : gross < units := by
        have above : (gross : Rat) < units := by linarith
        exact_mod_cast above
      have fewer : fee < gross + 2 := by
        have above : (fee : Rat) < (gross + 2 : Nat) := by
          push_cast
          linarith
        exact_mod_cast above
      have next : units < fee + 1 := by exact_mod_cast high
      omega

/-- The fee and what the recipient keeps of a safe amount make up the amount, and neither is out of
bounds unless the amount is overcharged. The fee is then larger by one. -/
theorem split_eq (some : 0 < gross) (safe : gross ≤ Number.maxSafe) (isRate : rate ≤ wholeRate) :
    ∃ (fee : Nat) (net : Int), split (.ofNat gross) (.ofNat rate) = ⟨.ofNat fee, .ofInt net⟩ ∧
      fee + net = gross ∧ (fee ≤ gross ∧ 0 ≤ net ↔ ¬Overcharges gross rate) ∧
        (Overcharges gross rate → fee = gross + 1) := by
  obtain ⟨fee, isShare, fair, excessive⟩ := share_le_or some safe isRate
  refine ⟨fee, (gross : Int) - fee, ?_, by omega, ⟨fun within overcharged => ?_, fun charged => ?_⟩,
    excessive⟩
  · have rest : (Number.ofNat gross).sub (.ofNat fee) = .ofInt ((gross : Int) - fee) := by
      have difference : (Number.ofNat gross).sub (.ofNat fee) =
          Number.round (((gross : Int) - fee : Int) : Rat) := by
        simp [Number.sub, Number.neg, Number.add, Number.ofNat, Number.ofInt, sub_eq_add_neg]
      rw [difference]
      by_cases overcharged : Overcharges gross rate
      · have lost : (gross : Int) - fee = -1 := by
          have more := excessive overcharged
          omega
        rw [lost]
        decide +kernel
      · obtain ⟨left, isLeft⟩ := Nat.exists_eq_add_of_le (fair overcharged)
        have kept : (gross : Int) - fee = left := by omega
        rw [kept, Int.cast_natCast, Number.round_natCast (by omega)]
        rfl
    rw [split, isShare, rest]
  · have more := excessive overcharged
    omega
  · have least := fair charged
    omega

end

end Fees

/-- Every call keeps the fee on payouts a rate. -/
theorem booksKept_feeRate_le (host : Host) :
    BooksKept host (fun _ => True) fun books _ => books.feeRate ≤ Fees.wholeRate where
  reset _ _ := Nat.zero_le _
  write := by
    intro books _ _ _ _ _ rate performed _ _
    cases performs_of_perform performed with
    | claimProtocol _ _ isProtocol =>
        subst isProtocol
        exact Nat.zero_le _
    | setProtocolFee _ _ isRate _ isProtocol =>
        subst isProtocol
        exact Fees.rate?_le isRate
    | _ => exact rate

section

variable {host : Host} {moment : Moment} {books : Books} {effect : Effect}

/-- The transfers of a payout are of what the recipient keeps and of the fee, if there is any. -/
theorem Performs.payout_amounts {proof : Option Proof} {id : Number} {recipient : Address}
    {circle : Circle} {fee : Nat} {net : Int}
    (performs : Performs host moment books (.processPayout proof id recipient) effect)
    (found : books.circle id = .ok circle)
    (isSplit : Fees.split (.ofNat circle.contribution) (.ofNat books.feeRate) =
      ⟨.ofNat fee, .ofInt net⟩) (whole : fee + net = circle.contribution) :
    effect.transfers.map (·.amount) = .ofInt net :: if fee = 0 then [] else [.ofNat fee] := by
  cases performs with
  | byMember _ _ _ belongs => cases belongs
  | byAdmin named here _ _ deed =>
      obtain rfl := Option.some.inj named
      obtain rfl := Except.ok.inj (here.symm.trans found)
      cases deed with
      | @processPayout _ _ _ _ _ taken kept _ _ _ _ _ _ _ isFee isNet routed =>
          have share := congrArg (·.fee) isSplit
          have same : taken = fee := by
            rw [isFee, Amount.share, show Fees.share _ _ = _ from share, Number.toNat_ofNat]
          have rest : kept = net := by lia
          subst same rest
          rcases Nat.eq_zero_or_pos taken with rfl | charged
          · rfl
          · obtain ⟨treasury, isTreasury⟩ :=
              Option.isSome_iff_exists.1 (routed.resolve_left charged.ne')
            simp [Books.install, charged, charged.ne', isTreasury]

/-- The amounts of the transfers of a payout can be transferred unless the payout is overcharged. -/
theorem Performs.payout_acceptable_iff {proof : Option Proof} {id : Number} {recipient : Address}
    {circle : Circle}
    (performs : Performs host moment books (.processPayout proof id recipient) effect)
    (found : books.circle id = .ok circle) (sound : circle.Sound)
    (isRate : books.feeRate ≤ Fees.wholeRate) :
    ∃ (fee : Nat) (net : Int),
      Fees.split (.ofNat circle.contribution) (.ofNat books.feeRate) = ⟨.ofNat fee, .ofInt net⟩ ∧
        effect.transfers.map (·.amount) = .ofInt net :: (if fee = 0 then [] else [.ofNat fee]) ∧
          ((∀ transfer ∈ effect.transfers, transfer.amount.safeNat?.isSome) ↔
            ¬Fees.Overcharges circle.contribution books.feeRate) := by
  have safe := sound.safe
  obtain ⟨fee, net, isSplit, whole, within, _⟩ := Fees.split_eq sound.positive safe isRate
  have amounts := performs.payout_amounts found isSplit whole
  refine ⟨fee, net, isSplit, amounts, ?_⟩
  have shown : (∀ transfer ∈ effect.transfers, transfer.amount.safeNat?.isSome) ↔
      ∀ amount ∈ effect.transfers.map (·.amount), amount.safeNat?.isSome := by
    simp only [List.forall_mem_map]
  rw [shown, amounts, List.forall_mem_cons, Number.isSome_safeNat?_ofInt_iff, ← within]
  constructor
  · rintro ⟨⟨kept, _⟩, _⟩
    omega
  · rintro ⟨least, kept⟩
    refine ⟨by lia, ?_⟩
    split
    · exact nofun
    · rw [List.forall_mem_singleton, Number.ofNat, Number.isSome_safeNat?_ofInt_iff]
      lia

end

/-- For every safe amount and every rate, the fee and the rest are whole numbers that make up the
amount. The fee is at most the amount and the rest is not negative, unless the fee is all of the
amount and the product it is cut from is rounded up by more than half: the fee is then larger by
one, which happens to some amounts above `2 ^ 66 / 10000`. In every world of a run the transfers of
a payout are of this rest and of this fee, and only in that case one of them cannot be made. -/
theorem payout_is_divided_iff {host : Host} {now clock : Number} {nonce : String} {draws : Draws}
    {steps : List Step} {world : World}
    (visits : Visits host (.opened now clock nonce draws) steps world) :
    (∀ gross rate : Nat, 0 < gross → gross ≤ Number.maxSafe → rate ≤ Fees.wholeRate →
      (Fees.Overcharges gross rate → 7378697629483821 ≤ gross) ∧
      ∃ (fee : Nat) (net : Int),
        Fees.split (.ofNat gross) (.ofNat rate) = ⟨.ofNat fee, .ofInt net⟩ ∧
          fee + net = gross ∧ (fee ≤ gross ∧ 0 ≤ net ↔ ¬Fees.Overcharges gross rate) ∧
            (Fees.Overcharges gross rate → fee = gross + 1)) ∧
      ∀ proof id recipient circle effect, world.books.circle id = .ok circle →
        Operation.perform (.processPayout proof id recipient) host world.moment world.books =
          .ok effect →
        ∃ (fee : Nat) (net : Int),
          Fees.split (.ofNat circle.contribution) (.ofNat world.books.feeRate) =
              ⟨.ofNat fee, .ofInt net⟩ ∧
            effect.transfers.map (·.amount) =
              .ofInt net :: (if fee = 0 then [] else [.ofNat fee]) ∧
            ((∀ transfer ∈ effect.transfers, transfer.amount.safeNat?.isSome) ↔
              ¬Fees.Overcharges circle.contribution world.books.feeRate) := by
  constructor
  · intro gross rate some safe isRate
    exact ⟨Fees.Overcharges.le_gross, Fees.split_eq some safe isRate⟩
  · intro proof id recipient circle effect found performed
    have isRate := (booksKept_feeRate_le host).holds (fun _ _ => trivial) visits
    obtain ⟨_, sound⟩ :=
      (circleInvariant_sound host).booksKept.holds (fun _ _ _ _ => trivial) visits
    exact (performs_of_perform performed).payout_acceptable_iff found
      (sound circle (Books.mem_of_circle found)) isRate

/-- With a fee of one quarter, a payout of one hundred is of seventy-five and twenty-five. -/
theorem payout_is_divided_of_quarter :
    let proof := Host.sample.proofOf "a"
    let id := Number.ofNat 1
    let payout : Operation := .processPayout proof id "a"
    let steps : List Step :=
      [.call (.claimProtocol proof) [],
        .call (.setProtocolFee proof (.ofNat 2500) (some "chest")) [],
        .call (.createCircle proof .sample) [], .call (.join proof id) [],
        .mint "USDC" "a" (.ofNat 200), .call (.finalize proof id) [],
        .call (.contribute proof id) []]
    let world := (runAll Host.sample steps World.sample).1
    ∃ effect, payout.perform Host.sample world.moment world.books = .ok effect ∧
      effect.transfers.map (·.amount) = [.ofNat 75, .ofNat 25] ∧
      ∀ transfer ∈ effect.transfers, transfer.amount.safeNat?.isSome := by
  intro proof id payout steps world
  have performed : (payout.perform Host.sample world.moment world.books).toOption.map
      (fun effect => effect.transfers.map (·.amount)) = some [.ofNat 75, .ofNat 25] := by
    decide +kernel
  have isCircle : (world.books.circle id).toOption.map (·.contribution) = some 100 := by
    decide +kernel
  have isRate : world.books.feeRate = 2500 := by decide +kernel
  have visits : Visits Host.sample World.sample steps world := .inl rfl
  clear_value world
  obtain ⟨effect, isEffect, amounts⟩ := exists_ok_of_map_toOption performed
  obtain ⟨circle, found, contribution⟩ := exists_ok_of_map_toOption isCircle
  obtain ⟨_, _, _, _, acceptable⟩ :=
    (payout_is_divided_iff visits).2 proof id "a" circle effect found isEffect
  refine ⟨effect, isEffect, amounts, acceptable.2 ?_⟩
  rw [contribution, isRate]
  decide

/-- All of an amount is charged with one more than the amount, and less than nothing is left. -/
theorem fee_exceeds_gross :
    let gross := 7378697629483825
    gross ≤ Number.maxSafe ∧
      Fees.split (.ofNat gross) (.ofNat Fees.wholeRate) = ⟨.ofNat (gross + 1), .ofInt (-1)⟩ := by
  decide +kernel

end SavingsCircle
