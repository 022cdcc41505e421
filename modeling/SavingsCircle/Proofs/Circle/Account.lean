import Mathlib.Algebra.BigOperators.Group.List.Basic
import Mathlib.Algebra.Order.Ring.Int
import SavingsCircle.Proofs.Circle.Roster

/-!
# The money of a circle and the trail

The trail tells what every call did to the money of a circle (`Event.adds`), and a call tells of at
most one thing that moves money (`Deed.movesOnce`). So the amounts that a circle keeps are the sums
of what the trail tells of it, and these were never below zero on the way: no difference was cut
off. Where a penalty goes depends on whether a treasury was named before, which the trail tells as
well.
-/

namespace SavingsCircle

namespace Amount

theorem intCast_add {a b : Amount} (exactly : add a b ≤ Number.maxSafe) :
    ((add a b : Nat) : Int) = a + b := by
  rw [add_eq_of_le exactly, Int.natCast_add]

theorem intCast_sub {a b : Amount} (exactly : sub a b ≤ Number.maxSafe) (enough : b ≤ a) :
    ((sub a b : Nat) : Int) = a + -(b : Int) := by
  rw [sub_eq_of_le exactly, Int.natCast_sub enough, Int.sub_eq_add_neg]

end Amount

/-- The amounts of money that a circle keeps. -/
inductive Fund where
  | balance
  | reserve
  | insurance

def Circle.fund (circle : Circle) : Fund → Amount
  | .balance => circle.balance
  | .reserve => circle.reserve
  | .insurance => circle.insurance

namespace Event

/-- Whether an event names a treasury, where penalties go from then on. -/
def namesTreasury : Event → Bool
  | .protocolFeeUpdated .. => true
  | _ => false

/-- Whether an event tells of money that a circle receives, pays or no longer sets aside. -/
def movesMoney : Event → Bool
  | .contributionReceived .. | .payoutProcessed .. | .vacancyFilled .. | .proRataWithdrawn ..
  | .kicked .. | .insuranceCoverage .. => true
  | _ => false

/-- What an event adds to a fund of its circle. A penalty leaves custody if a treasury is named, and
else stays in the reserve. -/
def adds (named : Bool) : Fund → Event → Int
  | .balance, .contributionReceived _ _ amount _ _ => amount
  | .reserve, .contributionReceived _ _ _ lateFee _ => lateFee
  | .insurance, .contributionReceived _ _ _ _ insuranceFee => insuranceFee
  | .balance, .payoutProcessed _ _ gross _ _ => -gross
  | .balance, .vacancyFilled _ _ _ refund => -refund
  | .balance, .proRataWithdrawn _ _ amount => -amount
  | .balance, .kicked _ _ refund penalty => -refund - if named then (penalty : Int) else 0
  | .reserve, .kicked _ _ _ penalty => if named then 0 else penalty
  | .insurance, .insuranceCoverage _ _ amount => -amount
  | _, _ => 0

variable {named : Bool} {fund : Fund} {event : Event} {events : List Event}

theorem adds_of_still (still : event.movesMoney = false) : event.adds named fund = 0 := by
  cases event <;> first | (simp [movesMoney] at still; done) | (cases fund <;> rfl)

theorem IsDecision.still {id : Nat} (decision : event.IsDecision id) :
    event.movesMoney = false := by
  cases decision <;> rfl

theorem sum_adds_filter (named : Bool) (fund : Fund) (events : List Event) :
    ((events.filter movesMoney).map (adds named fund)).sum =
      (events.map (adds named fund)).sum := by
  induction events with
  | nil => rfl
  | cons event events ih =>
      rw [List.filter_cons, List.map_cons, List.sum_cons]
      split
      · rw [List.map_cons, List.sum_cons, ih]
      · next still => rw [ih, adds_of_still (by simpa using still), zero_add]

theorem sum_adds_payout {circle : Nat} {volume : Amount} (payout : Event) (isComplete : Bool) :
    ((payout :: if isComplete then [.cycleCompleted circle volume] else []).map
      (adds named fund)).sum = adds named fund payout := by
  cases isComplete with
  | true => cases fund <;> simp [adds]
  | false => simp

/-- If at most one of the events moves money, the first of them add nothing or everything. -/
theorem sum_adds_prefix (once : (events.filter movesMoney).length ≤ 1) {part : List Event}
    (first : part <+: events) (named : Bool) (fund : Fund) :
    (part.map (adds named fund)).sum = 0 ∨
      (part.map (adds named fund)).sum = (events.map (adds named fund)).sum := by
  have shorter := first.filter movesMoney
  rw [← sum_adds_filter named fund part, ← sum_adds_filter named fund events]
  cases moving : part.filter movesMoney with
  | nil => exact .inl rfl
  | cons event others =>
      rw [moving] at shorter
      have size := shorter.length_le
      have same : event :: others = events.filter movesMoney := by
        apply shorter.eq_of_length
        simp only [List.length_cons] at size ⊢
        omega
      exact .inr (by rw [same])

end Event

namespace Circle

variable {circle : Circle} {records : Records} {named : Bool} {fund : Fund}

@[simp] theorem fund_settle : (circle.settle records).1.fund fund = circle.fund fund := by
  cases fund <;> simp [Circle.fund]

/-- No amount of the circle is rounded. -/
def IsExact (circle : Circle) : Prop := ∀ fund, circle.fund fund ≤ Number.maxSafe

instance (circle : Circle) : Decidable circle.IsExact :=
  decidable_of_iff
    (circle.balance ≤ Number.maxSafe ∧ circle.reserve ≤ Number.maxSafe ∧
      circle.insurance ≤ Number.maxSafe)
    ⟨fun h fund => by
        cases fund with
        | balance => exact h.1
        | reserve => exact h.2.1
        | insurance => exact h.2.2,
      fun h => ⟨h .balance, h .reserve, h .insurance⟩⟩

theorem filter_movesMoney_settle (circle : Circle) (records : Records) :
    (circle.settle records).2.filter Event.movesMoney = [] := by
  rw [List.filter_eq_nil_iff]
  intro event mem
  simp [(circle.isDecision_of_mem_settle records mem).still]

theorem sum_adds_settle (circle : Circle) (records : Records) :
    ((circle.settle records).2.map (Event.adds named fund)).sum = 0 := by
  rw [← Event.sum_adds_filter, filter_movesMoney_settle]
  rfl

end Circle

section

variable {treasury fined : Option Address} {penalty : Amount}

theorem isSome_fined_iff (isFined : fined = if 0 < penalty then treasury else none) :
    fined.isSome = true ↔ 0 < penalty ∧ treasury.isSome = true := by
  rw [isFined]
  by_cases positive : 0 < penalty <;> simp [positive]

/-- What leaves custody for a member who is removed is the refund, and the penalty if a treasury is
named. -/
theorem outflow_eq {paidIn refund outflow : Amount}
    (isFined : fined = if 0 < penalty then treasury else none)
    (isRefund : refund = Amount.sub paidIn penalty)
    (isOutflow : outflow = if fined.isSome then paidIn else refund) (owed : penalty ≤ paidIn)
    (small : outflow ≤ Number.maxSafe) :
    (outflow : Int) = refund + if treasury.isSome then (penalty : Int) else 0 := by
  have forwards := isSome_fined_iff isFined
  by_cases forwarded : fined.isSome = true
  · rw [if_pos forwarded] at isOutflow
    rw [isOutflow] at small
    rw [if_pos (forwards.1 forwarded).2, isOutflow, isRefund, Amount.sub_eq small,
      Int.natCast_sub owed]
    omega
  · rw [if_neg forwarded] at isOutflow
    split
    · next named =>
      -- A treasury is named and still nothing is forwarded: there is no penalty.
      have nothing : penalty = 0 := by
        have := fun positive => forwarded (forwards.2 ⟨positive, named⟩)
        lia
      rw [isOutflow, nothing]
      rfl
    · rw [isOutflow, Int.add_zero]

/-- A penalty stays in the reserve unless a treasury is named. -/
theorem reserve_eq {reserve : Amount} (isFined : fined = if 0 < penalty then treasury else none)
    (exactly : (if fined.isSome then reserve else Amount.add reserve penalty) ≤ Number.maxSafe) :
    ((if fined.isSome then reserve else Amount.add reserve penalty : Amount) : Int) =
      reserve + if treasury.isSome then 0 else (penalty : Int) := by
  have forwards := isSome_fined_iff isFined
  by_cases forwarded : fined.isSome = true
  · rw [if_pos forwarded, if_pos (forwards.1 forwarded).2, Int.add_zero]
  · rw [if_neg forwarded] at exactly ⊢
    rw [Amount.intCast_add exactly]
    split
    · next named =>
      have := fun positive => forwarded (forwards.2 ⟨positive, named⟩)
      lia
    · rfl

end

section

variable {host : Host} {moment : Moment} {books : Books} {circle : Circle} {caller : Address}
variable {operation : Operation} {change : Change}

/-- A call on a circle tells of at most one thing that moves money. -/
theorem Deed.movesOnce (deed : Deed host moment books circle caller operation change) :
    (change.events.filter Event.movesMoney).length ≤ 1 := by
  cases deed with
  | kick | eject | fillVacancy =>
      rw [List.filter_append, Circle.filter_movesMoney_settle, List.nil_append]
      exact List.length_filter_le ..
  | proposeDissolution | voteDissolution | proposeLateFee | voteLateFee =>
      show ((Circle.settle _ _).2.filter Event.movesMoney).length ≤ 1
      rw [Circle.filter_movesMoney_settle]
      exact Nat.zero_le _
  | swap _ swapping | swapByAdmin swapping =>
      cases swapping with
      | same => exact Nat.zero_le _
      | renamed => exact List.length_filter_le ..
  | @processPayout _ _ _ _ _ _ _ _ isComplete => cases isComplete <;> exact Nat.le_refl 1
  | handOver | finalizeAgain | withdrawNothing => exact Nat.zero_le _
  | _ => exact List.length_filter_le ..

/-- What a call on a circle does to a fund is what its events add. -/
theorem Deed.fund_eq (sound : circle.Sound) (before : circle.IsExact)
    (after : change.circle.IsExact)
    (deed : Deed host moment books circle caller operation change) (fund : Fund) :
    (change.circle.fund fund : Int) =
      circle.fund fund + (change.events.map (Event.adds books.treasury.isSome fund)).sum := by
  have exactly := after fund
  cases deed with
  | handOver | finalizeAgain | withdrawNothing => cases fund <;> exact (Int.add_zero _).symm
  | join | requestExit | finalize | rollover => cases fund <;> exact (Int.add_zero _).symm
  | @kick _ _ member _ penalty _ seat refund fined outflow _ _ _ _ _ _ owed _ isRefund isFined
      isOutflow covered isRemoved _ isKept =>
      subst isKept isRemoved
      rw [Circle.fund_settle] at exactly ⊢
      rw [List.map_append, List.sum_append, Circle.sum_adds_settle, zero_add, List.map_singleton,
        List.sum_singleton]
      cases fund with
      | balance =>
          have small := Nat.le_trans covered (before .balance)
          have paid := Amount.intCast_sub exactly covered
          refine paid.trans ?_
          rw [outflow_eq isFined isRefund isOutflow owed small]
          simp only [Event.adds, Circle.fund]
          omega
      | reserve => exact reserve_eq isFined exactly
      | insurance => exact (Int.add_zero _).symm
  | swap _ swapping | swapByAdmin swapping =>
      cases swapping with
      | same => cases fund <;> exact (Int.add_zero _).symm
      | renamed _ _ _ _ _ isRenamed =>
          subst isRenamed
          cases fund <;> exact (Int.add_zero _).symm
  | eject isOpen =>
      rw [Circle.fund_settle, List.map_append, List.sum_append, Circle.sum_adds_settle]
      cases fund <;> exact (Int.add_zero _).symm
  | @fillVacancy _ _ _ _ _ _ _ _ refund _ _ _ _ _ _ _ _ _ _ covered isVacated _ isKept =>
      subst isKept isVacated
      rw [Circle.fund_settle] at exactly ⊢
      rw [List.map_append, List.sum_append, Circle.sum_adds_settle, zero_add, List.map_singleton,
        List.sum_singleton]
      cases fund with
      | balance => exact Amount.intCast_sub exactly covered
      | reserve | insurance => exact (Int.add_zero _).symm
  | processPayout _ _ _ _ covered _ _ _ isPaid =>
      subst isPaid
      have enough := Nat.le_trans (circle.contribution_le_payoutTarget sound.safe _) covered
      rw [Event.sum_adds_payout]
      cases fund with
      | balance => exact Amount.intCast_sub exactly enough
      | reserve | insurance => exact (Int.add_zero _).symm
  | contribute =>
      rw [List.map_singleton, List.sum_singleton]
      cases fund <;> exact Amount.intCast_add exactly
  | coverMember _ _ _ _ funded isCovered =>
      subst isCovered
      rw [List.map_singleton, List.sum_singleton]
      cases fund with
      | insurance => exact Amount.intCast_sub exactly funded
      | balance | reserve => exact (Int.add_zero _).symm
  | proposeDissolution | voteDissolution | proposeLateFee | voteLateFee =>
      show ((Circle.settle _ _).1.fund fund : Int) =
        _ + ((Circle.settle _ _).2.map (Event.adds _ fund)).sum
      rw [Circle.fund_settle, Circle.sum_adds_settle]
      cases fund <;> exact (Int.add_zero _).symm
  | withdrawProRata _ _ _ _ covered =>
      rw [List.map_singleton, List.sum_singleton]
      cases fund with
      | balance => exact Amount.intCast_sub exactly covered
      | reserve | insurance => exact (Int.add_zero _).symm

end

end SavingsCircle
