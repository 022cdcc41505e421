import Mathlib.Algebra.Order.BigOperators.Group.List
import Mathlib.Algebra.Order.Ring.Nat
import SavingsCircle.Proofs.Circle.Tally

/-!
# The funding of a circle

What a circle owes its members is a contribution for everyone who has contributed to the running
cycle and is still to be paid out, and otherwise what can be refunded for the seat. The balance
covers it together with the earmarked reserve and insurance, but for one contribution for each
payout that went to a member who had neither contributed nor been covered (`Circle.Backed`). How
many these are, and who has contributed, is read off the history of the circle.
-/

namespace SavingsCircle

/-- Who has contributed or been covered in the running cycle, and how many payouts so far went to
members who had not. -/
structure Funding where
  contributors : List Address
  unfunded : Nat
  deriving DecidableEq

namespace Funding

/-- The funding after one more event of the circle. -/
def next (funding : Funding) : Event → Funding
  | .contributionReceived _ member _ _ _ | .insuranceCoverage _ member _ =>
    { funding with contributors := member :: funding.contributors }
  | .payoutProcessed _ recipient _ _ _ =>
    if recipient ∈ funding.contributors then funding
    else { funding with unfunded := funding.unfunded + 1 }
  | .groupRollover _ _ => { funding with contributors := [] }
  | .kicked _ member _ _ =>
    { funding with contributors := funding.contributors.filter (· ≠ member) }
  | .vacancyFilled _ exiting _ _ =>
    { funding with contributors := funding.contributors.filter (· ≠ exiting) }
  | .memberSwapped _ former successor =>
    { funding with contributors := funding.contributors.map (Circle.renamed former successor) }
  | _ => funding

def of (past : List Event) : Funding := past.foldl next ⟨[], 0⟩

theorem of_append (past recent : List Event) :
    of (past ++ recent) = recent.foldl next (of past) :=
  List.foldl_append

theorem foldl_decisions {circle : Circle} {records : Records} (funding : Funding)
    (more : List Event) :
    ((circle.settle records).2 ++ more).foldl next funding = more.foldl next funding :=
  circle.foldl_settle records funding more fun _ _ decision => by cases decision <;> rfl

end Funding

namespace Circle

/-- What a circle owes for a seat. -/
def owedTo (circle : Circle) (seat : Seat) : Nat :=
  if !circle.isDissolved && seat.hasContributed && !seat.isPaidOut then circle.contribution
  else circle.refundable seat

/-- A circle whose amounts are exact and none of whose members goes by the reserved address. -/
structure IsPlain (circle : Circle) : Prop where
  unreserved : Directory.reserved ∉ circle.members
  balance : circle.balance ≤ Number.maxSafe
  reserve : circle.reserve ≤ Number.maxSafe
  insurance : circle.insurance ≤ Number.maxSafe

instance (circle : Circle) : Decidable circle.IsPlain :=
  decidable_of_iff
    (Directory.reserved ∉ circle.members ∧ circle.balance ≤ Number.maxSafe ∧
      circle.reserve ≤ Number.maxSafe ∧ circle.insurance ≤ Number.maxSafe)
    ⟨fun h => ⟨h.1, h.2.1, h.2.2.1, h.2.2.2⟩,
      fun h => ⟨h.unreserved, h.balance, h.reserve, h.insurance⟩⟩

/-- A circle whose seats are tallied and whose balance covers what it owes, but for the unfunded
payouts. -/
structure Backed (circle : Circle) (records : Records) (funding : Funding) : Prop where
  tallied : Tallied circle.contribution (circle.isEjected records) funding.contributors circle.seats
  funds : (circle.seats.map circle.owedTo).sum + circle.reserve + circle.insurance ≤
    circle.balance + funding.unfunded * circle.contribution

variable {circle next : Circle} {records : Records} {funding : Funding} {seat : Seat}

theorem owedTo_congr (isDissolved : next.isDissolved = circle.isDissolved)
    (contribution : next.contribution = circle.contribution) : next.owedTo = circle.owedTo := by
  funext seat
  simp [owedTo, refundable, isDissolved, contribution]

/-- Once a circle is dissolved it owes no more than before. -/
theorem owedTo_le (contribution : next.contribution = circle.contribution)
    (isDissolved : circle.isDissolved = true → next.isDissolved = true)
    (safe : circle.contribution ≤ Number.maxSafe) (entry : seat.paidIn ≤ circle.contribution) :
    next.owedTo seat ≤ circle.owedTo seat := by
  have small := Nat.le_trans entry safe
  simp only [owedTo, refundable_eq small, contribution]
  cases open_ : circle.isDissolved with
  | true => simp [isDissolved open_]
  | false =>
      cases next.isDissolved <;> cases seat.hasContributed <;> cases seat.isPaidOut <;> simp
      omega

theorem sum_owedTo {position : Nat} (here : circle.seats[position]? = some seat) :
    (circle.seats.map circle.owedTo).sum =
      circle.owedTo seat + ((circle.seats.eraseIdx position).map circle.owedTo).sum := by
  rw [((perm_cons_eraseIdx here).map _).sum_eq, List.map_cons, List.sum_cons]

theorem refundable_le_owedTo (safe : circle.contribution ≤ Number.maxSafe)
    (entry : seat.paidIn ≤ circle.contribution) : circle.refundable seat ≤ circle.owedTo seat := by
  rw [owedTo]
  split
  · rw [refundable_eq (Nat.le_trans entry safe)]
    exact Nat.le_trans (Nat.sub_le ..) entry
  · exact Nat.le_refl _

theorem owedTo_le_contribution (safe : circle.contribution ≤ Number.maxSafe)
    (entry : seat.paidIn ≤ circle.contribution) : circle.owedTo seat ≤ circle.contribution := by
  rw [owedTo]
  split
  · exact Nat.le_refl _
  · rw [refundable_eq (Nat.le_trans entry safe)]
    exact Nat.le_trans (Nat.sub_le ..) entry

theorem owedTo_paidOut (safe : circle.contribution ≤ Number.maxSafe)
    (entry : seat.paidIn ≤ circle.contribution) (paid : seat.isPaidOut = true) :
    circle.owedTo seat = 0 := by
  simp [owedTo, refundable_eq (Nat.le_trans entry safe), paid, entry]

theorem owedTo_eq_zero (nothing : seat.paidIn = 0) (idle : seat.hasContributed = false) :
    circle.owedTo seat = 0 := by
  have small : seat.paidIn ≤ Number.maxSafe := nothing ▸ Nat.zero_le _
  simp [owedTo, idle, refundable_eq small, nothing]

namespace Backed

/-- A decision of the voters leaves a circle backed. -/
theorem settle (backed : circle.Backed records funding)
    (safe : circle.contribution ≤ Number.maxSafe) :
    (circle.settle records).1.Backed records funding where
  tallied := by
    have same : (circle.settle records).1.isEjected records = circle.isEjected records := by
      funext address
      exact isEjected_congr id_settle rfl
    rw [same, contribution_settle, seats_settle]
    exact backed.tallied
  funds := by
    have lasts := (Circle.Lasts.refl circle).settle records
    have less : ((circle.settle records).1.seats.map (circle.settle records).1.owedTo).sum ≤
        (circle.seats.map circle.owedTo).sum := by
      rw [seats_settle]
      exact List.sum_le_sum fun seat mem => owedTo_le lasts.contribution lasts.isDissolved safe
        (backed.tallied.entry seat mem)
    have funds := backed.funds
    rw [balance_settle, reserve_settle, insurance_settle, contribution_settle]
    omega

theorem afterVote (backed : circle.Backed records funding)
    (safe : circle.contribution ≤ Number.maxSafe) {moment : Moment} {answer : Circle → Answer} :
    (circle.afterVote records moment answer).circle.Backed
      (circle.afterVote records moment answer).records
      ((circle.afterVote records moment answer).events.foldl Funding.next funding) := by
  have decided : (circle.settle records).2.foldl Funding.next funding = funding := by
    simpa using Funding.foldl_decisions funding []
  have settled := backed.settle safe
  rw [← decided] at settled
  exact settled

/-- A seat is changed and put back. -/
theorem change (backed : circle.Backed records funding) {others : Records} {after : Funding}
    {position : Nat} (here : circle.seats[position]? = some seat) (change : Seat → Seat)
    (seats : next.seats = circle.seats.modify position change)
    (contribution : next.contribution = circle.contribution)
    (isDissolved : next.isDissolved = circle.isDissolved)
    (ejected : next.isEjected others = circle.isEjected records)
    (holder : (change seat).holder = seat.holder)
    (entry : (change seat).paidIn ≤ circle.contribution)
    (idle : (change seat).hasContributed = false →
      circle.isEjected records seat.holder = false → (change seat).paidIn = 0)
    (joined : ∀ address, address ∈ after.contributors ↔
      address = seat.holder ∧ (change seat).hasContributed = true ∨
        address ≠ seat.holder ∧ address ∈ funding.contributors)
    (funds : circle.owedTo (change seat) + next.reserve + next.insurance + circle.balance +
        funding.unfunded * circle.contribution ≤
      circle.owedTo seat + circle.reserve + circle.insurance + next.balance +
        after.unfunded * circle.contribution) :
    next.Backed others after where
  tallied := by
    rw [seats, contribution, ejected]
    have opened := backed.tallied.perm (perm_cons_eraseIdx here)
    exact (opened.change holder entry idle joined).perm (modify_perm_cons_eraseIdx here change).symm
  funds := by
    have before := backed.funds
    rw [sum_owedTo here] at before
    rw [owedTo_congr isDissolved contribution, seats, contribution,
      ((modify_perm_cons_eraseIdx here change).map _).sum_eq, List.map_cons, List.sum_cons]
    omega

section

variable {others : Records} {member successor : Address} {position : Nat}

/-- A new member takes a seat. -/
theorem addSeat (backed : circle.Backed records funding) (isNew : member ∉ circle.members)
    (out : ∀ address ∈ circle.members, circle.isEjected records address = true →
      circle.isEjected others address = true) :
    (circle.addSeat member).Backed others funding where
  tallied := by
    have kept : Tallied circle.contribution ((circle.addSeat member).isEjected others)
        funding.contributors circle.seats :=
      backed.tallied.mono fun seat mem isOut => out seat.holder (List.mem_map_of_mem mem) isOut
    have added : Tallied circle.contribution ((circle.addSeat member).isEjected others)
        funding.contributors (Seat.fresh member :: circle.seats) :=
      kept.cons isNew (Nat.zero_le _) (fun _ _ => rfl) (by simp [Seat.fresh])
    exact added.perm (List.perm_append_singleton _ _).symm
  funds := by
    have same : (circle.addSeat member).owedTo = circle.owedTo := owedTo_congr rfl rfl
    have seats : (circle.addSeat member).seats = circle.seats ++ [Seat.fresh member] := rfl
    have nothing : circle.owedTo (Seat.fresh member) = 0 := owedTo_eq_zero rfl rfl
    have total : ((circle.addSeat member).seats.map (circle.addSeat member).owedTo).sum =
        (circle.seats.map circle.owedTo).sum := by
      rw [same, seats, List.map_append, List.sum_append]
      simp [nothing]
    rw [total]
    exact backed.funds

/-- A seat is removed, and what is paid out for it is no more than what is owed. -/
theorem removeSeat (backed : circle.Backed records funding)
    (here : circle.seats[position]? = some seat)
    (out : ∀ address ∈ circle.members, address ≠ seat.holder →
      circle.isEjected records address = true → circle.isEjected others address = true)
    {balance reserve : Nat}
    (funds : reserve + circle.balance ≤ circle.owedTo seat + circle.reserve + balance) :
    Backed { circle.removeSeat position with balance, reserve } others
      { funding with contributors := funding.contributors.filter (· ≠ seat.holder) } where
  tallied := by
    have opened := backed.tallied.perm (perm_cons_eraseIdx here)
    apply opened.uncons.mono
    intro other mem isOut
    have isSeat := (List.eraseIdx_sublist _ _).subset mem
    exact out other.holder (List.mem_map_of_mem isSeat) (opened.holder_ne mem) isOut
  funds := by
    have before := backed.funds
    rw [sum_owedTo here] at before
    have same : Circle.owedTo { circle.removeSeat position with balance, reserve } =
      circle.owedTo := owedTo_congr rfl rfl
    rw [same]
    change ((circle.seats.eraseIdx position).map circle.owedTo).sum + reserve + circle.insurance ≤
      balance + funding.unfunded * circle.contribution
    omega

/-- A seat goes to a successor, and what is paid out for it is no more than what is owed. -/
theorem vacateSeat (backed : circle.Backed records funding)
    (here : circle.seats[position]? = some seat) (isNew : successor ∉ circle.members)
    (out : ∀ address ∈ circle.members, address ≠ seat.holder →
      circle.isEjected records address = true → circle.isEjected others address = true)
    {balance : Nat} (funds : circle.balance ≤ circle.owedTo seat + balance) :
    Backed { circle.vacateSeat position seat.holder successor with balance } others
      { funding with contributors := funding.contributors.filter (· ≠ seat.holder) } where
  tallied := by
    have opened := backed.tallied.perm (perm_cons_eraseIdx here)
    have absent : successor ∉ (circle.seats.eraseIdx position).map (·.holder) := fun mem =>
      isNew ((((List.eraseIdx_sublist _ _).map _).subset mem))
    have kept : Tallied circle.contribution (circle.isEjected others)
        (funding.contributors.filter (· ≠ seat.holder)) (circle.seats.eraseIdx position) := by
      apply opened.uncons.mono
      intro other mem isOut
      have isSeat := (List.eraseIdx_sublist _ _).subset mem
      exact out other.holder (List.mem_map_of_mem isSeat) (opened.holder_ne mem) isOut
    have taken : Tallied circle.contribution (circle.isEjected others)
        (funding.contributors.filter (· ≠ seat.holder))
        ({ seat with holder := successor, hasContributed := false, paidIn := 0 } ::
          circle.seats.eraseIdx position) :=
      kept.cons absent (Nat.zero_le _) (fun _ _ => rfl) (by simp)
    exact taken.perm (modify_perm_cons_eraseIdx here fun seat => { seat with
      holder := successor, hasContributed := false, paidIn := 0 }).symm
  funds := by
    have before := backed.funds
    rw [sum_owedTo here] at before
    have same : Circle.owedTo { circle.vacateSeat position seat.holder successor with balance } =
      circle.owedTo := owedTo_congr rfl rfl
    have total := ((modify_perm_cons_eraseIdx here fun seat => { seat with
      holder := successor, hasContributed := false, paidIn := 0 }).map circle.owedTo).sum_eq
    rw [List.map_cons, List.sum_cons, owedTo_eq_zero rfl rfl] at total
    rw [same]
    change ((circle.seats.modify position _).map circle.owedTo).sum + circle.reserve +
      circle.insurance ≤ balance + funding.unfunded * circle.contribution
    lia

/-- A member is put in the place of another. -/
theorem renameMember {former : Address} (backed : circle.Backed records funding)
    (isNew : successor ∉ circle.members)
    (putOut : ∀ seat ∈ circle.seats, circle.isEjected records seat.holder = true →
      circle.isEjected others (renamed former successor seat.holder) = true) :
    (circle.renameMember former successor).Backed others
      { funding with contributors := funding.contributors.map (renamed former successor) } where
  tallied := backed.tallied.rename isNew putOut
  funds := by
    have total : ((circle.seats.map fun seat =>
        { seat with holder := renamed former successor seat.holder }).map circle.owedTo) =
          circle.seats.map circle.owedTo := by
      rw [List.map_map]
      rfl
    have same : (circle.renameMember former successor).owedTo = circle.owedTo :=
      owedTo_congr rfl rfl
    rw [same]
    change ((circle.seats.map _).map circle.owedTo).sum + circle.reserve + circle.insurance ≤
      circle.balance + funding.unfunded * circle.contribution
    rw [total]
    exact backed.funds

/-- The next cycle begins. -/
theorem rollOver (backed : circle.Backed records funding)
    (safe : circle.contribution ≤ Number.maxSafe) (isOpen : circle.isDissolved = false)
    (complete : circle.isCycleComplete records = true) :
    circle.rollOver.Backed records { funding with contributors := [] } where
  tallied := by
    rw [isCycleComplete, Bool.and_eq_true, List.all_eq_true] at complete
    refine backed.tallied.renew _ (fun _ _ => rfl) (fun _ _ => rfl) ?_ ?_
    · intro seat mem
      have entry := backed.tallied.entry seat mem
      dsimp only
      split
      · rw [Amount.sub_eq (Nat.le_trans entry safe)]
        exact Nat.le_trans (Nat.sub_le ..) entry
      · exact entry
    · intro seat mem active
      have entry := backed.tallied.entry seat mem
      have paid : seat.isPaidOut = true := by
        simpa [active] using complete.2 seat mem
      rw [if_pos paid, Amount.sub_eq (Nat.le_trans entry safe)]
      exact Nat.sub_eq_zero_of_le entry
  funds := by
    have less : (circle.rollOver.seats.map circle.rollOver.owedTo).sum ≤
        (circle.seats.map circle.owedTo).sum := by
      rw [Circle.rollOver, List.map_map]
      apply List.sum_le_sum
      intro seat mem
      have entry := backed.tallied.entry seat mem
      have small := Nat.le_trans entry safe
      have all : Amount.sub seat.paidIn 0 = seat.paidIn := Amount.sub_eq small
      have net : Amount.sub seat.paidIn circle.contribution = seat.paidIn - circle.contribution :=
        Amount.sub_eq small
      have left : Amount.sub (seat.paidIn - circle.contribution) 0 =
          seat.paidIn - circle.contribution :=
        Amount.sub_eq (Nat.le_trans (Nat.sub_le ..) small)
      cases paid : seat.isPaidOut with
      | true => simp [owedTo, refundable, paid, net, left]
      | false =>
          cases contributed : seat.hasContributed with
          | true => simp [owedTo, refundable, paid, contributed, isOpen, all, entry]
          | false => simp [owedTo, refundable, paid, contributed, all]
    have funds := backed.funds
    change (circle.rollOver.seats.map circle.rollOver.owedTo).sum + circle.reserve +
      circle.insurance ≤ circle.balance + funding.unfunded * circle.contribution
    omega

/-- A member is paid out. If the member had not contributed, the circle is short of one more
contribution. -/
theorem paySeat (backed : circle.Backed records funding)
    (safe : circle.contribution ≤ Number.maxSafe) (isOpen : circle.isDissolved = false)
    (here : circle.seats[position]? = some seat)
    (takesPart : circle.isEjected records seat.holder = false) (unpaid : seat.isPaidOut = false)
    (exactly : Amount.sub circle.balance circle.contribution ≤ Number.maxSafe) :
    (circle.paySeat position).Backed records
      (if seat.holder ∈ funding.contributors then funding
        else { funding with unfunded := funding.unfunded + 1 }) := by
  have mem := List.mem_of_getElem? here
  have entry := backed.tallied.entry seat mem
  have opened := backed.tallied.perm (perm_cons_eraseIdx here)
  have paid : circle.owedTo { seat with isPaidOut := true } = 0 := owedTo_paidOut safe entry rfl
  have balance := Amount.sub_eq_of_le exactly
  refine backed.change here (fun seat => { seat with isPaidOut := true }) rfl rfl rfl rfl rfl entry
    (fun fresh _ => backed.tallied.idle seat mem fresh takesPart) ?_ ?_
  · intro address
    split <;> exact opened.mem_contributors_iff_of_seat address
  · rw [paid]
    change 0 + circle.reserve + circle.insurance + circle.balance + _ ≤
      _ + circle.reserve + circle.insurance + Amount.sub circle.balance circle.contribution + _
    rw [balance]
    cases contributed : seat.hasContributed with
    | true =>
        have due : circle.owedTo seat = circle.contribution := by
          simp [owedTo, isOpen, contributed, unpaid]
        rw [due, if_pos (opened.mem_contributors_iff.2 contributed)]
        lia
    | false =>
        have absent : seat.holder ∉ funding.contributors := by
          rw [opened.mem_contributors_iff, contributed]
          simp
        rw [if_neg absent, Nat.add_mul]
        lia

/-- The contribution for a seat is made or covered. -/
theorem credit (backed : circle.Backed records funding)
    (safe : circle.contribution ≤ Number.maxSafe)
    (here : circle.seats[position]? = some seat) (change : Seat → Seat)
    (seats : next.seats = circle.seats.modify position change)
    (contribution : next.contribution = circle.contribution)
    (isDissolved : next.isDissolved = circle.isDissolved)
    (ejected : next.isEjected others = circle.isEjected records)
    (holder : (change seat).holder = seat.holder)
    (entry : (change seat).paidIn ≤ circle.contribution)
    (contributed : (change seat).hasContributed = true)
    (funds : circle.contribution + next.reserve + next.insurance + circle.balance ≤
      circle.reserve + circle.insurance + next.balance) :
    next.Backed others { funding with contributors := seat.holder :: funding.contributors } := by
  refine backed.change here change seats contribution isDissolved ejected holder entry
    (by simp [contributed]) ?_ ?_
  · intro address
    by_cases same : address = seat.holder <;> simp [same, contributed]
  · have due : circle.owedTo (change seat) ≤ circle.contribution :=
      owedTo_le_contribution safe entry
    dsimp only
    lia

/-- A member of a dissolved circle takes back what can be refunded. -/
theorem withdraw (backed : circle.Backed records funding)
    (here : circle.seats[position]? = some seat) (dissolved : circle.isDissolved = true)
    (exactly : Amount.sub circle.balance (circle.refundable seat) ≤ Number.maxSafe) :
    Backed
      { circle.updateSeat position fun seat => { seat with paidIn := 0 } with
        balance := Amount.sub circle.balance (circle.refundable seat) }
      records funding := by
  have opened := backed.tallied.perm (perm_cons_eraseIdx here)
  refine backed.change here (fun seat => { seat with paidIn := 0 }) rfl rfl rfl rfl rfl
    (Nat.zero_le _) (fun _ _ => rfl) opened.mem_contributors_iff_of_seat ?_
  have due : circle.owedTo seat = circle.refundable seat := by simp [owedTo, dissolved]
  have none : circle.owedTo { seat with paidIn := 0 } = 0 := by
    simp [owedTo, dissolved, refundable, Amount.sub_eq (Nat.zero_le _)]
  rw [due, none]
  change 0 + circle.reserve + circle.insurance + circle.balance + _ ≤
    _ + circle.reserve + circle.insurance + Amount.sub circle.balance (circle.refundable seat) + _
  rw [Amount.sub_eq_of_le exactly]
  lia

end

end Backed

end Circle

end SavingsCircle
