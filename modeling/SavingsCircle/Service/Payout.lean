import SavingsCircle.Circle.Record
import SavingsCircle.Service.Effect

/-!
# Queues, payouts and cycles

The administrator closes the roster by fixing the payout queue, at random if the circle wants it
so. In every cycle each seat is paid the contribution once, less the protocol's fee; a payout
needs custody to hold the contribution and the surcharges owed on it. Once every seat is paid or
put out the cycle is complete and can be rolled over into the next one.
-/

namespace SavingsCircle

/-- Whether two lists of addresses hold the same addresses equally often: put in order, they are
equal. -/
def isPermutation (candidate roster : List Address) : Bool :=
  Text.sorted candidate == Text.sorted roster

namespace Circle

def lateFee (circle : Circle) (now : Number) : Amount :=
  if circle.deadline.lt now then Amount.share circle.contribution circle.lateFeeRate else 0

def insuranceFee (circle : Circle) : Amount :=
  Amount.share circle.contribution circle.insuranceFeeRate

/-- What custody has to hold before a payout: the contribution and the surcharges owed on it, each
at most what its earmark holds. -/
def payoutTarget (circle : Circle) (now : Number) : Amount :=
  Amount.add
    (Amount.add circle.contribution (min (circle.lateFee now) circle.reserve))
    (min circle.insuranceFee circle.insurance)

theorem contribution_le_payoutTarget (circle : Circle)
    (safe : circle.contribution ≤ Number.maxSafe) (now : Number) :
    circle.contribution ≤ circle.payoutTarget now :=
  Amount.le_add_add safe

/-- A payout needs custody to hold no more than the contribution and what is earmarked. -/
theorem payoutTarget_le (circle : Circle)
    (safe : circle.contribution + circle.reserve + circle.insurance ≤ Number.maxSafe)
    (now : Number) :
    circle.payoutTarget now ≤ circle.contribution + circle.reserve + circle.insurance := by
  have late : circle.contribution + min (circle.lateFee now) circle.reserve ≤
      circle.contribution + circle.reserve :=
    Nat.add_le_add_left (Nat.min_le_right ..) _
  have whole := Nat.add_le_add late (Nat.min_le_right circle.insuranceFee circle.insurance)
  have first := Nat.le_trans (Nat.le_trans late (Nat.le_add_right _ _)) safe
  rw [payoutTarget, Amount.add_eq first, Amount.add_eq (Nat.le_trans whole safe)]
  exact whole

def paySeat (circle : Circle) (position : Nat) : Circle :=
  { circle.updateSeat position fun seat => { seat with isPaidOut := true } with
    payouts := circle.payouts + 1
    volume := Amount.add circle.volume circle.contribution
    balance := Amount.sub circle.balance circle.contribution }

@[simp] theorem members_paySeat (circle : Circle) (position : Nat) :
    (circle.paySeat position).members = circle.members :=
  members_updateSeat circle position fun _ => rfl

/-- Begins the next cycle: what a seat has paid in is netted against the payout it had. -/
def rollOver (circle : Circle) : Circle :=
  { circle with
    seats := circle.seats.map fun seat =>
      { seat with
        isPaidOut := false
        hasContributed := false
        paidIn := if seat.isPaidOut then Amount.sub seat.paidIn circle.contribution
          else seat.paidIn }
    cycle := circle.cycle + 1
    payouts := 0
    volume := 0
    isInsuranceUsed := false }

@[simp] theorem members_rollOver (circle : Circle) : circle.rollOver.members = circle.members := by
  simp [members, rollOver]

end Circle

namespace Books

/-- Fixes the payout queue. A queue once fixed is only answered again. -/
def finalize (books : Books) (host : Host) (moment : Moment) (proof : Option Proof) (id : Number) :
    Except Failure Effect :=
  books.byAdmin host moment proof id fun circle => do
    circle.demandOpen
    if !circle.payoutQueue.isEmpty then
      return circle.answering books.records moment (.addresses circle.payoutQueue)
    demand (!circle.seats.isEmpty)
      (.circle .invalidCircleState "Cannot finalize a circle without members.")
    let (queue, draws) := if circle.isRandomQueue then host.shuffle circle.members moment.draws
      else (circle.members, moment.draws)
    demand (isPermutation queue circle.members)
      (.circle .invalidCircleState "Shuffled queue is not a permutation.")
    return {
      circle := { circle with payoutQueue := queue }
      records := books.records
      draws
      events := [.queueFinalized circle.id queue]
      transfers := []
      receipt := .settled (.addresses queue) }

def payoutShortfall (balance target : Amount) : Failure :=
  .circle .insufficientBalance
    ("Circle custody holds " ++ (Number.ofNat balance).text ++ ", payout requires " ++
      (Number.ofNat target).text ++ ".")

/-- Pays a member the contribution, less the protocol's fee. -/
def processPayout (books : Books) (host : Host) (moment : Moment) (proof : Option Proof)
    (id : Number) (recipient : Address) : Except Failure Effect :=
  books.byAdmin host moment proof id fun circle => do
    circle.demandOpen
    demand (!circle.payoutQueue.isEmpty) (.ofKind .circleNotFinalized)
    let (position, seat) ← demandSome (circle.activeSeat? books.records recipient)
      (.ofKind .notMember)
    demand (!seat.isPaidOut) (.ofKind .payoutAlreadyReceived)
    let target := circle.payoutTarget moment.now
    demand (target ≤ circle.balance) (payoutShortfall circle.balance target)
    let gross := circle.contribution
    let fee := Amount.share gross books.feeRate
    let net : Int := gross - fee
    demand (fee = 0 ∨ books.treasury.isSome)
      (.circle .invalidFeeConfig "A protocol fee is set without a treasury.")
    let paid := circle.paySeat position
    let isComplete := paid.isCycleComplete books.records
    let feeTransfers := (if 0 < fee then books.treasury else none).toList.map fun treasury =>
      (⟨circle.asset, host.custody, treasury, .ofNat fee⟩ : Transfer)
    return {
      circle := paid
      records := books.records
      draws := moment.draws
      events := .payoutProcessed circle.id recipient gross net fee ::
        if isComplete then [.cycleCompleted circle.id paid.volume] else []
      transfers := ⟨circle.asset, host.custody, recipient, .ofInt net⟩ :: feeTransfers
      receipt := .settled (.payout recipient gross net fee isComplete) }

/-- Begins the next cycle of a circle whose cycle is complete. -/
def rollover (books : Books) (host : Host) (moment : Moment) (proof : Option Proof) (id : Number) :
    Except Failure Effect :=
  books.byAdmin host moment proof id fun circle => do
    circle.demandOpen
    demand (circle.isCycleComplete books.records) (.ofKind .cycleNotComplete)
    let next := circle.rollOver
    return {
      circle := next
      records := books.records
      draws := moment.draws
      events := [.groupRollover circle.id next.cycle]
      transfers := []
      receipt := .settled (.cycle next.cycleInfo) }

end Books

end SavingsCircle
