import SavingsCircle.Service.Payout

/-!
# Contributions, insurance and refunds

A member pays in once a cycle: the contribution, a surcharge if the deadline has passed, and the
fee for the insurance fund. Each contribution moves the deadline one cycle ahead. Once a cycle the
insurance fund can cover for a member who has not paid. In a dissolved circle the members take
back what can be refunded for their seats.
-/

namespace SavingsCircle.Books

/-- Pays the contribution of this cycle. -/
def contribute (books : Books) (host : Host) (moment : Moment) (proof : Option Proof)
    (id : Number) : Except Failure Effect :=
  books.byMember host proof id fun member circle => do
    circle.demandOpen
    let (position, seat) ← demandSome (circle.activeSeat? books.records member)
      (.ofKind .notMember)
    demand (!seat.hasContributed)
      (.circle .invalidCircleState "Contribution for this cycle is already paid.")
    let lateFee := circle.lateFee moment.now
    let insuranceFee := circle.insuranceFee
    let amount := Amount.add (Amount.add circle.contribution lateFee) insuranceFee
    let _ ← books.records.record circle.id member
    let paid := circle.updateSeat position fun seat =>
      { seat with
        hasContributed := true
        paidIn := Amount.add seat.paidIn circle.contribution }
    return {
      circle :=
        { paid with
          balance := Amount.add circle.balance amount
          reserve := Amount.add circle.reserve lateFee
          insurance := Amount.add circle.insurance insuranceFee
          deadline := moment.now.add (.ofNat circle.cycleDuration) }
      records := books.records.update circle.id member fun record =>
        { record with
          contributionCount := record.contributionCount + 1
          lastContributionAt := moment.now }
      draws := moment.draws
      events := [.contributionReceived circle.id member amount lateFee insuranceFee]
      transfers := [⟨circle.asset, member, host.custody, .ofNat amount⟩]
      receipt := .settled (.contribution member amount lateFee insuranceFee) }

/-- Lets the insurance fund cover the contribution of a member. -/
def coverMember (books : Books) (host : Host) (moment : Moment) (proof : Option Proof) (id : Number)
    (member : Address) : Except Failure Effect :=
  books.byAdmin host moment proof id fun circle => do
    circle.demandOpen
    let (position, seat) ← demandSome (circle.activeSeat? books.records member)
      (.ofKind .notMember)
    demand (!circle.isInsuranceUsed)
      (.circle .invalidCircleState "Insurance was already used this cycle.")
    demand (!seat.hasContributed)
      (.circle .invalidCircleState "Member already contributed this cycle.")
    demand (circle.contribution ≤ circle.insurance)
      (.circle .insufficientBalance "Insurance fund cannot cover it.")
    let covered :=
      { circle.updateSeat position fun seat => { seat with hasContributed := true } with
        insurance := Amount.sub circle.insurance circle.contribution
        isInsuranceUsed := true }
    return {
      circle := covered
      records := books.records
      draws := moment.draws
      events := [.insuranceCoverage circle.id member circle.contribution]
      transfers := []
      receipt := .settled (.circle covered) }

/-- Takes back what can be refunded for the caller's seat in a dissolved circle. -/
def withdrawProRata (books : Books) (host : Host) (moment : Moment) (proof : Option Proof)
    (id : Number) : Except Failure Effect :=
  books.byMember host proof id fun member circle => do
    demand circle.isDissolved (.ofKind .notDissolved)
    let (position, seat) ← demandSome (circle.seat? member) (.ofKind .notMember)
    let refund := circle.refundable seat
    if refund = 0 then
      return circle.answering books.records moment (.amount 0)
    demand (refund ≤ circle.balance) (.ofKind .insufficientBalance)
    return {
      circle :=
        { circle.updateSeat position fun seat => { seat with paidIn := 0 } with
          balance := Amount.sub circle.balance refund }
      records := books.records
      draws := moment.draws
      events := [.proRataWithdrawn circle.id member refund]
      transfers := circle.payOut host member refund
      receipt := .settled (.amount refund) }

end SavingsCircle.Books
