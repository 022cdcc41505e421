import SavingsCircle.Circle.Roster
import SavingsCircle.Circle.Votes
import SavingsCircle.Service.Effect

/-!
# Membership

Members join while the payout queue is open. Later seats can only change hands: by a swap, or by
filling the place of a member who asked to leave. The administrator can remove a member, keeping
a penalty, or put a member out, which leaves the seat where it is. Every change of the roster
settles the votes.
-/

namespace SavingsCircle

namespace Books

/-- Takes a seat in a circle. -/
def join (books : Books) (host : Host) (moment : Moment) (proof : Option Proof) (id : Number) :
    Except Failure Effect :=
  books.byMember host proof id fun member circle => do
    circle.demandOpen
    demand ((circle.position? member).isNone) (.ofKind .alreadyJoined)
    demand (circle.seats.length < maxMembers) (.ofKind .maxMembersReached)
    demand circle.payoutQueue.isEmpty
      (.circle .invalidCircleState "Payout queue is already finalized.")
    return {
      circle := circle.addSeat member
      records := books.records.enroll circle.id member circle.seats.length moment.now
      draws := moment.draws
      events := [.memberJoined circle.id member]
      transfers := []
      receipt := .enrolled circle.id member }

/-- Removes a member, who gets back what was paid in less a penalty. The penalty goes to the
treasury if there is one and else stays in the circle's reserve. -/
def kick (books : Books) (host : Host) (moment : Moment) (proof : Option Proof) (id : Number)
    (member : Address) (penalty : Number) : Except Failure Effect :=
  books.byAdmin host moment proof id fun circle => do
    circle.demandOpen
    let penalty ← demandSome penalty.safeNat?
      (.invalidAmount "Penalty must be a non-negative integer.")
    let (position, seat) ← demandSome (circle.seat? member) (.ofKind .memberNotFound)
    demand (penalty ≤ seat.paidIn) (.ofKind .penaltyExceedsContribution)
    demand (!seat.isPaidOut) (.circle .invalidCircleState
      "A member paid out this cycle cannot be removed until rollover.")
    let refund := Amount.sub seat.paidIn penalty
    let fined := if 0 < penalty then books.treasury else none
    let outflow := if fined.isSome then seat.paidIn else refund
    demand (outflow ≤ circle.balance) (.ofKind .insufficientBalance)
    let removed := circle.removeSeat position
    let reindexed := books.records.reindex circle.id removed.directory
    let records := reindexed.remove circle.id member
    let (settled, decisions) := Circle.settle
      { removed with
        balance := Amount.sub circle.balance outflow
        reserve := if fined.isSome then circle.reserve else Amount.add circle.reserve penalty }
      records
    return {
      circle := settled
      records
      draws := moment.draws
      events := decisions ++ [.kicked circle.id member refund penalty]
      transfers := circle.payOut host member refund ++
        fined.toList.map fun treasury => ⟨circle.asset, host.custody, treasury, .ofNat penalty⟩
      receipt := .settled (.removal member refund penalty)
      departed := reindexed.filter fun record => record.isOf circle.id member }

/-- Puts a member in the place of another, whose record moves along with the seat. -/
def swapIn (books : Books) (moment : Moment) (circle : Circle) (former successor : Address) :
    Except Failure Change := do
  circle.demandOpen
  let position ← demandSome (circle.position? former) (.ofKind .memberNotFound)
  if former = successor then
    return circle.answering books.records moment (.circle circle)
  demand ((circle.position? successor).isNone) (.ofKind .memberAlreadyExists)
  let record ← books.records.record circle.id former
  let renamed := circle.renameMember former successor
  let records := (books.records.remove circle.id former).enroll circle.id successor position
    moment.now
  let records := records.update circle.id successor fun fresh =>
    { fresh with
      contributionCount := record.contributionCount
      lastContributionAt := record.lastContributionAt
      status := record.status }
  return {
    circle := renamed
    records := records.reindex circle.id renamed.directory
    draws := moment.draws
    events := [.memberSwapped circle.id former successor]
    transfers := []
    receipt := .settled (.circle renamed) }

/-- A member hands the seat to someone else; both give proof. -/
def swap (books : Books) (host : Host) (moment : Moment)
    (formerProof successorProof : Option Proof) (id : Number) : Except Failure Effect := do
  let former ← host.authorize formerProof
  let successor ← host.authorize successorProof
  let circle ← books.circle id
  let change ← books.swapIn moment circle former successor
  return books.install change

/-- The administrator hands a member's seat to someone else. -/
def swapByAdmin (books : Books) (host : Host) (moment : Moment) (proof : Option Proof) (id : Number)
    (former successor : Address) : Except Failure Effect :=
  books.byAdmin host moment proof id fun circle =>
    books.swapIn moment circle former successor

/-- Puts a member out. The seat stays, but its holder no longer votes, pays in or is paid. -/
def eject (books : Books) (host : Host) (moment : Moment) (proof : Option Proof) (id : Number)
    (member : Address) : Except Failure Effect :=
  books.byAdmin host moment proof id fun circle => do
    circle.demandOpen
    demand ((circle.position? member).isSome) (.ofKind .memberNotFound)
    let record ← books.records.record circle.id member
    demand (record.status ≠ .ejected)
      (.circle .invalidCircleState "Member is already ejected.")
    let record := { record with status := .ejected }
    let records := books.records.update circle.id member fun _ => record
    let (settled, decisions) := circle.settle records
    return {
      circle := settled
      records
      draws := moment.draws
      events := decisions ++ [.memberEjected circle.id member]
      transfers := []
      receipt := .settled (.member record) }

/-- Asks to be replaced. -/
def requestExit (books : Books) (host : Host) (moment : Moment) (proof : Option Proof)
    (id : Number) : Except Failure Effect :=
  books.byMember host proof id fun member circle => do
    circle.demandOpen
    demand ((circle.position? member).isSome) (.ofKind .notMember)
    let record ← books.records.record circle.id member
    demand (record.status = .active)
      (.circle .invalidCircleState "Only active members can request an exit.")
    let record := { record with status := .awaitingReplacement }
    return {
      circle
      records := books.records.update circle.id member fun _ => record
      draws := moment.draws
      events := [.exitRequested circle.id member]
      transfers := []
      receipt := .settled (.member record) }

/-- Replaces a member who asked to leave, and gives back what can be refunded for the seat. -/
def fillVacancy (books : Books) (host : Host) (moment : Moment)
    (proof successorProof : Option Proof) (id : Number) (exiting : Address) :
    Except Failure Effect :=
  books.byAdmin host moment proof id fun circle => do
    let successor ← host.authorize successorProof
    circle.demandOpen
    let (position, seat) ← demandSome (circle.seat? exiting) (.ofKind .memberNotFound)
    let record ← books.records.record circle.id exiting
    demand (record.status = .awaitingReplacement)
      (.circle .invalidCircleState "Member has not requested an exit.")
    demand ((circle.position? successor).isNone) (.ofKind .memberAlreadyExists)
    let refund := circle.refundable seat
    demand (refund ≤ circle.balance) (.ofKind .insufficientBalance)
    let vacated := circle.vacateSeat position exiting successor
    let records := books.records.update circle.id exiting fun record =>
      { record with status := .ejected }
    let records := (records.reindex circle.id vacated.directory).enroll circle.id successor
      position moment.now
    let (settled, decisions) := Circle.settle
      { vacated with balance := Amount.sub circle.balance refund } records
    return {
      circle := settled
      records
      draws := moment.draws
      events := decisions ++ [.vacancyFilled circle.id exiting successor refund]
      transfers := circle.payOut host exiting refund
      receipt := .enrolled circle.id successor }

end Books

end SavingsCircle
