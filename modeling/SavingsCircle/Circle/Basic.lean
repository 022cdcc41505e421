import SavingsCircle.Circle.Directory
import SavingsCircle.Failure
import SavingsCircle.Ledger.Basic

/-!
# Circles and the books of the service

A circle is a group of members who pay the same contribution every cycle, and whose pooled
contributions go to each of them once a cycle. Each member has a seat, which says whether the
member has paid in and has been paid out in the running cycle, and what the member has paid in on
balance. `Books` holds everything that the service keeps: the protocol's configuration, the
circles, a record for every address that has joined a circle, and what users have deposited
outside any circle.
-/

namespace SavingsCircle

/-- The most seats that joining can fill. -/
def maxMembers : Nat := 50

/-- How long the emergency lock holds after the last activity of an administrator, in seconds. -/
def emergencyDelay : Nat := 7 * 24 * 60 * 60

/-- The configuration of the protocol: who administers it, and the fee that payouts pay. -/
structure Protocol where
  admin : Address
  feeRate : Nat
  treasury : Option Address
  deriving DecidableEq

/-- Where a member stands: taking part, waiting for a replacement, or put out. -/
inductive Status where
  | active
  | awaitingReplacement
  | ejected
  deriving DecidableEq

namespace Status

def name : Status → String
  | .active => "active"
  | .awaitingReplacement => "awaiting_replacement"
  | .ejected => "ejected"

end Status

/-- The record of an address in a circle. It outlives the seat. -/
structure MemberRecord where
  circle : Nat
  address : Address
  index : Nat
  contributionCount : Nat
  lastContributionAt : Number
  status : Status
  joinedAt : Number
  deriving DecidableEq

abbrev Records := List MemberRecord

/-- The seat of a member in the running cycle. -/
structure Seat where
  holder : Address
  /-- Whether the payout of this cycle has gone to the seat. -/
  isPaidOut : Bool
  /-- Whether the contribution of this cycle is made or covered. -/
  hasContributed : Bool
  /-- What was paid in for the seat, less what was netted against payouts. -/
  paidIn : Amount
  deriving DecidableEq

namespace Seat

def fresh (holder : Address) : Seat := ⟨holder, false, false, 0⟩

end Seat

/-- A savings circle: its terms, its seats, where it stands in its cycles, what was voted, and the
money it holds. -/
structure Circle where
  id : Nat
  admin : Address
  asset : Asset
  contribution : Amount
  seats : List Seat
  directory : Directory
  isRandomQueue : Bool
  payoutQueue : List Address
  cycle : Nat
  /-- How many payouts this cycle has seen. -/
  payouts : Nat
  /-- What the payouts of this cycle come to. -/
  volume : Amount
  isDissolved : Bool
  dissolutionVotes : List Address
  /-- What the circle holds in custody. -/
  balance : Amount
  cycleDuration : Amount
  deadline : Number
  lateFeeRate : Nat
  /-- The part of the balance that came from surcharges and penalties. -/
  reserve : Amount
  insuranceFeeRate : Nat
  /-- The part of the balance that covers missing contributions. -/
  insurance : Amount
  isInsuranceUsed : Bool
  proposedLateFeeRate : Option Nat
  proposalVotes : List Address
  createdAt : Number
  deriving DecidableEq

namespace Circle

def members (circle : Circle) : List Address := circle.seats.map (·.holder)

def position? (circle : Circle) (address : Address) : Option Nat :=
  circle.directory.position? address

def seat? (circle : Circle) (address : Address) : Option (Nat × Seat) := do
  let position ← circle.position? address
  let seat ← circle.seats[position]?
  return (position, seat)

def updateSeat (circle : Circle) (position : Nat) (change : Seat → Seat) : Circle :=
  { circle with seats := circle.seats.modify position change }

theorem members_updateSeat (circle : Circle) (position : Nat) {change : Seat → Seat}
    (keeps : ∀ seat, (change seat).holder = seat.holder) :
    (circle.updateSeat position change).members = circle.members := by
  apply List.ext_getElem?
  intro i
  simp only [members, updateSeat, List.getElem?_map, List.getElem?_modify]
  by_cases here : position = i
  · cases circle.seats[i]? <;> simp [here, keeps]
  · simp [here]

/-- What can be given back for a seat: what was paid in, less the contribution that a payout of
this cycle has already given. -/
def refundable (circle : Circle) (seat : Seat) : Amount :=
  Amount.sub seat.paidIn (if seat.isPaidOut then circle.contribution else 0)

theorem refundable_eq {circle : Circle} {seat : Seat} (small : seat.paidIn ≤ Number.maxSafe) :
    circle.refundable seat = seat.paidIn - if seat.isPaidOut then circle.contribution else 0 :=
  Amount.sub_eq small

end Circle

/-- What a user has deposited of an asset. -/
structure CustodyEntry where
  user : Address
  asset : Asset
  amount : Amount
  deriving DecidableEq

namespace CustodyEntry

def isOf (entry : CustodyEntry) (user : Address) (asset : Asset) : Bool :=
  entry.user == user && entry.asset == asset

end CustodyEntry

/-- All that the service keeps. -/
structure Books where
  protocol : Option Protocol
  /-- When an administrator was last active. -/
  lastActiveAt : Number
  circleCount : Nat
  circles : List Circle
  records : Records
  custody : List CustodyEntry
  deriving DecidableEq

namespace Books

def opened (now : Number) : Books where
  protocol := none
  lastActiveAt := now
  circleCount := 0
  circles := []
  records := []
  custody := []

def feeRate (books : Books) : Nat := (books.protocol.map (·.feeRate)).getD 0

def treasury (books : Books) : Option Address := books.protocol.bind (·.treasury)

def circle? (books : Books) (id : Nat) : Option Circle := books.circles.find? (·.id == id)

def circle (books : Books) (id : Number) : Except Failure Circle :=
  demandSome (id.nat?.bind books.circle?) (.ofKind .circleNotFound)

def replaceCircle (books : Books) (circle : Circle) : Books :=
  { books with circles := books.circles.map fun c => if c.id = circle.id then circle else c }

def deposited (books : Books) (user : Address) (asset : Asset) : Amount :=
  ((books.custody.find? (·.isOf user asset)).map (·.amount)).getD 0

end Books

end SavingsCircle
