import SavingsCircle.Circle.Roster
import SavingsCircle.Circle.Votes

/-!
# Sheets and binders

The service keeps what belongs to the seats of a circle in four lists side by side. A sheet is a
circle with these lists, and a binder holds sheets where books hold circles. Whoever changes the
roster changes all four lists; a sheet whose lists have come to differ in length is no longer the
one of a circle.

What does not depend on seats is read from the circle that a sheet describes.
-/

namespace SavingsCircle

/-- A circle as it is kept, with a list for each thing that belongs to a seat. -/
structure Sheet where
  id : Nat
  admin : Address
  asset : Asset
  contribution : Amount
  members : List Address
  paidOut : List Bool
  contributed : List Bool
  paidIn : List Amount
  directory : Directory
  isRandomQueue : Bool
  payoutQueue : List Address
  cycle : Nat
  payouts : Nat
  volume : Amount
  isDissolved : Bool
  dissolutionVotes : List Address
  balance : Amount
  cycleDuration : Amount
  deadline : Number
  lateFeeRate : Nat
  reserve : Amount
  insuranceFeeRate : Nat
  insurance : Amount
  isInsuranceUsed : Bool
  proposedLateFeeRate : Option Nat
  proposalVotes : List Address
  createdAt : Number
  deriving DecidableEq

/-- The sheet of a circle. -/
def Circle.sheet (circle : Circle) : Sheet where
  id := circle.id
  admin := circle.admin
  asset := circle.asset
  contribution := circle.contribution
  members := circle.members
  paidOut := circle.seats.map (·.isPaidOut)
  contributed := circle.seats.map (·.hasContributed)
  paidIn := circle.seats.map (·.paidIn)
  directory := circle.directory
  isRandomQueue := circle.isRandomQueue
  payoutQueue := circle.payoutQueue
  cycle := circle.cycle
  payouts := circle.payouts
  volume := circle.volume
  isDissolved := circle.isDissolved
  dissolutionVotes := circle.dissolutionVotes
  balance := circle.balance
  cycleDuration := circle.cycleDuration
  deadline := circle.deadline
  lateFeeRate := circle.lateFeeRate
  reserve := circle.reserve
  insuranceFeeRate := circle.insuranceFeeRate
  insurance := circle.insurance
  isInsuranceUsed := circle.isInsuranceUsed
  proposedLateFeeRate := circle.proposedLateFeeRate
  proposalVotes := circle.proposalVotes
  createdAt := circle.createdAt

namespace Sheet

/-- The seats, read across the four lists. -/
def seats (sheet : Sheet) : List Seat :=
  ((sheet.members.zip sheet.paidOut).zip (sheet.contributed.zip sheet.paidIn)).map
    fun ((holder, isPaidOut), hasContributed, paidIn) =>
      { holder, isPaidOut, hasContributed, paidIn }

/-- The circle that the sheet describes. -/
def circle (sheet : Sheet) : Circle where
  id := sheet.id
  admin := sheet.admin
  asset := sheet.asset
  contribution := sheet.contribution
  seats := sheet.seats
  directory := sheet.directory
  isRandomQueue := sheet.isRandomQueue
  payoutQueue := sheet.payoutQueue
  cycle := sheet.cycle
  payouts := sheet.payouts
  volume := sheet.volume
  isDissolved := sheet.isDissolved
  dissolutionVotes := sheet.dissolutionVotes
  balance := sheet.balance
  cycleDuration := sheet.cycleDuration
  deadline := sheet.deadline
  lateFeeRate := sheet.lateFeeRate
  reserve := sheet.reserve
  insuranceFeeRate := sheet.insuranceFeeRate
  insurance := sheet.insurance
  isInsuranceUsed := sheet.isInsuranceUsed
  proposedLateFeeRate := sheet.proposedLateFeeRate
  proposalVotes := sheet.proposalVotes
  createdAt := sheet.createdAt

/-- The four lists are equally long. -/
structure IsParallel (sheet : Sheet) : Prop where
  paidOut : sheet.paidOut.length = sheet.members.length
  contributed : sheet.contributed.length = sheet.members.length
  paidIn : sheet.paidIn.length = sheet.members.length

/-! ## Reading the lists -/

def seat? (sheet : Sheet) (address : Address) : Option (Nat × Seat) := do
  let position ← sheet.directory.position? address
  let holder ← sheet.members[position]?
  let isPaidOut ← sheet.paidOut[position]?
  let hasContributed ← sheet.contributed[position]?
  let paidIn ← sheet.paidIn[position]?
  return (position, { holder, isPaidOut, hasContributed, paidIn })

def activeSeat? (sheet : Sheet) (records : Records) (address : Address) : Option (Nat × Seat) :=
  if sheet.circle.isEjected records address then none else sheet.seat? address

def voterCount (sheet : Sheet) (records : Records) : Nat :=
  (sheet.members.filter fun address => !sheet.circle.isEjected records address).length

def isCycleComplete (sheet : Sheet) (records : Records) : Bool :=
  !sheet.members.isEmpty && sheet.members.zipIdx.all fun (address, position) =>
    sheet.paidOut.getD position false || sheet.circle.isEjected records address

/-! ## Writing the lists -/

def addSeat (sheet : Sheet) (member : Address) : Sheet :=
  { sheet with
    members := sheet.members ++ [member]
    paidOut := sheet.paidOut ++ [false]
    contributed := sheet.contributed ++ [false]
    paidIn := sheet.paidIn ++ [0] }

def removeSeat (sheet : Sheet) (position : Nat) : Sheet :=
  { sheet with
    members := sheet.members.eraseIdx position
    paidOut := sheet.paidOut.eraseIdx position
    contributed := sheet.contributed.eraseIdx position
    paidIn := sheet.paidIn.eraseIdx position
    payoutQueue := sheet.payoutQueue.filter fun address =>
      some address != sheet.members[position]? }

def renameMember (sheet : Sheet) (former successor : Address) : Sheet :=
  { sheet with
    members := sheet.members.map (Circle.renamed former successor)
    payoutQueue := sheet.payoutQueue.map (Circle.renamed former successor)
    dissolutionVotes := sheet.dissolutionVotes.map (Circle.renamed former successor)
    proposalVotes := sheet.proposalVotes.map (Circle.renamed former successor) }

/-- Gives the seat at a position to a successor who has paid in nothing so far. -/
def vacateSeat (sheet : Sheet) (position : Nat) (exiting successor : Address) : Sheet :=
  { sheet with
    members := sheet.members.set position successor
    payoutQueue := sheet.payoutQueue.map (Circle.renamed exiting successor)
    paidIn := sheet.paidIn.set position 0
    contributed := sheet.contributed.set position false }

def reindexed (sheet : Sheet) : Sheet := { sheet with directory := .ofRoster sheet.members }

/-- Begins the next cycle: what a seat has paid in is netted against the payout it had. -/
def rollOver (sheet : Sheet) : Sheet :=
  { sheet with
    paidIn := sheet.paidIn.mapIdx fun position paid =>
      if sheet.paidOut.getD position false then Amount.sub paid sheet.contribution else paid
    paidOut := sheet.members.map fun _ => false
    contributed := sheet.members.map fun _ => false
    cycle := sheet.cycle + 1
    payouts := 0
    volume := 0
    isInsuranceUsed := false }

end Sheet

/-- All that the service keeps, with sheets for the circles. -/
structure Binder where
  protocol : Option Protocol
  lastActiveAt : Number
  circleCount : Nat
  sheets : List Sheet
  records : Records
  custody : List CustodyEntry
  deriving DecidableEq

def Books.binder (books : Books) : Binder where
  protocol := books.protocol
  lastActiveAt := books.lastActiveAt
  circleCount := books.circleCount
  sheets := books.circles.map Circle.sheet
  records := books.records
  custody := books.custody

namespace Binder

def books (binder : Binder) : Books where
  protocol := binder.protocol
  lastActiveAt := binder.lastActiveAt
  circleCount := binder.circleCount
  circles := binder.sheets.map Sheet.circle
  records := binder.records
  custody := binder.custody

def sheet (binder : Binder) (id : Number) : Except Failure Sheet :=
  demandSome (id.nat?.bind fun id => binder.sheets.find? (·.id == id)) (.ofKind .circleNotFound)

def keep (binder : Binder) (sheet : Sheet) : Binder :=
  { binder with sheets := binder.sheets.map fun s => if s.id = sheet.id then sheet else s }

def withRecords (binder : Binder) (records : Records) : Binder := { binder with records }

end Binder

end SavingsCircle
