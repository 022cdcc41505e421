import SavingsCircle.Circle.Record

/-!
# The roster of a circle

Adding, removing and renaming seats. Each change that can move or rename a seat draws up the
directory afresh and brings the records of the circle in line with it.
-/

namespace SavingsCircle.Circle

def reindexed (circle : Circle) : Circle :=
  { circle with directory := .ofRoster circle.members }

@[simp] theorem members_reindexed (circle : Circle) :
    circle.reindexed.members = circle.members := rfl

def addSeat (circle : Circle) (member : Address) : Circle :=
  { circle with
    seats := circle.seats ++ [Seat.fresh member]
    directory := circle.directory.enter member circle.seats.length }

@[simp] theorem members_addSeat (circle : Circle) (member : Address) :
    (circle.addSeat member).members = circle.members ++ [member] := by
  simp [members, addSeat, Seat.fresh]

/-- Removes the seat at a position, and its holder from the payout queue. -/
def removeSeat (circle : Circle) (position : Nat) : Circle :=
  let holder? := (circle.seats[position]?).map (·.holder)
  reindexed
    { circle with
      seats := circle.seats.eraseIdx position
      payoutQueue := circle.payoutQueue.filter fun address => some address != holder? }

@[simp] theorem members_removeSeat (circle : Circle) (position : Nat) :
    (circle.removeSeat position).members = circle.members.eraseIdx position := by
  simp [members, removeSeat, reindexed, List.eraseIdx_eq_take_drop_succ]

def renamed (former successor address : Address) : Address :=
  if address = former then successor else address

/-- Puts a member in the place of another everywhere: in the seats, the queue and the votes. -/
def renameMember (circle : Circle) (former successor : Address) : Circle :=
  let rename := renamed former successor
  reindexed
    { circle with
      seats := circle.seats.map fun seat => { seat with holder := rename seat.holder }
      payoutQueue := circle.payoutQueue.map rename
      dissolutionVotes := circle.dissolutionVotes.map rename
      proposalVotes := circle.proposalVotes.map rename }

@[simp] theorem members_renameMember (circle : Circle) (former successor : Address) :
    (circle.renameMember former successor).members =
      circle.members.map (renamed former successor) := by
  simp [members, renameMember, reindexed]

/-- Gives the seat at a position to a successor who has paid in nothing so far. A payout that the
seat had in this cycle stays with it. -/
def vacateSeat (circle : Circle) (position : Nat) (exiting successor : Address) : Circle :=
  reindexed
    { circle with
      seats := circle.seats.modify position fun seat =>
        { seat with holder := successor, hasContributed := false, paidIn := 0 }
      payoutQueue := circle.payoutQueue.map (renamed exiting successor) }

@[simp] theorem members_vacateSeat (circle : Circle) (position : Nat)
    (exiting successor : Address) :
    (circle.vacateSeat position exiting successor).members =
      circle.members.set position successor := by
  apply List.ext_getElem?
  intro i
  simp only [members, vacateSeat, reindexed, List.getElem?_map, List.getElem?_modify,
    List.getElem?_set, List.length_map]
  by_cases here : position = i
  · subst here
    by_cases inside : position < circle.seats.length <;> simp [inside]
  · simp [here]

end SavingsCircle.Circle
