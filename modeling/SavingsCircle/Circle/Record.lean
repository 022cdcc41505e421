import SavingsCircle.Circle.Basic

/-!
# Member records

The records of all circles stand in one list, at most one for an address in a circle. An address
that takes a seat again takes over its old record, wiped clean.
-/

namespace SavingsCircle

namespace MemberRecord

def isOf (record : MemberRecord) (circle : Nat) (address : Address) : Bool :=
  record.circle == circle && record.address == address

@[simp] theorem isOf_eq_true_iff {record : MemberRecord} {circle : Nat} {address : Address} :
    record.isOf circle address = true ↔ record.circle = circle ∧ record.address = address := by
  simp [isOf]

def fresh (circle : Nat) (address : Address) (index : Nat) (now : Number) : MemberRecord where
  circle
  address
  index
  contributionCount := 0
  lastContributionAt := .ofNat 0
  status := .active
  joinedAt := now

end MemberRecord

namespace Records

def record? (records : Records) (circle : Nat) (address : Address) : Option MemberRecord :=
  records.find? (·.isOf circle address)

/-- The record of an address in a circle, which has to be there. -/
def record (records : Records) (circle : Nat) (address : Address) :
    Except Failure MemberRecord :=
  demandSome (records.record? circle address) (.ofKind .memberNotFound)

def update (records : Records) (circle : Nat) (address : Address)
    (change : MemberRecord → MemberRecord) : Records :=
  records.map fun record => if record.isOf circle address then change record else record

def remove (records : Records) (circle : Nat) (address : Address) : Records :=
  records.filter fun record => !record.isOf circle address

def enroll (records : Records) (circle : Nat) (address : Address) (index : Nat) (now : Number) :
    Records :=
  let record := MemberRecord.fresh circle address index now
  if (records.record? circle address).isSome then
    records.update circle address fun _ => record
  else records ++ [record]

/-- Brings the positions in the records of a circle in line with a directory. -/
def reindex (records : Records) (circle : Nat) (directory : Directory) : Records :=
  records.map fun record =>
    if record.circle = circle then
      match directory.position? record.address with
      | some index => { record with index }
      | none => record
    else record

end Records

namespace Circle

/-- The status of an address in the circle; an address without a record takes part. -/
def statusOf (circle : Circle) (records : Records) (address : Address) : Status :=
  ((records.record? circle.id address).map (·.status)).getD .active

def isEjected (circle : Circle) (records : Records) (address : Address) : Bool :=
  circle.statusOf records address == .ejected

/-- The position and the seat of a member who takes part. -/
def activeSeat? (circle : Circle) (records : Records) (address : Address) :
    Option (Nat × Seat) :=
  if circle.isEjected records address then none else circle.seat? address

/-- Whether the cycle is complete: every seat is paid out or its holder put out. -/
def isCycleComplete (circle : Circle) (records : Records) : Bool :=
  !circle.seats.isEmpty &&
    circle.seats.all fun seat => seat.isPaidOut || circle.isEjected records seat.holder

end Circle

end SavingsCircle
