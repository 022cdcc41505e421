import SavingsCircle.Audit.Event
import SavingsCircle.Circle.Record

/-!
# Answers

What calls and queries return.
-/

namespace SavingsCircle

structure CycleInfo where
  cycle : Nat
  payouts : Nat
  volume : Amount
  deriving DecidableEq

def Circle.cycleInfo (circle : Circle) : CycleInfo where
  cycle := circle.cycle
  payouts := circle.payouts
  volume := circle.volume

/-- What a call or a query returns. -/
inductive Answer where
  | nothing
  | flag (value : Bool)
  | amount (value : Nat)
  | time (value : Number)
  | address (value : Option Address)
  | addresses (value : List Address)
  | flags (value : List Bool)
  | protocol (value : Option Protocol)
  | circle (value : Circle)
  | circles (value : List Circle)
  | member (value : MemberRecord)
  | members (value : List MemberRecord)
  | cycle (value : CycleInfo)
  | removal (member : Address) (refund penalty : Amount)
  | payout (recipient : Address) (gross : Amount) (net : Int) (fee : Amount)
      (cycleCompleted : Bool)
  | contribution (member : Address) (amount lateFee insuranceFee : Amount)
  | books (value : Books)
  | entries (value : List (Entry Event))

end SavingsCircle
