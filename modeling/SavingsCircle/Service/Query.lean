import SavingsCircle.Service.World

/-!
# Queries

What can be asked without changing anything: the books, the balances of the ledger, and the audit
trail.
-/

namespace SavingsCircle

/-- A question about what the service and its collaborators keep. -/
inductive Query where
  | protocol
  | feeRate
  | treasury
  | lastActiveAt
  | circles
  | snapshot
  | circle (circle : Number)
  | members (circle : Number)
  | payoutQueue (circle : Number)
  | cycleInfo (circle : Number)
  | payoutStatus (circle : Number)
  | member (circle : Number) (address : Address)
  | contributions (circle : Number) (address : Address)
  | deposited (user : Address) (asset : Asset)
  | balance (asset : Asset) (holder : Address)
  | isChainValid
  | events (selection : Selection)

namespace Books

def memberOf (books : Books) (id : Number) (member : Address) : Except Failure MemberRecord := do
  let circle ← books.circle id
  books.records.record circle.id member

def membersOf (books : Books) (id : Number) : Except Failure (List MemberRecord) := do
  let circle ← books.circle id
  circle.members.mapM fun member => books.records.record circle.id member

/-- What is paid in for the seat of an address in a circle, and zero for an address without
one. -/
def contributionsOf (books : Books) (id : Number) (member : Address) :
    Except Failure Amount := do
  let circle ← books.circle id
  return ((circle.seat? member).map (·.2.paidIn)).getD 0

end Books

namespace Query

/-- The answer to a query. -/
def answer (query : Query) (world : World) : Except Failure Answer :=
  let books := world.books
  match query with
  | .protocol => return .protocol books.protocol
  | .feeRate => return .amount books.feeRate
  | .treasury => return .address books.treasury
  | .lastActiveAt => return .time books.lastActiveAt
  | .circles => return .circles books.circles
  | .snapshot => return .books books
  | .circle id => return .circle (← books.circle id)
  | .members id => return .members (← books.membersOf id)
  | .payoutQueue id => return .addresses (← books.circle id).payoutQueue
  | .cycleInfo id => return .cycle (← books.circle id).cycleInfo
  | .payoutStatus id => return .flags ((← books.circle id).seats.map (·.isPaidOut))
  | .member id address => return .member (← books.memberOf id address)
  | .contributions id address => return .amount (← books.contributionsOf id address)
  | .deposited user asset => return .amount (books.deposited user asset)
  | .balance asset holder => return .amount (world.ledger.balance asset holder)
  | .isChainValid => return .flag world.trail.verify
  | .events selection => return .entries (world.trail.select selection)

end Query

end SavingsCircle
