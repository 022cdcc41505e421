import SavingsCircle.Service.Answer
import SavingsCircle.Shuffle

/-!
# The effect of a call

A call to the service is decided on the books alone. Either it fails, or it has an effect: new
books, events for the audit trail, and transfers that are still to be carried out. All writing
is done before the first transfer, so whatever a transfer sets off finds the books as the call
leaves them.

A call on a circle comes from a member or from the circle's administrator. `Books.byMember` and
`Books.byAdmin` check the caller, find the circle, and put the changed circle back into the
books; a call by the administrator also restarts the emergency lock.
-/

namespace SavingsCircle

/-- What the service is set up with. -/
structure Host where
  authority : Authority
  /-- The account that holds what circles and users have paid in. -/
  custody : Address
  defaultCycleDuration : Number
  /-- The order that random queues are put in. -/
  shuffle : List Address → Draws → List Address × Draws
  /-- Whether a failed call takes back the transfers made during it. -/
  restoresLedger : Bool

/-- What a call finds besides the books: the time, and the source of random draws. -/
structure Moment where
  now : Number
  draws : Draws

structure Transfer where
  asset : Asset
  source : Address
  target : Address
  amount : Number
  deriving DecidableEq

/-- What a call will return once its transfers are done: an answer that is already settled, or the
state that an entry of the books has by then. -/
inductive Receipt where
  | settled (answer : Answer)
  | deposited (user : Address) (asset : Asset)
  | enrolled (circle : Nat) (address : Address)

namespace Receipt

/-- The answer as it reads from the books, unless its entry is gone. -/
def read? (receipt : Receipt) (books : Books) : Option Answer :=
  match receipt with
  | .settled answer => some answer
  | .deposited user asset =>
    (books.custody.find? (·.isOf user asset)).map fun entry => .amount entry.amount
  | .enrolled circle address => (books.records.record? circle address).map .member

/-- The answer as it reads from a record that was taken out of the books. -/
def readDeparted? (receipt : Receipt) (departed : Records) : Option Answer :=
  match receipt with
  | .enrolled circle address => (departed.record? circle address).map .member
  | _ => none

end Receipt

/-- What a call does. -/
structure Effect where
  books : Books
  draws : Draws
  events : List Event
  transfers : List Transfer
  receipt : Receipt
  /-- The member records that the call takes out of the books, as it leaves them. -/
  departed : Records := []

/-- What a call does to a circle and the member records. -/
structure Change where
  circle : Circle
  records : Records
  draws : Draws
  events : List Event
  transfers : List Transfer
  receipt : Receipt
  departed : Records := []

namespace Host

/-- The principal of a proof, if there is one and it is valid. -/
def authorize (host : Host) (proof : Option Proof) : Except Failure Address := do
  let proof ← demandSome proof .malformed
  demand (host.authority.verify proof)
    (.circle .unauthorized "Authorization proof was rejected.")
  return proof.principal

end Host

namespace Books

def install (books : Books) (change : Change) : Effect where
  books := { books.replaceCircle change.circle with records := change.records }
  draws := change.draws
  events := change.events
  transfers := change.transfers
  receipt := change.receipt
  departed := change.departed

/-- A call on a circle by its administrator, which restarts the emergency lock. -/
def byAdmin (books : Books) (host : Host) (moment : Moment) (proof : Option Proof) (id : Number)
    (body : Circle → Except Failure Change) : Except Failure Effect := do
  let circle ← books.circle id
  let caller ← host.authorize proof
  demand (caller = circle.admin) (.circle .unauthorized "Circle admin required.")
  let change ← body circle
  return { books with lastActiveAt := moment.now }.install change

/-- A call on a circle by one of its members, or by someone who would become one. -/
def byMember (books : Books) (host : Host) (proof : Option Proof) (id : Number)
    (body : Address → Circle → Except Failure Change) : Except Failure Effect := do
  let caller ← host.authorize proof
  let circle ← books.circle id
  let change ← body caller circle
  return books.install change

end Books

namespace Circle

def demandOpen (circle : Circle) : Except Failure Unit :=
  demand (!circle.isDissolved) (.ofKind .alreadyDissolved)

def answering (circle : Circle) (records : Records) (moment : Moment) (answer : Answer) :
    Change where
  circle
  records
  draws := moment.draws
  events := []
  transfers := []
  receipt := .settled answer

/-- The transfer of an amount out of custody, if there is anything to pay. -/
def payOut (circle : Circle) (host : Host) (target : Address) (amount : Amount) :
    List Transfer :=
  if 0 < amount then [⟨circle.asset, host.custody, target, .ofNat amount⟩] else []

end Circle

def demandPositive (value : Number) (message : String) : Except Failure Amount := do
  let amount ← demandSome value.safeNat? (.invalidAmount message)
  demand (0 < amount) (.invalidAmount message)
  return amount

def demandRate (value : Number) (message : String) : Except Failure Nat :=
  demandSome (Fees.rate? value) (.circle .invalidFeeConfig message)

end SavingsCircle
