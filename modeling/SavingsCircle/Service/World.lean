import SavingsCircle.Service.Operation

/-!
# The world of the service

The service together with its collaborators: the asset ledger, the audit trail, the clocks and the
source of random draws. A call that is carried out first writes the books and the trail and then
makes its transfers one by one. When it fails, the books, the trail and, where the host says so,
the ledger are taken back to where they stood when it began; clocks and draws are not.

A call that has something to record cannot be carried out while the clock shows no date.

A call in progress keeps a slip, from which its answer is read in the end. The slip follows the
entry of the books that it is about. Once a call made in the meantime has failed, the books are a
restored copy and the slip is cut off from them: it keeps what it showed last.
-/

namespace SavingsCircle

/-- The answer of a call in progress, as last seen. -/
structure Slip where
  receipt : Receipt
  seen : Answer
  /-- Whether the slip still follows its entry in the books. -/
  isLive : Bool

namespace Slip

/-- The slip of a call that has just written the books. -/
def issue (receipt : Receipt) (books : Books) : Slip where
  receipt
  seen := (receipt.read? books).getD .nothing
  isLive := true

/-- Reads the entry again after a call. A slip whose entry the call took out of the books shows it
as it went, and from then on keeps that. -/
def refresh (slip : Slip) (effect : Effect) : Slip :=
  if slip.isLive then
    match slip.receipt.read? effect.books with
    | some answer => { slip with seen := answer }
    | none =>
      { slip with
        seen := (slip.receipt.readDeparted? effect.departed).getD slip.seen
        isLive := false }
  else slip

def detach (slip : Slip) : Slip := { slip with isLive := false }

end Slip

/-- The service and its collaborators between two steps. -/
structure World where
  books : Books
  ledger : Ledger
  trail : Trail Event
  /-- The clock that deadlines and locks go by, in seconds. -/
  now : Number
  /-- The clock that dates audit entries, in milliseconds. -/
  clock : Number
  nonce : String
  draws : Draws
  /-- The slips of the calls in progress, the innermost first. -/
  slips : List Slip

namespace World

/-- A service without any history. -/
def opened (now clock : Number) (nonce : String) (draws : Draws) : World where
  books := .opened now
  ledger := .empty
  trail := .empty
  now
  clock
  nonce
  draws
  slips := []

def moment (world : World) : Moment := ⟨world.now, world.draws⟩

/-- What audit entries are stamped with, if the clock shows a date. -/
def stamp? (world : World) : Option Stamp := Stamp.read? world.clock world.nonce

/-- The trail with events recorded on it. Without a date only nothing can be recorded. -/
def recorded? (world : World) (events : List Event) : Option (Trail Event) :=
  if events.isEmpty then some world.trail
  else world.stamp?.map fun stamp => world.trail.recordAll stamp events

/-- What calls in progress and draws have seen of the effect of a call. -/
def witnessing (world : World) (effect : Effect) : World :=
  { world with draws := effect.draws, slips := world.slips.map (·.refresh effect) }

/-- Writes the effect of a call, up to its transfers. -/
def commit (world : World) (effect : Effect) : Except Failure World := do
  let trail ← demandSome (world.recorded? effect.events) .undated
  let world := world.witnessing effect
  return { world with
    books := effect.books
    trail
    slips := Slip.issue effect.receipt effect.books :: world.slips }

def carry (world : World) (transfer : Transfer) : Except Failure World := do
  let ledger ← world.ledger.transfer transfer.asset transfer.source transfer.target
    transfer.amount
  return { world with ledger }

def detached (world : World) : World := { world with slips := world.slips.map Slip.detach }

def taken (world : World) : World := { world with slips := world.slips.drop 1 }

def answer (world : World) : Answer := (world.slips.head?.map (·.seen)).getD .nothing

/-- Takes a world in which a call has failed back to where the call began. -/
def undone (world : World) (host : Host) (start : World) : World :=
  { world.taken.detached with
    books := start.books
    ledger := if host.restoresLedger then start.ledger else world.ledger
    trail := world.trail.truncate start.trail.entries.length }

/-- The world after a call whose effect could not be recorded: its writing was seen and is taken
back. -/
def unrecorded (world : World) (effect : Effect) : World := (world.witnessing effect).detached

def withFreshBooks (world : World) : World :=
  { world.detached with books := .opened world.now }

end World

end SavingsCircle
