import SavingsCircle.Service.Effect
import SavingsCircle.Text.Blank

/-!
# The protocol and its administrator

The first caller to claim the protocol administers it from then on. The administrator sets
the fee on payouts and the treasury it goes to. Every call of the administrator restarts the
emergency lock.
-/

namespace SavingsCircle.Books

def answering (books : Books) (moment : Moment) (answer : Answer) : Effect where
  books
  draws := moment.draws
  events := []
  transfers := []
  receipt := .settled answer

def claimProtocol (books : Books) (host : Host) (moment : Moment) (proof : Option Proof) :
    Except Failure Effect := do
  let admin ← host.authorize proof
  demand (books.protocol = none) (.circle .unauthorized "Protocol is already initialized.")
  let protocol : Protocol := { admin, feeRate := 0, treasury := none }
  return { books with protocol := some protocol, lastActiveAt := moment.now }.answering moment
    (.protocol (some protocol))

/-- The protocol's configuration, for its administrator. -/
def administered (books : Books) (host : Host) (proof : Option Proof) :
    Except Failure Protocol := do
  let protocol ← demandSome books.protocol
    (.circle .unauthorized "Protocol is not initialized.")
  let caller ← host.authorize proof
  demand (caller = protocol.admin) (.circle .unauthorized "Protocol admin required.")
  return protocol

/-- Sets the fee on payouts and the treasury. -/
def setProtocolFee (books : Books) (host : Host) (moment : Moment) (proof : Option Proof)
    (rate : Number) (treasury : Option Address) : Except Failure Effect := do
  let protocol ← books.administered host proof
  let feeRate ← demandRate rate "Fee must be between 0 and 10000 basis points."
  let treasury ← demandSome treasury .malformed
  demand (Text.hasInk treasury) (.circle .invalidFeeConfig "Treasury address is required.")
  let protocol := { protocol with feeRate, treasury := some treasury }
  let effect := { books with protocol := some protocol, lastActiveAt := moment.now }.answering
    moment (.protocol (some protocol))
  return { effect with events := [.protocolFeeUpdated feeRate treasury] }

/-- Does nothing but restart the emergency lock. -/
def adminAction (books : Books) (host : Host) (moment : Moment) (proof : Option Proof) :
    Except Failure Effect := do
  let _ ← books.administered host proof
  return { books with lastActiveAt := moment.now }.answering moment (.time moment.now)

end SavingsCircle.Books
