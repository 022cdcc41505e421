import SavingsCircle.Audit.Trail
import SavingsCircle.Failure

/-!
# Free notes

A note puts any topic and any payload on a trail. It belongs to the circle that its payload names.

A trail of notes can be edited behind its back, one field of one entry at a time, which is what
`Trail.verify` is there to detect. An edit can leave a value without plain text where the trail
needs one: then there is no digest to compare with, and looking through the trail fails, unless a
fault is found in an earlier entry.
-/

namespace SavingsCircle

/-- Anything that can be recorded. -/
structure Note where
  topic : Cell
  circle : Cell
  payload : Json

namespace Note

/-- The note of a payload written member by member under a topic. A member without a value is left
out of the payload. -/
def ofMembers (topic : Cell) (written : List (String × Cell)) : Note :=
  let members := Members.normal written
  { topic
    circle := (members.lookup "circleId").getD (some .null)
    payload := .object (members.filterMap fun (name, cell) => cell.map (name, ·)) }

instance : Recorded Note where
  topic := topic
  circle := circle
  payload := payload

end Note

/-- A change of one field of an entry. -/
inductive Edit where
  | id (cell : Cell)
  | topic (cell : Cell)
  | circle (cell : Cell)
  | payload (value : Json)
  | timestamp (cell : Cell)
  | previousHash (cell : Cell)
  | entryHash (cell : Cell)

namespace Entry

def edited (entry : Entry Note) : Edit → Entry Note
  | .id cell => { entry with id := cell }
  | .topic cell => { entry with event := { entry.event with topic := cell } }
  | .circle cell => { entry with event := { entry.event with circle := cell } }
  | .payload value => { entry with event := { entry.event with payload := value } }
  | .timestamp cell => { entry with timestamp := cell }
  | .previousHash cell => { entry with previousHash := cell }
  | .entryHash cell => { entry with entryHash := cell }

/-- Whether the digest of an entry can be taken. -/
def isLegible (entry : Entry Note) : Bool :=
  entry.timestamp.hasText && entry.event.topic.hasText

end Entry

namespace Trail

/-- Publishes a note at the time that a clock shows. -/
def publish (trail : Trail Note) (clock : Number) (nonce : String) (note : Note) :
    Except Failure (Trail Note) := do
  let stamp ← demandSome (Stamp.read? clock nonce) .undated
  demand (trail.lastHash.isPlain && note.topic.hasText) .malformed
  return trail.record stamp note

def edit? (trail : Trail Note) (position : Nat) (edit : Edit) : Option (Trail Note) :=
  if position < trail.entries.length then
    some ⟨trail.entries.modify position fun entry => entry.edited edit⟩
  else none

/-- Whether the digests of entries can be taken, up to the first that does not follow the one before
it. -/
def legible : String → List (Entry Note) → Bool
  | _, [] => true
  | previousHash, entry :: entries =>
    let digest := entry.digest previousHash
    entry.isLegible && (!entry.bears previousHash digest || legible digest entries)

/-- Looks through a trail: whether every entry follows the one before it. -/
def inspect (trail : Trail Note) : Except Failure Bool := do
  demand (legible genesis trail.entries) .malformed
  return trail.verify

end Trail

end SavingsCircle
