import SavingsCircle.Calendar
import SavingsCircle.Digest.Sha256
import SavingsCircle.Json.Plain
import SavingsCircle.Json.Writer

/-!
# The audit trail

A trail is a list of entries, each of which commits to the digest of the entry before it: the
digest of an entry is taken of the previous digest, the time, the topic and the text of what was
recorded. `Trail.verify` computes all digests again and compares.

The trail records anything that is `Recorded`, that is, has a topic, belongs to a circle or to
none, and shows a payload. What `Trail.record` writes into the fields of an entry are texts. But a
trail has to be judged as it is found, and whoever gets at the entries can leave any value in a
field, or none; so the fields are cells, and a digest counts only if its cell holds a text.
-/

namespace SavingsCircle

/-- What stands in a field of an entry: a JSON value, or nothing. -/
abbrev Cell := Option Json

namespace Cell

def ofText (text : String) : Cell := some (.text text)

def text : Cell → String
  | some value => value.plain
  | none => "undefined"

/-- Whether what stands in a cell has a plain text. -/
def hasText : Cell → Bool
  | some value => value.isPlain
  | none => true

/-- Whether a cell holds a text, and not only something that shows it. -/
def holds (cell : Cell) (text : String) : Bool :=
  match cell with
  | some (.text value) => value == text
  | _ => false

/-- Whether a cell holds the very value asked for. -/
def isValue (cell : Cell) (value : Json) : Bool := cell.any (·.identical value)

@[simp] theorem text_ofText (text : String) : Cell.text (ofText text) = text := by
  simp [ofText, Cell.text]

@[simp] theorem holds_ofText (text other : String) :
    holds (ofText text) other = (text == other) := rfl

theorem holds_eq_true_iff {cell : Cell} {text : String} :
    holds cell text = true ↔ cell = ofText text := by
  cases cell with
  | none => simp [holds, ofText]
  | some value => cases value <;> simp [holds, ofText]

end Cell

/-- What can go onto a trail. -/
class Recorded (ε : Type) where
  topic : ε → Cell
  /-- The circle it belongs to, and `null` if it belongs to none. -/
  circle : ε → Cell
  payload : ε → Json

/-- When an entry is made, and its identifier. -/
structure Stamp where
  instant : Calendar.Millis
  id : String

/-- The stamp that a clock gives, with random digits for the identifier. A clock that shows no
instant gives none. -/
def Stamp.read? (clock : Number) (nonce : String) : Option Stamp :=
  (Calendar.instant? clock).map fun instant =>
    { instant, id := Calendar.identifier "evt" nonce clock }

structure Entry (ε : Type) where
  id : Cell
  event : ε
  timestamp : Cell
  previousHash : Cell
  entryHash : Cell

/-- The text that an entry's digest is taken of. -/
def commitment {ε : Type} [Recorded ε] (previousHash : String) (timestamp : Cell) (event : ε) :
    String :=
  previousHash ++ "|" ++ timestamp.text ++ "|" ++ (Recorded.topic event).text ++ "|" ++
    (Recorded.payload event).render

namespace Entry

variable {ε : Type} [Recorded ε]

def digest (entry : Entry ε) (previousHash : String) : String :=
  Sha256.hex (commitment previousHash entry.timestamp entry.event)

/-- The entry that follows what stands in place of a digest. -/
def after (previousHash : Json) (stamp : Stamp) (event : ε) : Entry ε :=
  let timestamp := Cell.ofText (Calendar.timestamp stamp.instant)
  { id := .ofText stamp.id
    event
    timestamp
    previousHash := some previousHash
    entryHash := .ofText (Sha256.hex (commitment previousHash.plain timestamp event)) }

omit [Recorded ε] in
/-- Whether an entry bears the two digests. -/
def bears (entry : Entry ε) (previousHash entryHash : String) : Bool :=
  entry.previousHash.holds previousHash && entry.entryHash.holds entryHash

end Entry

/-- The entries of a trail, the oldest first. -/
structure Trail (ε : Type) where
  entries : List (Entry ε)

/-- Which entries are asked for: those of a circle, those of a topic, and how many of the last
ones. A topic that counts as false and a limit without a value ask for all. -/
structure Selection where
  circle : Option Json
  topic : Option Json
  limit : Option Number

namespace Trail

variable {ε : Type}

def empty : Trail ε := ⟨[]⟩

/-- What stands for the digest before the first entry. -/
def genesis : String := "GENESIS"

/-- What the next entry commits to: what the last entry has in place of its digest. -/
def lastHash (trail : Trail ε) : Json :=
  match trail.entries.getLast?.bind (·.entryHash) with
  | none | some .null => .text genesis
  | some found => found

def events (trail : Trail ε) : List ε := trail.entries.map (·.event)

def truncate (trail : Trail ε) (length : Nat) : Trail ε := ⟨trail.entries.take length⟩

variable [Recorded ε]

def record (trail : Trail ε) (stamp : Stamp) (event : ε) : Trail ε :=
  ⟨trail.entries ++ [Entry.after trail.lastHash stamp event]⟩

def recordAll (trail : Trail ε) (stamp : Stamp) (events : List ε) : Trail ε :=
  events.foldl (fun trail event => trail.record stamp event) trail

/-- Whether entries form a chain from a digest on. -/
def chained : String → List (Entry ε) → Bool
  | _, [] => true
  | previousHash, entry :: entries =>
    let digest := entry.digest previousHash
    entry.bears previousHash digest && chained digest entries

def verify (trail : Trail ε) : Bool := chained genesis trail.entries

/-- The part of a list that a limit asks for: its last items, or, for a limit below zero, what is
left without that many first items. -/
def recent {α : Type} (items : List α) : Number → List α
  | .nan => items
  | .infinity negative => if negative then [] else items
  | .finite value =>
    if value < 0 then items.drop (-value).floor.toNat
    else if value < 1 then items
    else items.drop (items.length - value.floor.toNat)

/-- Whether an entry is of the circle and the topic asked for. -/
def Selection.admits (selection : Selection) (entry : Entry ε) : Bool :=
  (match selection.circle with
    | some circle => (Recorded.circle entry.event).isValue circle
    | none => true) &&
  (match selection.topic with
    | some topic => !topic.isTruthy || (Recorded.topic entry.event).isValue topic
    | none => true)

def select (trail : Trail ε) (selection : Selection) : List (Entry ε) :=
  let admitted := trail.entries.filter (Selection.admits selection)
  match selection.limit with
  | some limit => recent admitted limit
  | none => admitted

@[simp] theorem events_record (trail : Trail ε) (stamp : Stamp) (event : ε) :
    (trail.record stamp event).events = trail.events ++ [event] := by
  simp [events, record, Entry.after]

@[simp] theorem events_recordAll (trail : Trail ε) (stamp : Stamp) (events : List ε) :
    (trail.recordAll stamp events).events = trail.events ++ events := by
  induction events generalizing trail with
  | nil => simp [recordAll]
  | cons event events ih =>
    rw [recordAll, List.foldl_cons, ← recordAll, ih, events_record, List.append_assoc]
    rfl

theorem prefix_recordAll (trail : Trail ε) (stamp : Stamp) (events : List ε) :
    trail.entries <+: (trail.recordAll stamp events).entries := by
  induction events generalizing trail with
  | nil => exact List.prefix_rfl
  | cons event events ih => exact (List.prefix_append _ _).trans (ih (trail.record stamp event))

end Trail

end SavingsCircle
