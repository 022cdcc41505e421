import SavingsCircle.Audit.Event

/-!
# The history of a circle

The trail holds the events of all circles. The history of a circle are those of its own events that
were recorded since it was founded. It grows with the events of calls on the circle and with no
others, so what is counted along it is never mixed up with an earlier circle of the same number.
-/

namespace SavingsCircle

def Event.isFounding : Event → Bool
  | .circleCreated .. => true
  | _ => false

/-- Whether an event belongs to a circle that is there already. -/
structure Event.Continues (event : Event) (id : Nat) : Prop where
  circle : event.circle? = some id
  founded : event.isFounding = false

def continueHistory (id : Nat) (past : List Event) (event : Event) : List Event :=
  if event.circle? = some id then if event.isFounding then [] else past ++ [event] else past

/-- The events of a circle since its founding, the oldest first. -/
def history (id : Nat) (events : List Event) : List Event :=
  events.foldl (continueHistory id) []

variable {id : Nat} {events recent : List Event}

theorem history_append (id : Nat) (events recent : List Event) :
    history id (events ++ recent) = recent.foldl (continueHistory id) (history id events) :=
  List.foldl_append ..

@[simp] theorem history_founded (id : Nat) (events : List Event) (admin : Address)
    (contribution : Amount) :
    history id (events ++ [.circleCreated id admin contribution]) = [] := by
  simp [history_append, continueHistory, Event.circle?, Event.isFounding]

theorem history_append_own (own : ∀ event ∈ recent, event.Continues id) :
    history id (events ++ recent) = history id events ++ recent := by
  rw [history_append]
  generalize history id events = past
  induction recent generalizing past with
  | nil => simp
  | cons event recent ih =>
      rw [List.forall_mem_cons] at own
      rw [List.foldl_cons, ih own.2]
      simp [continueHistory, own.1.circle, own.1.founded]

theorem history_append_other (others : ∀ event ∈ recent, event.circle? ≠ some id) :
    history id (events ++ recent) = history id events := by
  rw [history_append]
  generalize history id events = past
  induction recent with
  | nil => rfl
  | cons event recent ih =>
      rw [List.forall_mem_cons] at others
      rw [List.foldl_cons, continueHistory, if_neg others.1]
      exact ih others.2

end SavingsCircle
