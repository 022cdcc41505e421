import SavingsCircle.Token

/-!
# Directories

A directory says at which position of a roster each address sits. It is either entered address by
address or drawn up afresh from a roster. One address is reserved: entering it leaves no trace,
so it is found only once the directory has been drawn up afresh.
-/

namespace SavingsCircle

/-- The positions of addresses, at most one for each. -/
structure Directory where
  entries : List (Address × Nat)
  deriving DecidableEq

namespace Directory

def empty : Directory := ⟨[]⟩

/-- The address that cannot be entered. -/
def reserved : Address := "__proto__"

def position? (directory : Directory) (address : Address) : Option Nat :=
  (directory.entries.find? fun entry => entry.1 == address).map (·.2)

/-- Sets the position of an address, unless it is the reserved one. -/
def enter (directory : Directory) (address : Address) (position : Nat) : Directory :=
  if address = reserved then directory
  else ⟨(directory.entries.filter fun entry => entry.1 != address) ++ [(address, position)]⟩

/-- The positions of the addresses of a roster, counted from the given one; of an address that
occurs more than once the last position counts. -/
def entriesFrom (position : Nat) : List Address → List (Address × Nat)
  | [] => []
  | address :: rest =>
    if address ∈ rest then entriesFrom (position + 1) rest
    else (address, position) :: entriesFrom (position + 1) rest

def ofRoster (roster : List Address) : Directory := ⟨entriesFrom 0 roster⟩

@[simp] theorem position?_empty (address : Address) : empty.position? address = none := rfl

/-- Entering an address moves it, unless it is reserved, and no other address. -/
theorem position?_enter (directory : Directory) (address other : Address) (position : Nat) :
    (directory.enter address position).position? other =
      if other = address ∧ address ≠ reserved then some position
      else directory.position? other := by
  by_cases isReserved : address = reserved
  · simp [enter, isReserved]
  · by_cases same : other = address
    · subst same
      have gone : (directory.entries.filter fun entry => entry.1 != other).find?
          (fun entry => entry.1 == other) = none := by
        simp
      simp [enter, isReserved, position?, List.find?_append, gone]
    · have apart : (address == other) = false := by
        simpa using fun h => same h.symm
      have kept : (directory.entries.filter fun entry => entry.1 != address).find?
          (fun entry => entry.1 == other) =
            directory.entries.find? (fun entry => entry.1 == other) := by
        induction directory.entries with
        | nil => rfl
        | cons entry entries ih =>
          by_cases h : entry.1 = other
          · simp [h, same]
          · by_cases h' : entry.1 = address <;> simp_all
      simp [enter, isReserved, position?, List.find?_append, kept, apart, same]

end Directory

end SavingsCircle
