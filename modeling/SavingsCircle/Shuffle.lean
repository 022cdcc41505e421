/-!
# Random order

A list is shuffled by exchanges: from the last position down to the second, the item there is
exchanged with the one at a drawn position not behind it. The drawn positions come from a source
of random draws that remembers how many it has given.
-/

namespace SavingsCircle

/-- A source of random draws: it gives the values in turn, over and over, each cut to the asked
range; without values it gives zeros. -/
structure Draws where
  values : List Nat
  used : Nat
  deriving DecidableEq

namespace Draws

def ofValues (values : List Nat) : Draws := ⟨values, 0⟩

def next (draws : Draws) (bound : Nat) : Nat × Draws :=
  (draws.values.getD (draws.used % draws.values.length) 0 % bound,
    { draws with used := draws.used + 1 })

def take (draws : Draws) : List Nat → List Nat × Draws
  | [] => ([], draws)
  | bound :: bounds =>
    let (pick, draws) := draws.next bound
    let (picks, draws) := draws.take bounds
    (pick :: picks, draws)

@[simp] theorem length_take (draws : Draws) (bounds : List Nat) :
    (draws.take bounds).1.length = bounds.length := by
  induction bounds generalizing draws with
  | nil => rfl
  | cons bound bounds ih => simp [take, ih]

@[simp] theorem used_take (draws : Draws) (bounds : List Nat) :
    (draws.take bounds).2.used = draws.used + bounds.length := by
  induction bounds generalizing draws with
  | nil => rfl
  | cons bound bounds ih => simp [take, ih, next]; omega

end Draws

namespace Shuffle

variable {α : Type}

def exchange (items : List α) (i j : Nat) : List α :=
  match items[i]?, items[j]? with
  | some a, some b => (items.set i b).set j a
  | _, _ => items

/-- Exchanges the item at each position from the given one down to the second with the item at
the picked position. -/
def arrange : Nat → List Nat → List α → List α
  | last + 1, pick :: picks, items => arrange last picks (exchange items (last + 1) pick)
  | _, _, items => items

/-- The bounds of the draws for a list of the given length: the length, and so on down to two. -/
def bounds (length : Nat) : List Nat := (List.range' 2 (length - 1)).reverse

/-- A list in random order, and the source after the draws for it. -/
def run (items : List α) (draws : Draws) : List α × Draws :=
  let (picks, draws) := draws.take (bounds items.length)
  (arrange (items.length - 1) picks items, draws)

@[simp] theorem length_bounds (length : Nat) : (bounds length).length = length - 1 := by
  simp [bounds]

end Shuffle

end SavingsCircle
