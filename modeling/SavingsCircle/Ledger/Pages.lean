import SavingsCircle.Ledger.Basic

/-!
# Checkpoints of the ledger

A checkpoint lays a copy of the ledger aside as a page of its own. Restoring it turns to that very
page, and what is written afterwards goes onto it: restored a second time, the same checkpoint
shows the later writes as well. Checkpoints that are each restored at most once, the inner ones
before the outer ones, bring back exactly what they copied.
-/

namespace SavingsCircle

/-- Pages of a ledger, one of which is in use. -/
structure Pages where
  pages : List Ledger
  current : Nat

namespace Pages

def empty : Pages := ⟨[.empty], 0⟩

def ledger (book : Pages) : Ledger := book.pages.getD book.current .empty

def write (book : Pages) (ledger : Ledger) : Pages :=
  { book with pages := book.pages.set book.current ledger }

def mint (book : Pages) (asset : Asset) (target : Address) (amount : Number) :
    Except Failure Pages := do
  let ledger ← book.ledger.mint asset target amount
  return book.write ledger

def transfer (book : Pages) (asset : Asset) (source target : Address) (amount : Number) :
    Except Failure Pages := do
  let ledger ← book.ledger.transfer asset source target amount
  return book.write ledger

/-- Lays a copy of the page in use aside; the number of the copy names the checkpoint. -/
def checkpoint (book : Pages) : Pages × Nat :=
  ({ book with pages := book.pages ++ [book.ledger] }, book.pages.length)

/-- Turns to the page of a checkpoint. -/
def restore (book : Pages) (page : Nat) : Pages := { book with current := page }

/-- Turns to an empty page of its own. -/
def reset (book : Pages) : Pages :=
  { pages := book.pages ++ [.empty], current := book.pages.length }

end Pages

end SavingsCircle
