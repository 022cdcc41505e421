import SavingsCircle.Service.Effect
import SavingsCircle.Service.Sheet

/-!
# Procedures

What a call does, one thing after the other. It looks at what the service keeps, writes, takes
draws, publishes events and makes transfers, in whatever order it says, and it can refuse to go on
at any point. What is to be undone then, and what a transfer sets off, is for whoever carries it
out.
-/

namespace SavingsCircle

/-- What a call does, and what comes of it. -/
inductive Procedure (α : Type) where
  | done (value : α)
  | refuse (failure : Failure)
  | look (next : Binder → Moment → Procedure α)
  | write (change : Binder → Binder) (rest : Procedure α)
  /-- Takes draws, of which those given are left. -/
  | draw (draws : Draws) (rest : Procedure α)
  | publish (event : Event) (rest : Procedure α)
  | pay (transfer : Transfer) (rest : Procedure α)

namespace Procedure

variable {α β : Type}

def bind : Procedure α → (α → Procedure β) → Procedure β
  | .done value, next => next value
  | .refuse failure, _ => .refuse failure
  | .look seen, next => .look fun binder moment => (seen binder moment).bind next
  | .write change rest, next => .write change (rest.bind next)
  | .draw draws rest, next => .draw draws (rest.bind next)
  | .publish event rest, next => .publish event (rest.bind next)
  | .pay transfer rest, next => .pay transfer (rest.bind next)

instance : Monad Procedure where
  pure := .done
  bind := bind

/-- Goes on with the value of something that can fail, if it does not. -/
def ofExcept : Except Failure α → Procedure α
  | .ok value => .done value
  | .error failure => .refuse failure

instance : MonadLift (Except Failure) Procedure := ⟨ofExcept⟩

/-- What the service keeps at this point. -/
def binder : Procedure Binder := .look fun binder _ => .done binder

/-- The time and the draws at this point. -/
def moment : Procedure Moment := .look fun _ moment => .done moment

def alter (change : Binder → Binder) : Procedure Unit := .write change (.done ())

def keep (sheet : Sheet) : Procedure Unit := alter (·.keep sheet)

def revise (change : Records → Records) : Procedure Unit :=
  alter fun binder => binder.withRecords (change binder.records)

def leave (draws : Draws) : Procedure Unit := .draw draws (.done ())

def announce (event : Event) : Procedure Unit := .publish event (.done ())

def payAll : List Transfer → Procedure Unit
  | [] => .done ()
  | transfer :: transfers => .pay transfer (payAll transfers)

end Procedure

end SavingsCircle
