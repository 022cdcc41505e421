import SavingsCircle.Failure
import SavingsCircle.Schema

/-!
# Replies

A reply has a status and, unless it is empty, a body. What was asked for stands in the body under
`data`, and why it was refused under `error`: a code, the wording, for refusals of the circle
service their number, and details where there are any.
-/

namespace SavingsCircle.Http

structure Reply where
  status : Nat
  body : Option Json

structure Refusal where
  status : Nat
  code : String
  numericCode : Option Nat
  message : String
  details : Option Json

namespace Refusal

def plain (status : Nat) (code message : String) : Refusal where
  status
  code
  numericCode := none
  message
  details := none

/-- A failure that callers are told nothing more about. -/
def internal (message : String) : Refusal := plain 500 "INTERNAL_SERVER_ERROR" message

def ofFailure : Failure → Refusal
  | .circle kind message =>
    { plain kind.status kind.name message with numericCode := some kind.code }
  | .request status code message => plain status code message
  | failure => internal failure.message

/-- The messages of issues with the whole value, and those of issues with each of its parts. -/
def flattened (issues : List Issue) : Json :=
  let whole := issues.filter fun issue => issue.path.isEmpty
  let parts := (issues.filterMap fun issue => issue.path.head?).eraseDups
  let messages (chosen : List Issue) : Json := .texts (chosen.map (·.message))
  .object [
    ("formErrors", messages whole),
    ("fieldErrors", .object (parts.map fun part =>
      (part, messages (issues.filter fun issue => issue.path.head? == some part))))]

def ofIssues (issues : List Issue) : Refusal :=
  { plain 400 "VALIDATION_ERROR" "Request payload is invalid." with
    details := some (flattened issues) }

def body (refusal : Refusal) : Json :=
  let member (name : String) (value : Option Json) := value.toList.map fun value => (name, value)
  .object [("error", .object (
    [("code", Json.text refusal.code)] ++
    member "numericCode" (refusal.numericCode.map .ofNat) ++
    [("message", Json.text refusal.message)] ++
    member "details" refusal.details))]

def reply (refusal : Refusal) : Reply := ⟨refusal.status, some refusal.body⟩

end Refusal

namespace Reply

def data (status : Nat) (value : Json) : Reply := ⟨status, some (.object [("data", value)])⟩

end Reply

end SavingsCircle.Http
