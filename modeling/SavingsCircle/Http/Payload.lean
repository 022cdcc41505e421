import SavingsCircle.Audit.Event
import SavingsCircle.Http.Bearer
import SavingsCircle.Http.Route
import SavingsCircle.Service.Operation

/-!
# Calls made by requests

A request that calls the circle service makes one operation: its proof is the one that the request
was authenticated with, and all else comes from the path and from the body, read by a schema. The
body is read first, then the token of a second signer is checked, then the number of the circle.
-/

namespace SavingsCircle.Http

open Schema

def refusing {α : Type} (outcome : Except Failure α) : Except Refusal α :=
  outcome.mapError Refusal.ofFailure

def conforming {α : Type} (read : Checked α) : Except Refusal α :=
  read.mapError Refusal.ofIssues

def readObject {α : Type} (body : Json) (read : Json → Checked α) : Except Refusal α :=
  conforming <| match body with
    | .object members => read (.object members)
    | other => wrongType "object" (some other)

def circleNumber (captured : List String) : Except Refusal Number :=
  conforming (coerced [.whole, .above 0] ((captured.head?).map .text))

/-- The terms of a new circle. -/
def readTerms (body : Json) : Checked CircleTerms :=
  let make (contribution : Number) (isRandomQueue : Bool) (asset : String)
      (cycleDuration lateFeeRate insuranceFeeRate : Option Number) : CircleTerms :=
    { contribution, isRandomQueue, cycleDuration, lateFeeRate, insuranceFeeRate
      asset := some asset }
  Checked.apply make (field body "contribution" amount)
    |>.both (field body "isRandomQueue" (orElse flag false))
    |>.both (field body "asset" address)
    |>.both (field body "cycleDuration" (optional amount))
    |>.both (field body "lateFeeBps" (optional rate))
    |>.both (field body "insuranceFeeBps" (optional rate))

def readToken (body : Json) : Checked String := field body "newMemberToken" (text [.minSize 1])

namespace Command

/-- The operation of a call. -/
def operation (command : Command) (authority : Authority) (caller : Proof)
    (captured : List String) (body : Json) : Except Refusal Operation :=
  let proof := some caller
  let onCircle (make : Number → Operation) : Except Refusal Operation := do
    return make (← circleNumber captured)
  let withAddress (name : String) (make : Number → Address → Operation) := do
    let member ← readObject body (field · name address)
    return make (← circleNumber captured) member
  match command with
  | .claimProtocol => .ok (.claimProtocol proof)
  | .setProtocolFee => do
    let make (rate : Number) (treasury : Address) :=
      Operation.setProtocolFee proof rate (some treasury)
    readObject body fun body =>
      (Checked.apply make (field body "feeBasisPoints" rate)).both (field body "treasury" address)
  | .adminAction => .ok (.adminAction proof)
  | .deposit =>
    readObject body fun body =>
      (Checked.apply (Operation.deposit proof) (field body "asset" address)).both
        (field body "amount" amount)
  | .emergencyWithdraw =>
    readObject body fun body =>
      Checked.apply (Operation.emergencyWithdraw proof) (field body "asset" address)
  | .createCircle =>
    readObject body fun body => Checked.apply (Operation.createCircle proof) (readTerms body)
  | .join => onCircle (.join proof)
  | .finalize => onCircle (.finalize proof)
  | .contribute => onCircle (.contribute proof)
  | .processPayout => withAddress "recipient" (.processPayout proof)
  | .rollover => onCircle (.rollover proof)
  | .transferAdmin => withAddress "newAdmin" fun circle admin =>
    .transferAdmin proof circle (some admin)
  | .kick => do
    let (member, penalty) ← readObject body fun body =>
      (Checked.apply Prod.mk (field body "member" address)).both
        (field body "penalty" (orElse (number [.whole, .atLeast 0]) (.ofNat 0)))
    return .kick proof (← circleNumber captured) member penalty
  | .swap => do
    let token ← readObject body readToken
    let successorProof ← refusing (counterparty authority token)
    return .swap proof (some successorProof) (← circleNumber captured)
  | .swapByAdmin => do
    let (former, successor) ← readObject body fun body =>
      (Checked.apply Prod.mk (field body "oldMember" address)).both
        (field body "newMember" address)
    return .swapByAdmin proof (← circleNumber captured) former successor
  | .eject => withAddress "member" (.eject proof)
  | .requestExit => onCircle (.requestExit proof)
  | .fillVacancy => do
    let (exiting, token) ← readObject body fun body =>
      (Checked.apply Prod.mk (field body "exiting" address)).both (readToken body)
    let successorProof ← refusing (counterparty authority token)
    return .fillVacancy proof (some successorProof) (← circleNumber captured) exiting
  | .coverMember => withAddress "member" (.coverMember proof)
  | .proposeDissolution => onCircle (.proposeDissolution proof)
  | .voteDissolution => onCircle (.voteDissolution proof)
  | .withdrawProRata => onCircle (.withdrawProRata proof)
  | .proposeLateFee => do
    let rate ← readObject body (field · "lateFeeBps" rate)
    return .proposeLateFee proof (← circleNumber captured) rate
  | .voteLateFee => onCircle (.voteLateFee proof)

/-- The status of a call that is carried out: some create something. -/
def status : Command → Nat
  | .claimProtocol | .deposit | .createCircle | .join | .contribute | .proposeLateFee => 201
  | _ => 200

end Command

end SavingsCircle.Http
