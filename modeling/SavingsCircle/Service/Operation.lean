import SavingsCircle.Service.Contribution
import SavingsCircle.Service.Custody
import SavingsCircle.Service.Founding
import SavingsCircle.Service.Governance
import SavingsCircle.Service.Membership
import SavingsCircle.Service.Protocol

/-!
# Operations

All calls that can change the books, each with the proofs of those who make it. Circles are named
by numbers as callers give them, and what a caller leaves out is missing.
-/

namespace SavingsCircle

/-- A call of the service that can change the books. -/
inductive Operation where
  | claimProtocol (proof : Option Proof)
  | adminAction (proof : Option Proof)
  | setProtocolFee (proof : Option Proof) (rate : Number) (treasury : Option Address)
  | createCircle (proof : Option Proof) (terms : CircleTerms)
  | transferAdmin (proof : Option Proof) (circle : Number) (admin : Option Address)
  | join (proof : Option Proof) (circle : Number)
  | kick (proof : Option Proof) (circle : Number) (member : Address) (penalty : Number)
  | swap (formerProof successorProof : Option Proof) (circle : Number)
  | swapByAdmin (proof : Option Proof) (circle : Number) (former successor : Address)
  | eject (proof : Option Proof) (circle : Number) (member : Address)
  | requestExit (proof : Option Proof) (circle : Number)
  | fillVacancy (proof successorProof : Option Proof) (circle : Number) (exiting : Address)
  | finalize (proof : Option Proof) (circle : Number)
  | processPayout (proof : Option Proof) (circle : Number) (recipient : Address)
  | rollover (proof : Option Proof) (circle : Number)
  | contribute (proof : Option Proof) (circle : Number)
  | coverMember (proof : Option Proof) (circle : Number) (member : Address)
  | proposeDissolution (proof : Option Proof) (circle : Number)
  | voteDissolution (proof : Option Proof) (circle : Number)
  | proposeLateFee (proof : Option Proof) (circle rate : Number)
  | voteLateFee (proof : Option Proof) (circle : Number)
  | withdrawProRata (proof : Option Proof) (circle : Number)
  | deposit (proof : Option Proof) (asset : Asset) (amount : Number)
  | emergencyWithdraw (proof : Option Proof) (asset : Asset)

namespace Operation

/-- What an operation does to the books, or why it is refused. -/
def perform (operation : Operation) (host : Host) (moment : Moment) (books : Books) :
    Except Failure Effect :=
  match operation with
  | .claimProtocol proof => books.claimProtocol host moment proof
  | .adminAction proof => books.adminAction host moment proof
  | .setProtocolFee proof rate treasury => books.setProtocolFee host moment proof rate treasury
  | .createCircle proof terms => books.createCircle host moment proof terms
  | .transferAdmin proof circle admin => books.transferAdmin host moment proof circle admin
  | .join proof circle => books.join host moment proof circle
  | .kick proof circle member penalty => books.kick host moment proof circle member penalty
  | .swap formerProof successorProof circle =>
    books.swap host moment formerProof successorProof circle
  | .swapByAdmin proof circle former successor =>
    books.swapByAdmin host moment proof circle former successor
  | .eject proof circle member => books.eject host moment proof circle member
  | .requestExit proof circle => books.requestExit host moment proof circle
  | .fillVacancy proof successorProof circle exiting =>
    books.fillVacancy host moment proof successorProof circle exiting
  | .finalize proof circle => books.finalize host moment proof circle
  | .processPayout proof circle recipient =>
    books.processPayout host moment proof circle recipient
  | .rollover proof circle => books.rollover host moment proof circle
  | .contribute proof circle => books.contribute host moment proof circle
  | .coverMember proof circle member => books.coverMember host moment proof circle member
  | .proposeDissolution proof circle => books.proposeDissolution host moment proof circle
  | .voteDissolution proof circle => books.voteDissolution host moment proof circle
  | .proposeLateFee proof circle rate => books.proposeLateFee host moment proof circle rate
  | .voteLateFee proof circle => books.voteLateFee host moment proof circle
  | .withdrawProRata proof circle => books.withdrawProRata host moment proof circle
  | .deposit proof asset amount => books.deposit host moment proof asset amount
  | .emergencyWithdraw proof asset => books.emergencyWithdraw host moment proof asset

end Operation

end SavingsCircle
