import SavingsCircle.Audit.Event
import SavingsCircle.Circle.Record

/-!
# Votes and quorums

Members who have a seat and are not put out can vote. A decision falls as soon as more than half
of the voters are for it: the circle is dissolved, or an open proposal becomes its late fee.
`Circle.settle` drops the votes of those who can no longer vote and applies every decision that
has fallen; it follows every vote and every change of the roster.
-/

namespace SavingsCircle.Circle

def isVoter (circle : Circle) (records : Records) (address : Address) : Bool :=
  (circle.position? address).isSome && !circle.isEjected records address

def voterCount (circle : Circle) (records : Records) : Nat :=
  (circle.members.filter fun address => !circle.isEjected records address).length

def dropVotes (circle : Circle) (records : Records) : Circle :=
  { circle with
    dissolutionVotes := circle.dissolutionVotes.filter (circle.isVoter records)
    proposalVotes := circle.proposalVotes.filter (circle.isVoter records) }

/-- Dissolves the circle if more than half of the voters are for it. -/
def settleDissolution (circle : Circle) (voters : Nat) : Circle × List Event :=
  let votes := circle.dissolutionVotes.length
  if !circle.isDissolved && voters < votes * 2 then
    ({ circle with isDissolved := true }, [.circleDissolved circle.id votes])
  else (circle, [])

/-- Makes an open proposal the late fee if more than half of the voters are for it. -/
def settleProposal (circle : Circle) (voters : Nat) : Circle × List Event :=
  match circle.proposedLateFeeRate with
  | some rate =>
    if voters < circle.proposalVotes.length * 2 then
      ({ circle with lateFeeRate := rate, proposedLateFeeRate := none, proposalVotes := [] },
        [.penaltyChanged circle.id rate])
    else (circle, [])
  | none => (circle, [])

/-- Applies every decision that has fallen among those who can vote; without voters none can. -/
def settle (circle : Circle) (records : Records) : Circle × List Event :=
  let circle := circle.dropVotes records
  let voters := circle.voterCount records
  if voters = 0 then (circle, [])
  else
    let (circle, dissolution) := circle.settleDissolution voters
    let (circle, proposal) := circle.settleProposal voters
    (circle, dissolution ++ proposal)

end SavingsCircle.Circle
