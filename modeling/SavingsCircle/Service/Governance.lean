import SavingsCircle.Circle.Votes
import SavingsCircle.Service.Effect

/-!
# Governance

The voters of a circle can dissolve it and can change its late fee. Proposing is voting too. A new
proposal for the late fee replaces an open one, and with it the votes for it.
-/

namespace SavingsCircle

namespace Circle

/-- Settles the votes after one was cast, and answers with what the circle is then. -/
def afterVote (circle : Circle) (records : Records) (moment : Moment)
    (answer : Circle → Answer) : Change :=
  let (settled, decisions) := circle.settle records
  { settled.answering records moment (answer settled) with events := decisions }

def demandVoter (circle : Circle) (records : Records) (address : Address) :
    Except Failure Unit :=
  demand (circle.isVoter records address) (.ofKind .notMember)

end Circle

namespace Books

/-- Votes for dissolving the circle; a second vote counts no more than the first. -/
def proposeDissolution (books : Books) (host : Host) (moment : Moment) (proof : Option Proof)
    (id : Number) : Except Failure Effect :=
  books.byMember host proof id fun member circle => do
    circle.demandOpen
    circle.demandVoter books.records member
    let votes := if member ∈ circle.dissolutionVotes then circle.dissolutionVotes
      else circle.dissolutionVotes ++ [member]
    return Circle.afterVote { circle with dissolutionVotes := votes } books.records moment
      fun settled => .flag settled.isDissolved

/-- Votes for dissolving the circle, at most once. -/
def voteDissolution (books : Books) (host : Host) (moment : Moment) (proof : Option Proof)
    (id : Number) : Except Failure Effect :=
  books.byMember host proof id fun member circle => do
    circle.demandOpen
    circle.demandVoter books.records member
    demand (member ∉ circle.dissolutionVotes) (.ofKind .alreadyVoted)
    let votes := circle.dissolutionVotes ++ [member]
    return Circle.afterVote { circle with dissolutionVotes := votes } books.records moment
      fun settled => .flag settled.isDissolved

/-- Proposes a late fee, for which the caller votes at once. -/
def proposeLateFee (books : Books) (host : Host) (moment : Moment) (proof : Option Proof)
    (id rate : Number) : Except Failure Effect :=
  books.byMember host proof id fun member circle => do
    circle.demandOpen
    circle.demandVoter books.records member
    let rate ← demandRate rate "Late fee must be between 0 and 10000 basis points."
    return Circle.afterVote
      { circle with proposedLateFeeRate := some rate, proposalVotes := [member] }
      books.records moment .circle

/-- Votes for the open proposal, at most once. -/
def voteLateFee (books : Books) (host : Host) (moment : Moment) (proof : Option Proof)
    (id : Number) : Except Failure Effect :=
  books.byMember host proof id fun member circle => do
    circle.demandOpen
    circle.demandVoter books.records member
    demand (circle.proposedLateFeeRate.isSome)
      (.circle .invalidCircleState "No late fee proposal is open.")
    demand (member ∉ circle.proposalVotes) (.ofKind .alreadyVoted)
    let votes := circle.proposalVotes ++ [member]
    return Circle.afterVote { circle with proposalVotes := votes } books.records moment .circle

end Books

end SavingsCircle
