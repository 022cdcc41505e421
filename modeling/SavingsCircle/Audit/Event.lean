import SavingsCircle.Audit.Trail
import SavingsCircle.Ledger.Basic

/-!
# Events of the service

What the circle service records. Each event has a topic and a payload whose members stand in a
fixed order; all but the change of the protocol fee belong to a circle.
-/

namespace SavingsCircle

/-- The topics of events. -/
inductive Topic where
  | circleCreated
  | memberJoined
  | queueFinalized
  | contributionReceived
  | payoutProcessed
  | cycleCompleted
  | groupRollover
  | kicked
  | memberSwapped
  | memberEjected
  | exitRequested
  | vacancyFilled
  | insuranceCoverage
  | circleDissolved
  | penaltyChanged
  | proRataWithdrawn
  | protocolFeeUpdated
  deriving DecidableEq

namespace Topic

/-- All topics, in the order in which they are listed to callers. -/
def all : List Topic :=
  [.circleCreated, .memberJoined, .queueFinalized, .contributionReceived, .payoutProcessed,
    .cycleCompleted, .groupRollover, .kicked, .memberSwapped, .memberEjected, .exitRequested,
    .vacancyFilled, .insuranceCoverage, .circleDissolved, .penaltyChanged, .proRataWithdrawn,
    .protocolFeeUpdated]

/-- The name of a topic as it is recorded. -/
def name : Topic → String
  | .circleCreated => "CircleCreated"
  | .memberJoined => "MemberJoined"
  | .queueFinalized => "QueueFinalized"
  | .contributionReceived => "ContributionReceived"
  | .payoutProcessed => "PayoutProcessed"
  | .cycleCompleted => "CycleCompleted"
  | .groupRollover => "GroupRollover"
  | .kicked => "Kicked"
  | .memberSwapped => "MemberSwapped"
  | .memberEjected => "MemberEjected"
  | .exitRequested => "ExitRequested"
  | .vacancyFilled => "VacancyFilled"
  | .insuranceCoverage => "InsuranceCoverage"
  | .circleDissolved => "CircleDissolved"
  | .penaltyChanged => "PenaltyChanged"
  | .proRataWithdrawn => "ProRataWithdrawn"
  | .protocolFeeUpdated => "ProtocolFeeUpdated"

theorem mem_all (topic : Topic) : topic ∈ all := by cases topic <;> decide

end Topic

/-- What the service records. -/
inductive Event where
  | circleCreated (circle : Nat) (admin : Address) (contribution : Amount)
  | memberJoined (circle : Nat) (member : Address)
  | queueFinalized (circle : Nat) (queue : List Address)
  | contributionReceived (circle : Nat) (member : Address) (amount lateFee insuranceFee : Amount)
  | payoutProcessed (circle : Nat) (recipient : Address) (gross : Amount) (net : Int)
      (fee : Amount)
  | cycleCompleted (circle : Nat) (volume : Amount)
  | groupRollover (circle : Nat) (cycle : Nat)
  | kicked (circle : Nat) (member : Address) (refund penalty : Amount)
  | memberSwapped (circle : Nat) (former successor : Address)
  | memberEjected (circle : Nat) (member : Address)
  | exitRequested (circle : Nat) (member : Address)
  | vacancyFilled (circle : Nat) (exiting successor : Address) (refund : Amount)
  | insuranceCoverage (circle : Nat) (member : Address) (amount : Amount)
  | circleDissolved (circle : Nat) (votes : Nat)
  | penaltyChanged (circle : Nat) (lateFeeRate : Nat)
  | proRataWithdrawn (circle : Nat) (member : Address) (amount : Amount)
  | protocolFeeUpdated (rate : Nat) (treasury : Address)
  deriving DecidableEq

namespace Event

/-- The topic of an event. -/
def topic : Event → Topic
  | .circleCreated .. => .circleCreated
  | .memberJoined .. => .memberJoined
  | .queueFinalized .. => .queueFinalized
  | .contributionReceived .. => .contributionReceived
  | .payoutProcessed .. => .payoutProcessed
  | .cycleCompleted .. => .cycleCompleted
  | .groupRollover .. => .groupRollover
  | .kicked .. => .kicked
  | .memberSwapped .. => .memberSwapped
  | .memberEjected .. => .memberEjected
  | .exitRequested .. => .exitRequested
  | .vacancyFilled .. => .vacancyFilled
  | .insuranceCoverage .. => .insuranceCoverage
  | .circleDissolved .. => .circleDissolved
  | .penaltyChanged .. => .penaltyChanged
  | .proRataWithdrawn .. => .proRataWithdrawn
  | .protocolFeeUpdated .. => .protocolFeeUpdated

/-- The circle that an event belongs to, if any. -/
def circle? : Event → Option Nat
  | .circleCreated circle _ _ => some circle
  | .memberJoined circle _ => some circle
  | .queueFinalized circle _ => some circle
  | .contributionReceived circle _ _ _ _ => some circle
  | .payoutProcessed circle _ _ _ _ => some circle
  | .cycleCompleted circle _ => some circle
  | .groupRollover circle _ => some circle
  | .kicked circle _ _ _ => some circle
  | .memberSwapped circle _ _ => some circle
  | .memberEjected circle _ => some circle
  | .exitRequested circle _ => some circle
  | .vacancyFilled circle _ _ _ => some circle
  | .insuranceCoverage circle _ _ => some circle
  | .circleDissolved circle _ => some circle
  | .penaltyChanged circle _ => some circle
  | .proRataWithdrawn circle _ _ => some circle
  | .protocolFeeUpdated _ _ => none

/-- The members of a payload besides the circle. -/
def details : Event → List (String × Json)
  | .circleCreated _ admin contribution =>
    [("admin", .text admin), ("contribution", .ofNat contribution)]
  | .memberJoined _ member => [("member", .text member)]
  | .queueFinalized _ queue => [("payoutQueue", .texts queue)]
  | .contributionReceived _ member amount lateFee insuranceFee =>
    [("member", .text member), ("amount", .ofNat amount), ("lateFee", .ofNat lateFee),
      ("insuranceFee", .ofNat insuranceFee)]
  | .payoutProcessed _ recipient gross net fee =>
    [("recipient", .text recipient), ("gross", .ofNat gross), ("net", .ofInt net),
      ("fee", .ofNat fee)]
  | .cycleCompleted _ volume => [("totalVolumeDistributed", .ofNat volume)]
  | .groupRollover _ cycle => [("newCycleNumber", .ofNat cycle)]
  | .kicked _ member refund penalty =>
    [("member", .text member), ("refund", .ofNat refund), ("penalty", .ofNat penalty)]
  | .memberSwapped _ former successor =>
    [("oldMember", .text former), ("newMember", .text successor)]
  | .memberEjected _ member => [("member", .text member)]
  | .exitRequested _ member => [("member", .text member)]
  | .vacancyFilled _ exiting successor refund =>
    [("exiting", .text exiting), ("newMember", .text successor), ("refund", .ofNat refund)]
  | .insuranceCoverage _ member amount =>
    [("member", .text member), ("amount", .ofNat amount)]
  | .circleDissolved _ votes => [("votes", .ofNat votes)]
  | .penaltyChanged _ lateFeeRate => [("lateFeeBps", .ofNat lateFeeRate)]
  | .proRataWithdrawn _ member amount =>
    [("member", .text member), ("amount", .ofNat amount)]
  | .protocolFeeUpdated rate treasury =>
    [("feeBasisPoints", .ofNat rate), ("treasury", .text treasury)]

/-- The payload of an event: its circle first, if it belongs to one. -/
def payload (event : Event) : Json :=
  .object ((event.circle?.toList.map fun circle => ("circleId", Json.ofNat circle)) ++
    event.details)

instance : Recorded Event where
  topic event := .ofText event.topic.name
  circle event := some (.ofOption Json.ofNat event.circle?)
  payload := payload

end Event

end SavingsCircle
