import SavingsCircle.Service.Answer

/-!
# Answers as JSON

How what the service keeps and returns is shown to callers.
-/

namespace SavingsCircle

def Protocol.toJson (protocol : Protocol) : Json :=
  .object [
    ("admin", .text protocol.admin),
    ("feeBasisPoints", .ofNat protocol.feeRate),
    ("treasury", .ofOption .text protocol.treasury)]

/-- A member record as JSON. -/
def MemberRecord.toJson (record : MemberRecord) : Json :=
  .object [
    ("circleId", .ofNat record.circle),
    ("address", .text record.address),
    ("index", .ofNat record.index),
    ("contributionCount", .ofNat record.contributionCount),
    ("lastContributionAt", .number record.lastContributionAt),
    ("status", .text record.status.name),
    ("joinedAt", .number record.joinedAt)]

def Directory.toJson (directory : Directory) : Json :=
  .object (directory.entries.map fun (address, position) => (address, Json.ofNat position))

/-- A circle as JSON; its seats are shown as one list for each of their parts. -/
def Circle.toJson (circle : Circle) : Json :=
  .object [
    ("id", .ofNat circle.id),
    ("admin", .text circle.admin),
    ("asset", .text circle.asset),
    ("contribution", .ofNat circle.contribution),
    ("members", .texts circle.members),
    ("memberIndex", circle.directory.toJson),
    ("isRandomQueue", .bool circle.isRandomQueue),
    ("payoutQueue", .texts circle.payoutQueue),
    ("hasReceivedPayout", .array (circle.seats.map (.bool ·.isPaidOut))),
    ("hasContributed", .array (circle.seats.map (.bool ·.hasContributed))),
    ("cycleNumber", .ofNat circle.cycle),
    ("currentPayoutIndex", .ofNat circle.payouts),
    ("totalVolumeDistributed", .ofNat circle.volume),
    ("contributionsPaid", .array (circle.seats.map (.ofNat ·.paidIn))),
    ("isDissolved", .bool circle.isDissolved),
    ("dissolutionVotes", .texts circle.dissolutionVotes),
    ("balance", .ofNat circle.balance),
    ("cycleDuration", .ofNat circle.cycleDuration),
    ("deadline", .number circle.deadline),
    ("lateFeeBps", .ofNat circle.lateFeeRate),
    ("groupReserve", .ofNat circle.reserve),
    ("insuranceFeeBps", .ofNat circle.insuranceFeeRate),
    ("insuranceBalance", .ofNat circle.insurance),
    ("isInsuranceUsed", .bool circle.isInsuranceUsed),
    ("proposedLateFeeBps", .ofOption .ofNat circle.proposedLateFeeRate),
    ("proposalVotes", .texts circle.proposalVotes),
    ("createdAt", .number circle.createdAt)]

def CustodyEntry.toJson (entry : CustodyEntry) : Json :=
  .object [
    ("user", .text entry.user),
    ("asset", .text entry.asset),
    ("amount", .ofNat entry.amount)]

def Books.parts (books : Books) : List (String × Json) :=
  [("protocol", .ofOption Protocol.toJson books.protocol),
    ("lastActiveAt", .number books.lastActiveAt),
    ("circleCount", .ofNat books.circleCount),
    ("circles", .array (books.circles.map Circle.toJson)),
    ("memberRecords", .array (books.records.map MemberRecord.toJson)),
    ("custody", .array (books.custody.map CustodyEntry.toJson))]

/-- The holdings of a ledger as JSON: asset, holder and balance of each. -/
def Ledger.toJson (ledger : Ledger) : Json :=
  .array (ledger.holdings.map fun account =>
    .array [.text account.asset, .text account.holder, .ofNat account.balance])

/-- An entry of a trail as JSON; a field that holds nothing is left out. -/
def Entry.toJson {ε : Type} [Recorded ε] (entry : Entry ε) : Json :=
  let member (name : String) (cell : Cell) := cell.toList.map fun value => (name, value)
  .object (
    member "id" entry.id ++
    member "topic" (Recorded.topic entry.event) ++
    member "circleId" (Recorded.circle entry.event) ++
    [("payload", Recorded.payload entry.event)] ++
    member "timestamp" entry.timestamp ++
    member "previousHash" entry.previousHash ++
    member "entryHash" entry.entryHash)

namespace Answer

/-- An answer as JSON. -/
def toJson : Answer → Json
  | .nothing => .null
  | .flag value => .bool value
  | .amount value => .ofNat value
  | .time value => .number value
  | .address value => .ofOption .text value
  | .addresses value => .texts value
  | .flags value => .array (value.map .bool)
  | .protocol value => .ofOption Protocol.toJson value
  | .circle value => value.toJson
  | .circles value => .array (value.map Circle.toJson)
  | .member value => value.toJson
  | .members value => .array (value.map MemberRecord.toJson)
  | .cycle value =>
    .object [
      ("cycle", .ofNat value.cycle),
      ("index", .ofNat value.payouts),
      ("total", .ofNat value.volume)]
  | .removal removed refund penalty =>
    .object [
      ("member", .text removed),
      ("refund", .ofNat refund),
      ("penalty", .ofNat penalty)]
  | .payout recipient gross net fee cycleCompleted =>
    .object [
      ("recipient", .text recipient),
      ("gross", .ofNat gross),
      ("net", .ofInt net),
      ("fee", .ofNat fee),
      ("cycleCompleted", .bool cycleCompleted)]
  | .contribution payer paid lateFee insuranceFee =>
    .object [
      ("member", .text payer),
      ("amount", .ofNat paid),
      ("lateFee", .ofNat lateFee),
      ("insuranceFee", .ofNat insuranceFee)]
  | .books value => .object value.parts
  | .entries value => .array (value.map Entry.toJson)

end Answer

end SavingsCircle
