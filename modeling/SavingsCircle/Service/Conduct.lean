import SavingsCircle.Service.Operation
import SavingsCircle.Service.Procedure

/-!
# How operations are conducted

Each operation as a procedure, in the order in which it checks, writes, publishes and pays. Some
write before their last check is made: an administrator's activity is noted as soon as the
administrator is known, a swap renames the member before it looks for the record of the former one,
and a contribution is booked before the record of the contributor is looked for. Writings with
nothing between them that could fail or be seen stand together.
-/

namespace SavingsCircle

namespace Procedure

/-! ## Parts -/

/-- Notes that an administrator is active. -/
def touch : Procedure Unit := do
  let moment ← moment
  alter fun binder => { binder with lastActiveAt := moment.now }

/-- The protocol's configuration, for its administrator. -/
def requireProtocolAdmin (host : Host) (proof : Option Proof) : Procedure Protocol := do
  let binder ← binder
  let protocol ← demandSome binder.protocol (.circle .unauthorized "Protocol is not initialized.")
  let caller ← host.authorize proof
  demand (caller = protocol.admin) (.circle .unauthorized "Protocol admin required.")
  touch
  return protocol

def requireSheet (id : Number) : Procedure Sheet := do
  let binder ← binder
  binder.sheet id

def requireCircleAdmin (host : Host) (proof : Option Proof) (id : Number) : Procedure Sheet := do
  let sheet ← requireSheet id
  let caller ← host.authorize proof
  demand (caller = sheet.admin) (.circle .unauthorized "Circle admin required.")
  touch
  return sheet

/-- Drops the votes of those who can no longer vote and applies every decision that has fallen. -/
def settleVotes (sheet : Sheet) : Procedure Sheet := do
  let binder ← binder
  let isVoter := sheet.circle.isVoter binder.records
  let sheet :=
    { sheet with
      dissolutionVotes := sheet.dissolutionVotes.filter isVoter
      proposalVotes := sheet.proposalVotes.filter isVoter }
  keep sheet
  let voters := sheet.voterCount binder.records
  if voters = 0 then return sheet
  let sheet ← settleDissolution sheet voters
  settleProposal sheet voters
where
  settleDissolution (sheet : Sheet) (voters : Nat) : Procedure Sheet := do
    let votes := sheet.dissolutionVotes.length
    if !sheet.isDissolved && voters < votes * 2 then
      let sheet := { sheet with isDissolved := true }
      keep sheet
      announce (.circleDissolved sheet.id votes)
      return sheet
    return sheet
  settleProposal (sheet : Sheet) (voters : Nat) : Procedure Sheet := do
    match sheet.proposedLateFeeRate with
    | some rate =>
      if voters < sheet.proposalVotes.length * 2 then
        let sheet :=
          { sheet with lateFeeRate := rate, proposedLateFeeRate := none, proposalVotes := [] }
        keep sheet
        announce (.penaltyChanged sheet.id rate)
        return sheet
      return sheet
    | none => return sheet

/-- Puts a member in the place of another. -/
def swapIn (sheet : Sheet) (former successor : Address) : Procedure Sheet := do
  sheet.circle.demandOpen
  let position ← demandSome (sheet.directory.position? former) (.ofKind .memberNotFound)
  if former = successor then return sheet
  demand ((sheet.directory.position? successor).isNone) (.ofKind .memberAlreadyExists)
  let sheet := sheet.renameMember former successor
  keep sheet
  let records := (← binder).records
  let record ← records.record sheet.id former
  let moment ← moment
  let records := (records.remove sheet.id former).enroll sheet.id successor position moment.now
  let records := records.update sheet.id successor fun fresh =>
    { fresh with
      contributionCount := record.contributionCount
      lastContributionAt := record.lastContributionAt
      status := record.status }
  let sheet := sheet.reindexed
  keep sheet
  revise fun _ => records.reindex sheet.id sheet.directory
  announce (.memberSwapped sheet.id former successor)
  return sheet

/-! ## The protocol -/

def claimProtocol (host : Host) (proof : Option Proof) : Procedure Receipt := do
  let admin ← host.authorize proof
  demand ((← binder).protocol = none) (.circle .unauthorized "Protocol is already initialized.")
  let protocol : Protocol := { admin, feeRate := 0, treasury := none }
  alter fun binder => { binder with protocol := some protocol }
  touch
  return .settled (.protocol (some protocol))

def setProtocolFee (host : Host) (proof : Option Proof) (rate : Number)
    (treasury : Option Address) : Procedure Receipt := do
  let protocol ← requireProtocolAdmin host proof
  let feeRate ← demandRate rate "Fee must be between 0 and 10000 basis points."
  let treasury ← demandSome treasury .malformed
  demand (Text.hasInk treasury) (.circle .invalidFeeConfig "Treasury address is required.")
  let protocol := { protocol with feeRate, treasury := some treasury }
  alter fun binder => { binder with protocol := some protocol }
  announce (.protocolFeeUpdated feeRate treasury)
  return .settled (.protocol (some protocol))

def adminAction (host : Host) (proof : Option Proof) : Procedure Receipt := do
  let _ ← requireProtocolAdmin host proof
  return .settled (.time (← binder).lastActiveAt)

/-! ## Circles -/

def createCircle (host : Host) (proof : Option Proof) (terms : CircleTerms) :
    Procedure Receipt := do
  let admin ← host.authorize proof
  let contribution ← demandPositive terms.contribution
    "Contribution must be a positive integer."
  let lateFeeRate ← demandRate (terms.lateFeeRate.getD (.ofNat 0))
    "Late fee must be between 0 and 10000 basis points."
  let insuranceFeeRate ← demandRate (terms.insuranceFeeRate.getD (.ofNat 0))
    "Insurance fee must be between 0 and 10000 basis points."
  let cycleDuration ← demandPositive (terms.cycleDuration.getD host.defaultCycleDuration)
    "Cycle duration must be a positive number of seconds."
  let asset ← demandSome terms.asset .malformed
  demand (Text.hasInk asset) (.request 400 "INVALID_ASSET" "Asset is required.")
  let moment ← moment
  alter fun binder => { binder with circleCount := binder.circleCount + 1 }
  let id := (← binder).circleCount
  let sheet : Sheet :=
    { id, admin, asset, contribution
      members := []
      paidOut := []
      contributed := []
      paidIn := []
      directory := .empty
      isRandomQueue := terms.isRandomQueue
      payoutQueue := []
      cycle := 1
      payouts := 0
      volume := 0
      isDissolved := false
      dissolutionVotes := []
      balance := 0
      cycleDuration
      deadline := moment.now.add (.ofNat cycleDuration)
      lateFeeRate
      reserve := 0
      insuranceFeeRate
      insurance := 0
      isInsuranceUsed := false
      proposedLateFeeRate := none
      proposalVotes := []
      createdAt := moment.now }
  alter fun binder => { binder with sheets := binder.sheets ++ [sheet] }
  announce (.circleCreated id admin contribution)
  return .settled (.amount id)

def transferAdmin (host : Host) (proof : Option Proof) (id : Number) (admin : Option Address) :
    Procedure Receipt := do
  let sheet ← requireCircleAdmin host proof id
  let admin ← demandSome admin .malformed
  demand (Text.hasInk admin) (.request 400 "INVALID_ADDRESS" "New admin address is required.")
  let sheet := { sheet with admin }
  keep sheet
  return .settled (.circle sheet.circle)

/-! ## Membership -/

def join (host : Host) (proof : Option Proof) (id : Number) : Procedure Receipt := do
  let member ← host.authorize proof
  let sheet ← requireSheet id
  sheet.circle.demandOpen
  demand ((sheet.directory.position? member).isNone) (.ofKind .alreadyJoined)
  demand (sheet.members.length < maxMembers) (.ofKind .maxMembersReached)
  demand sheet.payoutQueue.isEmpty
    (.circle .invalidCircleState "Payout queue is already finalized.")
  let sheet := sheet.addSeat member
  keep sheet
  let position := sheet.members.length - 1
  let sheet := { sheet with directory := sheet.directory.enter member position }
  keep sheet
  let moment ← moment
  revise fun records => records.enroll sheet.id member position moment.now
  announce (.memberJoined sheet.id member)
  return .enrolled sheet.id member

def kick (host : Host) (proof : Option Proof) (id : Number) (member : Address)
    (penalty : Number) : Procedure Receipt := do
  let sheet ← requireCircleAdmin host proof id
  sheet.circle.demandOpen
  let penalty ← demandSome penalty.safeNat?
    (.invalidAmount "Penalty must be a non-negative integer.")
  let (position, seat) ← demandSome (sheet.seat? member) (.ofKind .memberNotFound)
  demand (penalty ≤ seat.paidIn) (.ofKind .penaltyExceedsContribution)
  demand (!seat.isPaidOut) (.circle .invalidCircleState
    "A member paid out this cycle cannot be removed until rollover.")
  let refund := Amount.sub seat.paidIn penalty
  let treasury := (← binder).books.treasury
  let fined := if 0 < penalty then treasury else none
  let outflow := if fined.isSome then seat.paidIn else refund
  demand (outflow ≤ sheet.balance) (.ofKind .insufficientBalance)
  let sheet := (sheet.removeSeat position).reindexed
  keep sheet
  revise fun records => records.reindex sheet.id sheet.directory
  revise fun records => records.remove sheet.id member
  let sheet :=
    { sheet with
      balance := Amount.sub sheet.balance outflow
      reserve := if fined.isSome then sheet.reserve else Amount.add sheet.reserve penalty }
  keep sheet
  let sheet ← settleVotes sheet
  announce (.kicked sheet.id member refund penalty)
  payAll (sheet.circle.payOut host member refund)
  payAll (fined.toList.map fun treasury => ⟨sheet.asset, host.custody, treasury, .ofNat penalty⟩)
  return .settled (.removal member refund penalty)

def swap (host : Host) (formerProof successorProof : Option Proof) (id : Number) :
    Procedure Receipt := do
  let former ← host.authorize formerProof
  let successor ← host.authorize successorProof
  let sheet ← requireSheet id
  let sheet ← swapIn sheet former successor
  return .settled (.circle sheet.circle)

def swapByAdmin (host : Host) (proof : Option Proof) (id : Number)
    (former successor : Address) : Procedure Receipt := do
  let sheet ← requireCircleAdmin host proof id
  let sheet ← swapIn sheet former successor
  return .settled (.circle sheet.circle)

def eject (host : Host) (proof : Option Proof) (id : Number) (member : Address) :
    Procedure Receipt := do
  let sheet ← requireCircleAdmin host proof id
  sheet.circle.demandOpen
  demand ((sheet.directory.position? member).isSome) (.ofKind .memberNotFound)
  let record ← (← binder).records.record sheet.id member
  demand (record.status ≠ .ejected)
    (.circle .invalidCircleState "Member is already ejected.")
  let record := { record with status := .ejected }
  revise fun records => records.update sheet.id member fun _ => record
  let _ ← settleVotes sheet
  announce (.memberEjected sheet.id member)
  return .settled (.member record)

def requestExit (host : Host) (proof : Option Proof) (id : Number) : Procedure Receipt := do
  let member ← host.authorize proof
  let sheet ← requireSheet id
  sheet.circle.demandOpen
  demand ((sheet.directory.position? member).isSome) (.ofKind .notMember)
  let record ← (← binder).records.record sheet.id member
  demand (record.status = .active)
    (.circle .invalidCircleState "Only active members can request an exit.")
  let record := { record with status := .awaitingReplacement }
  revise fun records => records.update sheet.id member fun _ => record
  announce (.exitRequested sheet.id member)
  return .settled (.member record)

def fillVacancy (host : Host) (proof successorProof : Option Proof) (id : Number)
    (exiting : Address) : Procedure Receipt := do
  let sheet ← requireCircleAdmin host proof id
  let successor ← host.authorize successorProof
  sheet.circle.demandOpen
  let (position, seat) ← demandSome (sheet.seat? exiting) (.ofKind .memberNotFound)
  let record ← (← binder).records.record sheet.id exiting
  demand (record.status = .awaitingReplacement)
    (.circle .invalidCircleState "Member has not requested an exit.")
  demand ((sheet.directory.position? successor).isNone) (.ofKind .memberAlreadyExists)
  let refund := sheet.circle.refundable seat
  demand (refund ≤ sheet.balance) (.ofKind .insufficientBalance)
  let moment ← moment
  let sheet := sheet.vacateSeat position exiting successor
  keep sheet
  let sheet := { sheet with balance := Amount.sub sheet.balance refund }
  keep sheet
  revise fun records =>
    records.update sheet.id exiting fun record => { record with status := .ejected }
  let sheet := sheet.reindexed
  keep sheet
  revise fun records => records.reindex sheet.id sheet.directory
  revise fun records => records.enroll sheet.id successor position moment.now
  let sheet ← settleVotes sheet
  announce (.vacancyFilled sheet.id exiting successor refund)
  payAll (sheet.circle.payOut host exiting refund)
  return .enrolled sheet.id successor

/-! ## Queues, payouts and cycles -/

def finalize (host : Host) (proof : Option Proof) (id : Number) : Procedure Receipt := do
  let sheet ← requireCircleAdmin host proof id
  sheet.circle.demandOpen
  if !sheet.payoutQueue.isEmpty then return .settled (.addresses sheet.payoutQueue)
  demand (!sheet.members.isEmpty)
    (.circle .invalidCircleState "Cannot finalize a circle without members.")
  let moment ← moment
  let (queue, draws) := if sheet.isRandomQueue then host.shuffle sheet.members moment.draws
    else (sheet.members, moment.draws)
  demand (isPermutation queue sheet.members)
    (.circle .invalidCircleState "Shuffled queue is not a permutation.")
  leave draws
  let sheet := { sheet with payoutQueue := queue }
  keep sheet
  announce (.queueFinalized sheet.id queue)
  return .settled (.addresses queue)

def processPayout (host : Host) (proof : Option Proof) (id : Number) (recipient : Address) :
    Procedure Receipt := do
  let sheet ← requireCircleAdmin host proof id
  sheet.circle.demandOpen
  demand (!sheet.payoutQueue.isEmpty) (.ofKind .circleNotFinalized)
  let (position, seat) ← demandSome (sheet.activeSeat? (← binder).records recipient)
    (.ofKind .notMember)
  demand (!seat.isPaidOut) (.ofKind .payoutAlreadyReceived)
  let target := sheet.circle.payoutTarget (← moment).now
  demand (target ≤ sheet.balance) (Books.payoutShortfall sheet.balance target)
  let books := (← binder).books
  let gross := sheet.contribution
  let fee := Amount.share gross books.feeRate
  let net : Int := gross - fee
  demand (fee = 0 ∨ books.treasury.isSome)
    (.circle .invalidFeeConfig "A protocol fee is set without a treasury.")
  let sheet :=
    { sheet with
      paidOut := sheet.paidOut.set position true
      payouts := sheet.payouts + 1
      volume := Amount.add sheet.volume gross
      balance := Amount.sub sheet.balance gross }
  keep sheet
  announce (.payoutProcessed sheet.id recipient gross net fee)
  let isComplete := sheet.isCycleComplete (← binder).records
  if isComplete then announce (.cycleCompleted sheet.id sheet.volume)
  payAll [⟨sheet.asset, host.custody, recipient, .ofInt net⟩]
  payAll ((if 0 < fee then books.treasury else none).toList.map fun treasury =>
    ⟨sheet.asset, host.custody, treasury, .ofNat fee⟩)
  return .settled (.payout recipient gross net fee isComplete)

def rollover (host : Host) (proof : Option Proof) (id : Number) : Procedure Receipt := do
  let sheet ← requireCircleAdmin host proof id
  sheet.circle.demandOpen
  demand (sheet.isCycleComplete (← binder).records) (.ofKind .cycleNotComplete)
  let sheet := sheet.rollOver
  keep sheet
  announce (.groupRollover sheet.id sheet.cycle)
  return .settled (.cycle sheet.circle.cycleInfo)

/-! ## Contributions, insurance and refunds -/

def contribute (host : Host) (proof : Option Proof) (id : Number) : Procedure Receipt := do
  let member ← host.authorize proof
  let sheet ← requireSheet id
  sheet.circle.demandOpen
  let (position, seat) ← demandSome (sheet.activeSeat? (← binder).records member)
    (.ofKind .notMember)
  demand (!seat.hasContributed)
    (.circle .invalidCircleState "Contribution for this cycle is already paid.")
  let moment ← moment
  let lateFee := sheet.circle.lateFee moment.now
  let insuranceFee := sheet.circle.insuranceFee
  let amount := Amount.add (Amount.add sheet.contribution lateFee) insuranceFee
  let sheet :=
    { sheet with
      balance := Amount.add sheet.balance amount
      reserve := Amount.add sheet.reserve lateFee
      insurance := Amount.add sheet.insurance insuranceFee
      paidIn := sheet.paidIn.set position (Amount.add seat.paidIn sheet.contribution)
      contributed := sheet.contributed.set position true
      deadline := moment.now.add (.ofNat sheet.cycleDuration) }
  keep sheet
  let _ ← (← binder).records.record sheet.id member
  revise fun records =>
    records.update sheet.id member fun record =>
      { record with
        contributionCount := record.contributionCount + 1
        lastContributionAt := moment.now }
  announce (.contributionReceived sheet.id member amount lateFee insuranceFee)
  payAll [⟨sheet.asset, member, host.custody, .ofNat amount⟩]
  return .settled (.contribution member amount lateFee insuranceFee)

def coverMember (host : Host) (proof : Option Proof) (id : Number) (member : Address) :
    Procedure Receipt := do
  let sheet ← requireCircleAdmin host proof id
  sheet.circle.demandOpen
  let (position, seat) ← demandSome (sheet.activeSeat? (← binder).records member)
    (.ofKind .notMember)
  demand (!sheet.isInsuranceUsed)
    (.circle .invalidCircleState "Insurance was already used this cycle.")
  demand (!seat.hasContributed)
    (.circle .invalidCircleState "Member already contributed this cycle.")
  demand (sheet.contribution ≤ sheet.insurance)
    (.circle .insufficientBalance "Insurance fund cannot cover it.")
  let sheet :=
    { sheet with
      insurance := Amount.sub sheet.insurance sheet.contribution
      contributed := sheet.contributed.set position true
      isInsuranceUsed := true }
  keep sheet
  announce (.insuranceCoverage sheet.id member sheet.contribution)
  return .settled (.circle sheet.circle)

def withdrawProRata (host : Host) (proof : Option Proof) (id : Number) : Procedure Receipt := do
  let member ← host.authorize proof
  let sheet ← requireSheet id
  demand sheet.isDissolved (.ofKind .notDissolved)
  let (position, seat) ← demandSome (sheet.seat? member) (.ofKind .notMember)
  let refund := sheet.circle.refundable seat
  if refund = 0 then return .settled (.amount 0)
  demand (refund ≤ sheet.balance) (.ofKind .insufficientBalance)
  let sheet :=
    { sheet with
      paidIn := sheet.paidIn.set position 0
      balance := Amount.sub sheet.balance refund }
  keep sheet
  announce (.proRataWithdrawn sheet.id member refund)
  payAll (sheet.circle.payOut host member refund)
  return .settled (.amount refund)

/-! ## Governance -/

/-- The caller, who can vote on a circle that is not dissolved, and its sheet. -/
def requireVoter (host : Host) (proof : Option Proof) (id : Number) :
    Procedure (Address × Sheet) := do
  let member ← host.authorize proof
  let sheet ← requireSheet id
  sheet.circle.demandOpen
  sheet.circle.demandVoter (← binder).records member
  return (member, sheet)

def proposeDissolution (host : Host) (proof : Option Proof) (id : Number) :
    Procedure Receipt := do
  let (member, sheet) ← requireVoter host proof id
  let votes := if member ∈ sheet.dissolutionVotes then sheet.dissolutionVotes
    else sheet.dissolutionVotes ++ [member]
  let sheet := { sheet with dissolutionVotes := votes }
  keep sheet
  let sheet ← settleVotes sheet
  return .settled (.flag sheet.isDissolved)

def voteDissolution (host : Host) (proof : Option Proof) (id : Number) : Procedure Receipt := do
  let (member, sheet) ← requireVoter host proof id
  demand (member ∉ sheet.dissolutionVotes) (.ofKind .alreadyVoted)
  let sheet := { sheet with dissolutionVotes := sheet.dissolutionVotes ++ [member] }
  keep sheet
  let sheet ← settleVotes sheet
  return .settled (.flag sheet.isDissolved)

def proposeLateFee (host : Host) (proof : Option Proof) (id rate : Number) :
    Procedure Receipt := do
  let (member, sheet) ← requireVoter host proof id
  let rate ← demandRate rate "Late fee must be between 0 and 10000 basis points."
  let sheet := { sheet with proposedLateFeeRate := some rate, proposalVotes := [member] }
  keep sheet
  let sheet ← settleVotes sheet
  return .settled (.circle sheet.circle)

def voteLateFee (host : Host) (proof : Option Proof) (id : Number) : Procedure Receipt := do
  let (member, sheet) ← requireVoter host proof id
  demand sheet.proposedLateFeeRate.isSome
    (.circle .invalidCircleState "No late fee proposal is open.")
  demand (member ∉ sheet.proposalVotes) (.ofKind .alreadyVoted)
  let sheet := { sheet with proposalVotes := sheet.proposalVotes ++ [member] }
  keep sheet
  let sheet ← settleVotes sheet
  return .settled (.circle sheet.circle)

/-! ## Deposits -/

def deposit (host : Host) (proof : Option Proof) (asset : Asset) (amount : Number) :
    Procedure Receipt := do
  let user ← host.authorize proof
  let amount ← demandPositive amount "Deposit amount must be a positive integer."
  alter fun binder => { binder with custody := binder.books.addDeposit user asset amount }
  payAll [⟨asset, user, host.custody, .ofNat amount⟩]
  return .deposited user asset

def emergencyWithdraw (host : Host) (proof : Option Proof) (asset : Asset) :
    Procedure Receipt := do
  let user ← host.authorize proof
  demand ((← binder).books.isUnlocked (← moment).now)
    (.ofKind .emergencyWithdrawalNotAvailable)
  let amount := (← binder).books.deposited user asset
  alter fun binder =>
    { binder with custody := binder.custody.filter fun entry => !entry.isOf user asset }
  payAll (if 0 < amount then [⟨asset, host.custody, user, .ofNat amount⟩] else [])
  return .settled (.amount amount)

end Procedure

/-- The procedure of an operation. -/
def Operation.procedure (operation : Operation) (host : Host) : Procedure Receipt :=
  match operation with
  | .claimProtocol proof => .claimProtocol host proof
  | .adminAction proof => .adminAction host proof
  | .setProtocolFee proof rate treasury => .setProtocolFee host proof rate treasury
  | .createCircle proof terms => .createCircle host proof terms
  | .transferAdmin proof circle admin => .transferAdmin host proof circle admin
  | .join proof circle => .join host proof circle
  | .kick proof circle member penalty => .kick host proof circle member penalty
  | .swap formerProof successorProof circle => .swap host formerProof successorProof circle
  | .swapByAdmin proof circle former successor => .swapByAdmin host proof circle former successor
  | .eject proof circle member => .eject host proof circle member
  | .requestExit proof circle => .requestExit host proof circle
  | .fillVacancy proof successorProof circle exiting =>
    .fillVacancy host proof successorProof circle exiting
  | .finalize proof circle => .finalize host proof circle
  | .processPayout proof circle recipient => .processPayout host proof circle recipient
  | .rollover proof circle => .rollover host proof circle
  | .contribute proof circle => .contribute host proof circle
  | .coverMember proof circle member => .coverMember host proof circle member
  | .proposeDissolution proof circle => .proposeDissolution host proof circle
  | .voteDissolution proof circle => .voteDissolution host proof circle
  | .proposeLateFee proof circle rate => .proposeLateFee host proof circle rate
  | .voteLateFee proof circle => .voteLateFee host proof circle
  | .withdrawProRata proof circle => .withdrawProRata host proof circle
  | .deposit proof asset amount => .deposit host proof asset amount
  | .emergencyWithdraw proof asset => .emergencyWithdraw host proof asset

end SavingsCircle
