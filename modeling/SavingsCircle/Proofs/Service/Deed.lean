import SavingsCircle.Service.Operation

/-!
# What calls do

A call that is not refused has one of a few effects, each under conditions that its checks
establish. `Deed` lists them for calls on a circle, seen from the circle and the member records:
one constructor for each kind of call, two where a call may find nothing to do. `Performs` adds the
calls on the books as a whole. Whatever is to hold after every call is shown by cases on these two.
-/

namespace SavingsCircle

namespace Operation

def proof : Operation → Option Proof
  | .claimProtocol proof | .adminAction proof | .setProtocolFee proof _ _ | .createCircle proof _
  | .transferAdmin proof _ _ | .join proof _ | .kick proof _ _ _ | .swap proof _ _
  | .swapByAdmin proof _ _ _ | .eject proof _ _ | .requestExit proof _ | .fillVacancy proof _ _ _
  | .finalize proof _ | .processPayout proof _ _ | .rollover proof _ | .contribute proof _
  | .coverMember proof _ _ | .proposeDissolution proof _ | .voteDissolution proof _
  | .proposeLateFee proof _ _ | .voteLateFee proof _ | .withdrawProRata proof _
  | .deposit proof _ _ | .emergencyWithdraw proof _ => proof

/-- The proof of whoever takes over a seat. -/
def successorProof : Operation → Option Proof
  | .swap _ proof _ | .fillVacancy _ proof _ _ => proof
  | _ => none

def circleId? : Operation → Option Number
  | .transferAdmin _ id _ | .join _ id | .kick _ id _ _ | .swap _ _ id | .swapByAdmin _ id _ _
  | .eject _ id _ | .requestExit _ id | .fillVacancy _ _ id _ | .finalize _ id
  | .processPayout _ id _ | .rollover _ id | .contribute _ id | .coverMember _ id _
  | .proposeDissolution _ id | .voteDissolution _ id | .proposeLateFee _ id _ | .voteLateFee _ id
  | .withdrawProRata _ id => some id
  | .claimProtocol _ | .adminAction _ | .setProtocolFee .. | .createCircle .. | .deposit ..
  | .emergencyWithdraw .. => none

end Operation

/-- What putting a member in the place of another does. -/
inductive Swapping (moment : Moment) (books : Books) (circle : Circle)
    (former successor : Address) : Change → Prop where
  | same (isOpen : circle.isDissolved = false) (seated : (circle.position? former).isSome)
      (equal : former = successor) :
      Swapping moment books circle former successor
        (circle.answering books.records moment (.circle circle))
  | renamed {position record renamed records} (isOpen : circle.isDissolved = false)
      (seated : circle.position? former = some position) (differ : former ≠ successor)
      (absent : circle.position? successor = none)
      (recorded : books.records.record? circle.id former = some record)
      (isRenamed : renamed = circle.renameMember former successor)
      (areRecords : records = ((books.records.remove circle.id former).enroll circle.id successor
        position moment.now).update circle.id successor fun fresh =>
          { fresh with
            contributionCount := record.contributionCount
            lastContributionAt := record.lastContributionAt
            status := record.status }) :
      Swapping moment books circle former successor
        { circle := renamed
          records := records.reindex circle.id renamed.directory
          draws := moment.draws
          events := [.memberSwapped circle.id former successor]
          transfers := []
          receipt := .settled (.circle renamed) }

/-- What a call on a circle by the given caller does to the circle and the member records, unless
it is refused. -/
inductive Deed (host : Host) (moment : Moment) (books : Books) (circle : Circle)
    (caller : Address) : Operation → Change → Prop where
  | handOver {proof id admin} (ink : Text.hasInk admin = true) :
      Deed host moment books circle caller (.transferAdmin proof id (some admin))
        (Circle.answering { circle with admin } books.records moment
          (.circle { circle with admin }))
  | join {proof id} (isOpen : circle.isDissolved = false)
      (absent : circle.position? caller = none) (room : circle.seats.length < maxMembers)
      (unqueued : circle.payoutQueue = []) :
      Deed host moment books circle caller (.join proof id)
        { circle := circle.addSeat caller
          records := books.records.enroll circle.id caller circle.seats.length moment.now
          draws := moment.draws
          events := [.memberJoined circle.id caller]
          transfers := []
          receipt := .enrolled circle.id caller }
  | kick {proof id member amount penalty position seat refund fined outflow removed records kept}
      (isOpen : circle.isDissolved = false) (given : amount.safeNat? = some penalty)
      (seated : circle.seat? member = some (position, seat)) (owed : penalty ≤ seat.paidIn)
      (unpaid : seat.isPaidOut = false) (isRefund : refund = Amount.sub seat.paidIn penalty)
      (isFined : fined = if 0 < penalty then books.treasury else none)
      (isOutflow : outflow = if fined.isSome then seat.paidIn else refund)
      (covered : outflow ≤ circle.balance) (isRemoved : removed = circle.removeSeat position)
      (areRecords : records = (books.records.reindex circle.id removed.directory).remove
        circle.id member)
      (isKept : kept =
        { removed with
          balance := Amount.sub circle.balance outflow
          reserve := if fined.isSome then circle.reserve
            else Amount.add circle.reserve penalty }) :
      Deed host moment books circle caller (.kick proof id member amount)
        { circle := (kept.settle records).1
          records
          draws := moment.draws
          events := (kept.settle records).2 ++ [.kicked circle.id member refund penalty]
          transfers := circle.payOut host member refund ++
            fined.toList.map fun treasury =>
              ⟨circle.asset, host.custody, treasury, .ofNat penalty⟩
          receipt := .settled (.removal member refund penalty)
          departed := (books.records.reindex circle.id removed.directory).filter fun record =>
            record.isOf circle.id member }
  | swap {proof successorProof id successor change}
      (consent : host.authorize successorProof = .ok successor)
      (swapping : Swapping moment books circle caller successor change) :
      Deed host moment books circle caller (.swap proof successorProof id) change
  | swapByAdmin {proof id former successor change}
      (swapping : Swapping moment books circle former successor change) :
      Deed host moment books circle caller (.swapByAdmin proof id former successor) change
  | eject {proof id member record records} (isOpen : circle.isDissolved = false)
      (seated : (circle.position? member).isSome)
      (recorded : books.records.record? circle.id member = some record)
      (takesPart : record.status ≠ .ejected)
      (areRecords : records = books.records.update circle.id member fun _ =>
        { record with status := .ejected }) :
      Deed host moment books circle caller (.eject proof id member)
        { circle := (circle.settle records).1
          records
          draws := moment.draws
          events := (circle.settle records).2 ++ [.memberEjected circle.id member]
          transfers := []
          receipt := .settled (.member { record with status := .ejected }) }
  | requestExit {proof id record} (isOpen : circle.isDissolved = false)
      (seated : (circle.position? caller).isSome)
      (recorded : books.records.record? circle.id caller = some record)
      (active : record.status = .active) :
      Deed host moment books circle caller (.requestExit proof id)
        { circle
          records := books.records.update circle.id caller fun _ =>
            { record with status := .awaitingReplacement }
          draws := moment.draws
          events := [.exitRequested circle.id caller]
          transfers := []
          receipt := .settled (.member { record with status := .awaitingReplacement }) }
  | fillVacancy {proof successorProof id exiting successor position seat record refund vacated
        records kept}
      (consent : host.authorize successorProof = .ok successor)
      (isOpen : circle.isDissolved = false)
      (seated : circle.seat? exiting = some (position, seat))
      (recorded : books.records.record? circle.id exiting = some record)
      (waiting : record.status = .awaitingReplacement)
      (absent : circle.position? successor = none) (isRefund : refund = circle.refundable seat)
      (covered : refund ≤ circle.balance)
      (isVacated : vacated = circle.vacateSeat position exiting successor)
      (areRecords : records = ((books.records.update circle.id exiting fun record =>
        { record with status := .ejected }).reindex circle.id vacated.directory).enroll
          circle.id successor position moment.now)
      (isKept : kept = { vacated with balance := Amount.sub circle.balance refund }) :
      Deed host moment books circle caller (.fillVacancy proof successorProof id exiting)
        { circle := (kept.settle records).1
          records
          draws := moment.draws
          events := (kept.settle records).2 ++
            [.vacancyFilled circle.id exiting successor refund]
          transfers := circle.payOut host exiting refund
          receipt := .enrolled circle.id successor }
  | finalizeAgain {proof id} (isOpen : circle.isDissolved = false)
      (queued : circle.payoutQueue ≠ []) :
      Deed host moment books circle caller (.finalize proof id)
        (circle.answering books.records moment (.addresses circle.payoutQueue))
  | finalize {proof id queue draws} (isOpen : circle.isDissolved = false)
      (unqueued : circle.payoutQueue = []) (seated : circle.seats ≠ [])
      (isQueue : (queue, draws) = if circle.isRandomQueue then
        host.shuffle circle.members moment.draws else (circle.members, moment.draws))
      (permuted : isPermutation queue circle.members = true) :
      Deed host moment books circle caller (.finalize proof id)
        { circle := { circle with payoutQueue := queue }
          records := books.records
          draws
          events := [.queueFinalized circle.id queue]
          transfers := []
          receipt := .settled (.addresses queue) }
  | processPayout {proof id recipient position seat fee net paid isComplete}
      (isOpen : circle.isDissolved = false) (queued : circle.payoutQueue ≠ [])
      (seated : circle.activeSeat? books.records recipient = some (position, seat))
      (unpaid : seat.isPaidOut = false)
      (covered : circle.payoutTarget moment.now ≤ circle.balance)
      (isFee : fee = Amount.share circle.contribution books.feeRate)
      (isNet : net = (circle.contribution : Int) - fee)
      (routed : fee = 0 ∨ books.treasury.isSome) (isPaid : paid = circle.paySeat position)
      (completes : isComplete = paid.isCycleComplete books.records) :
      Deed host moment books circle caller (.processPayout proof id recipient)
        { circle := paid
          records := books.records
          draws := moment.draws
          events := .payoutProcessed circle.id recipient circle.contribution net fee ::
            if isComplete then [.cycleCompleted circle.id paid.volume] else []
          transfers := ⟨circle.asset, host.custody, recipient, .ofInt net⟩ ::
            (if 0 < fee then books.treasury else none).toList.map fun treasury =>
              ⟨circle.asset, host.custody, treasury, .ofNat fee⟩
          receipt := .settled (.payout recipient circle.contribution net fee isComplete) }
  | rollover {proof id} (isOpen : circle.isDissolved = false)
      (complete : circle.isCycleComplete books.records = true) :
      Deed host moment books circle caller (.rollover proof id)
        { circle := circle.rollOver
          records := books.records
          draws := moment.draws
          events := [.groupRollover circle.id circle.rollOver.cycle]
          transfers := []
          receipt := .settled (.cycle circle.rollOver.cycleInfo) }
  | contribute {proof id position seat record lateFee insuranceFee amount}
      (isOpen : circle.isDissolved = false)
      (seated : circle.activeSeat? books.records caller = some (position, seat))
      (unpaid : seat.hasContributed = false)
      (recorded : books.records.record? circle.id caller = some record)
      (isLateFee : lateFee = circle.lateFee moment.now)
      (isInsuranceFee : insuranceFee = circle.insuranceFee)
      (isAmount : amount = Amount.add (Amount.add circle.contribution lateFee) insuranceFee) :
      Deed host moment books circle caller (.contribute proof id)
        { circle :=
            { circle.updateSeat position fun seat =>
                { seat with
                  hasContributed := true
                  paidIn := Amount.add seat.paidIn circle.contribution } with
              balance := Amount.add circle.balance amount
              reserve := Amount.add circle.reserve lateFee
              insurance := Amount.add circle.insurance insuranceFee
              deadline := moment.now.add (.ofNat circle.cycleDuration) }
          records := books.records.update circle.id caller fun record =>
            { record with
              contributionCount := record.contributionCount + 1
              lastContributionAt := moment.now }
          draws := moment.draws
          events := [.contributionReceived circle.id caller amount lateFee insuranceFee]
          transfers := [⟨circle.asset, caller, host.custody, .ofNat amount⟩]
          receipt := .settled (.contribution caller amount lateFee insuranceFee) }
  | coverMember {proof id member position seat covered} (isOpen : circle.isDissolved = false)
      (seated : circle.activeSeat? books.records member = some (position, seat))
      (unused : circle.isInsuranceUsed = false) (unpaid : seat.hasContributed = false)
      (funded : circle.contribution ≤ circle.insurance)
      (isCovered : covered =
        { circle.updateSeat position fun seat => { seat with hasContributed := true } with
          insurance := Amount.sub circle.insurance circle.contribution
          isInsuranceUsed := true }) :
      Deed host moment books circle caller (.coverMember proof id member)
        { circle := covered
          records := books.records
          draws := moment.draws
          events := [.insuranceCoverage circle.id member circle.contribution]
          transfers := []
          receipt := .settled (.circle covered) }
  | proposeDissolution {proof id votes} (isOpen : circle.isDissolved = false)
      (voter : circle.isVoter books.records caller = true)
      (areVotes : votes = if caller ∈ circle.dissolutionVotes then circle.dissolutionVotes
        else circle.dissolutionVotes ++ [caller]) :
      Deed host moment books circle caller (.proposeDissolution proof id)
        (Circle.afterVote { circle with dissolutionVotes := votes } books.records moment
          fun settled => .flag settled.isDissolved)
  | voteDissolution {proof id} (isOpen : circle.isDissolved = false)
      (voter : circle.isVoter books.records caller = true)
      (first : caller ∉ circle.dissolutionVotes) :
      Deed host moment books circle caller (.voteDissolution proof id)
        (Circle.afterVote
          { circle with dissolutionVotes := circle.dissolutionVotes ++ [caller] }
          books.records moment fun settled => .flag settled.isDissolved)
  | proposeLateFee {proof id given rate} (isOpen : circle.isDissolved = false)
      (voter : circle.isVoter books.records caller = true)
      (isRate : Fees.rate? given = some rate) :
      Deed host moment books circle caller (.proposeLateFee proof id given)
        (Circle.afterVote
          { circle with proposedLateFeeRate := some rate, proposalVotes := [caller] }
          books.records moment .circle)
  | voteLateFee {proof id} (isOpen : circle.isDissolved = false)
      (voter : circle.isVoter books.records caller = true)
      (proposed : circle.proposedLateFeeRate.isSome)
      (first : caller ∉ circle.proposalVotes) :
      Deed host moment books circle caller (.voteLateFee proof id)
        (Circle.afterVote { circle with proposalVotes := circle.proposalVotes ++ [caller] }
          books.records moment .circle)
  | withdrawNothing {proof id position seat} (dissolved : circle.isDissolved = true)
      (seated : circle.seat? caller = some (position, seat))
      (empty : circle.refundable seat = 0) :
      Deed host moment books circle caller (.withdrawProRata proof id)
        (circle.answering books.records moment (.amount 0))
  | withdrawProRata {proof id position seat refund} (dissolved : circle.isDissolved = true)
      (seated : circle.seat? caller = some (position, seat))
      (isRefund : refund = circle.refundable seat) (some : refund ≠ 0)
      (covered : refund ≤ circle.balance) :
      Deed host moment books circle caller (.withdrawProRata proof id)
        { circle :=
            { circle.updateSeat position fun seat => { seat with paidIn := 0 } with
              balance := Amount.sub circle.balance refund }
          records := books.records
          draws := moment.draws
          events := [.proRataWithdrawn circle.id caller refund]
          transfers := circle.payOut host caller refund
          receipt := .settled (.amount refund) }

def Operation.isAdministrative : Operation → Bool
  | .transferAdmin .. | .kick .. | .swapByAdmin .. | .eject .. | .fillVacancy .. | .finalize ..
  | .processPayout .. | .rollover .. | .coverMember .. => true
  | _ => false

/-- The effects of the calls that are not refused. -/
inductive Performs (host : Host) (moment : Moment) (books : Books) : Operation → Effect → Prop where
  | claimProtocol {proof admin protocol} (caller : host.authorize proof = .ok admin)
      (unclaimed : books.protocol = none)
      (isProtocol : protocol = { admin, feeRate := 0, treasury := none }) :
      Performs host moment books (.claimProtocol proof)
        ({ books with protocol := some protocol, lastActiveAt := moment.now }.answering moment
          (.protocol (some protocol)))
  | adminAction {proof protocol} (claimed : books.protocol = some protocol)
      (caller : host.authorize proof = .ok protocol.admin) :
      Performs host moment books (.adminAction proof)
        ({ books with lastActiveAt := moment.now }.answering moment (.time moment.now))
  | setProtocolFee {proof given rate treasury former protocol}
      (claimed : books.protocol = some former)
      (caller : host.authorize proof = .ok former.admin)
      (isRate : Fees.rate? given = some rate) (ink : Text.hasInk treasury = true)
      (isProtocol : protocol = { former with feeRate := rate, treasury := some treasury }) :
      Performs host moment books (.setProtocolFee proof given (some treasury))
        { { books with protocol := some protocol, lastActiveAt := moment.now }.answering moment
            (.protocol (some protocol)) with
          events := [.protocolFeeUpdated rate treasury] }
  | createCircle {proof terms admin contribution lateFeeRate insuranceFeeRate cycleDuration asset
        circle}
      (caller : host.authorize proof = .ok admin)
      (priced : terms.contribution.safeNat? = some contribution) (positive : 0 < contribution)
      (isLateFeeRate : Fees.rate? (terms.lateFeeRate.getD (.ofNat 0)) = some lateFeeRate)
      (isInsuranceFeeRate :
        Fees.rate? (terms.insuranceFeeRate.getD (.ofNat 0)) = some insuranceFeeRate)
      (isDuration : (terms.cycleDuration.getD host.defaultCycleDuration).safeNat? =
        some cycleDuration)
      (lasting : 0 < cycleDuration) (isAsset : terms.asset = some asset)
      (ink : Text.hasInk asset = true)
      (isCircle : circle =
        { id := books.circleCount + 1
          admin, asset, contribution
          seats := []
          directory := .empty
          isRandomQueue := terms.isRandomQueue
          payoutQueue := []
          cycle := 1
          payouts := 0
          volume := 0
          isDissolved := false
          dissolutionVotes := []
          balance := 0
          cycleDuration
          deadline := moment.now.add (.ofNat cycleDuration)
          lateFeeRate
          reserve := 0
          insuranceFeeRate
          insurance := 0
          isInsuranceUsed := false
          proposedLateFeeRate := none
          proposalVotes := []
          createdAt := moment.now }) :
      Performs host moment books (.createCircle proof terms)
        { books :=
            { books with
              circleCount := books.circleCount + 1
              circles := books.circles ++ [circle] }
          draws := moment.draws
          events := [.circleCreated (books.circleCount + 1) admin contribution]
          transfers := []
          receipt := .settled (.amount (books.circleCount + 1)) }
  | deposit {proof asset given user amount} (caller : host.authorize proof = .ok user)
      (safe : given.safeNat? = some amount) (positive : 0 < amount) :
      Performs host moment books (.deposit proof asset given)
        { books := { books with custody := books.addDeposit user asset amount }
          draws := moment.draws
          events := []
          transfers := [⟨asset, user, host.custody, .ofNat amount⟩]
          receipt := .deposited user asset }
  | emergencyWithdraw {proof asset user} (caller : host.authorize proof = .ok user)
      (unlocked : books.isUnlocked moment.now = true) :
      Performs host moment books (.emergencyWithdraw proof asset)
        { books :=
            { books with custody := books.custody.filter fun entry => !entry.isOf user asset }
          draws := moment.draws
          events := []
          transfers := if 0 < books.deposited user asset then
            [⟨asset, host.custody, user, .ofNat (books.deposited user asset)⟩] else []
          receipt := .settled (.amount (books.deposited user asset)) }
  | byAdmin {operation id circle change} (named : operation.circleId? = some id)
      (found : books.circle id = .ok circle)
      (caller : host.authorize operation.proof = .ok circle.admin)
      (administers : operation.isAdministrative = true)
      (deed : Deed host moment books circle circle.admin operation change) :
      Performs host moment books operation
        ({ books with lastActiveAt := moment.now }.install change)
  | byMember {operation id member circle change} (named : operation.circleId? = some id)
      (found : books.circle id = .ok circle)
      (caller : host.authorize operation.proof = .ok member)
      (belongs : operation.isAdministrative = false)
      (deed : Deed host moment books circle member operation change) :
      Performs host moment books operation (books.install change)

end SavingsCircle
