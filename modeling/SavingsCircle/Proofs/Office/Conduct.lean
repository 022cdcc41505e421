import SavingsCircle.Proofs.Circle.Roster
import SavingsCircle.Proofs.Office.Draft
import SavingsCircle.Proofs.Service.Frame

/-!
# Procedures come to the effects of operations

Left alone, the procedure of an operation comes to the effect of the operation, and where the
operation is refused the procedure is refused for the same reason.
-/

namespace SavingsCircle

namespace Circle

variable (circle : Circle) (records : Records)

@[simp] theorem asset_sheet : circle.sheet.asset = circle.asset := rfl

@[simp] theorem asset_settle : (circle.settle records).1.asset = circle.asset :=
  settle_keeps (·.asset) fun _ _ _ _ _ _ => rfl

@[simp] theorem payOut_settle (host : Host) (target : Address) (amount : Amount) :
    (circle.settle records).1.payOut host target amount = circle.payOut host target amount :=
  settle_keeps (fun circle => circle.payOut host target amount) fun _ _ _ _ _ _ => rfl

end Circle

namespace Procedure

/-- A procedure comes to the effect that an operation has, or is refused for the same reason. -/
def Drafts (procedure : Procedure Receipt) (books : Books) (moment : Moment)
    (performed : Except Failure Effect) : Prop :=
  procedure.draft ⟨books.binder, moment, [], []⟩ = performed.map (·.draft moment.now)

/-- A procedure that has found a circle comes to the change that is made to the circle, or is
refused for the same reason. -/
def Revises (procedure : Procedure Receipt) (books : Books) (moment : Moment) (circle : Circle)
    (changed : Except Failure Change) : Prop :=
  procedure.draft ⟨books.binder.revised circle.sheet books.records, moment, [], []⟩ =
    changed.map (·.draft books.binder moment.now)

variable {host : Host} {moment : Moment} {books : Books}

section

variable {proof : Option Proof} {id : Number}

theorem draft_requireSheet_bind {γ : Type} {next : Sheet → Procedure Receipt}
    {body : Circle → Except Failure γ} {result : γ → Receipt × Draft}
    (same : ∀ circle, books.circle id = .ok circle →
      (next circle.sheet).draft ⟨books.binder, moment, [], []⟩ = (body circle).map result) :
    (requireSheet id >>= next).draft ⟨books.binder, moment, [], []⟩ =
      (books.circle id >>= body).map result := by
  rw [requireSheet, bind_assoc, draft_binder_bind, Books.sheet_binder, lift_map_bind]
  exact lift_congr same

theorem draft_of_revises (numbered : books.Numbered) {circle : Circle}
    (found : books.circle id = .ok circle) {rest : Procedure Receipt}
    {changed : Except Failure Change} (revises : rest.Revises books moment circle changed) :
    rest.draft ⟨books.binder, moment, [], []⟩ =
      (changed >>= fun change => return books.install change).map (·.draft moment.now) := by
  rw [books.map_draft_install, ← revises, numbered.revised_binder found]

/-- A call on a circle by its administrator comes to what it makes of the circle, in the books in
which the administrator was active. -/
theorem byAdmin_drafts (numbered : books.Numbered) {rest : Sheet → Procedure Receipt}
    {body : Circle → Except Failure Change}
    (same : ∀ circle, (rest circle.sheet).Revises (books.touched moment.now) moment circle
      (body circle)) :
    (requireCircleAdmin host proof id >>= rest).Drafts books moment
      (books.byAdmin host moment proof id body) := by
  simp only [Drafts, Books.byAdmin, requireCircleAdmin, bind_assoc]
  refine draft_requireSheet_bind fun circle found =>
    lift_congr fun _ _ => lift_congr fun _ _ => ?_
  have stillNumbered : (books.touched moment.now).Numbered := ⟨numbered.nodup, numbered.bounded⟩
  exact draft_of_revises stillNumbered found (same circle)

/-- A call on a circle by someone else comes to what it makes of the circle. -/
theorem byMember_drafts (numbered : books.Numbered)
    {rest : Address → Sheet → Procedure Receipt} {body : Address → Circle → Except Failure Change}
    (same : ∀ member circle, (rest member circle.sheet).Revises books moment circle
      (body member circle)) :
    Drafts (do
      let member ← host.authorize proof
      let sheet ← requireSheet id
      rest member sheet) books moment (books.byMember host proof id body) :=
  lift_congr fun member _ => draft_requireSheet_bind fun circle found =>
    draft_of_revises numbered found (same member circle)

end

/-! ## The protocol -/

variable {proof successorProof : Option Proof} {id : Number}

theorem claimProtocol_drafts :
    (claimProtocol host proof).Drafts books moment (books.claimProtocol host moment proof) :=
  lift_congr fun _ _ => lift_congr fun _ _ => rfl

theorem requireProtocolAdmin_drafts {rest : Protocol → Procedure Receipt}
    {body : Protocol → Except Failure Effect}
    (same : ∀ protocol,
      (rest protocol).draft ⟨(books.touched moment.now).binder, moment, [], []⟩ =
        (body protocol).map (·.draft moment.now)) :
    (requireProtocolAdmin host proof >>= rest).Drafts books moment
      (books.administered host proof >>= body) := by
  simp only [Drafts, Books.administered, requireProtocolAdmin, bind_assoc]
  exact lift_congr fun protocol _ => lift_congr fun _ _ => lift_congr fun _ _ => same protocol

theorem adminAction_drafts :
    (adminAction host proof).Drafts books moment (books.adminAction host moment proof) :=
  requireProtocolAdmin_drafts fun _ => rfl

theorem setProtocolFee_drafts (rate : Number) (treasury : Option Address) :
    (setProtocolFee host proof rate treasury).Drafts books moment
      (books.setProtocolFee host moment proof rate treasury) :=
  requireProtocolAdmin_drafts fun _ =>
    lift_congr fun _ _ => lift_congr fun _ _ => lift_congr fun _ _ => rfl

/-! ## Circles -/

theorem createCircle_drafts (terms : CircleTerms) :
    (createCircle host proof terms).Drafts books moment
      (books.createCircle host moment proof terms) := by
  refine lift_congr fun _ _ => lift_congr fun _ _ => lift_congr fun _ _ => lift_congr fun _ _ =>
    lift_congr fun _ _ => lift_congr fun _ _ => lift_congr fun _ _ => ?_
  extract_lets number circle
  have founded :
      Books.binder { books with circleCount := number, circles := books.circles ++ [circle] } =
        { books.binder with
          circleCount := number
          sheets := books.binder.sheets ++ [circle.sheet] } := by
    simp only [Books.binder, List.map_append, List.map_cons, List.map_nil]
  simp only [pure, Except.pure, Except.map, Effect.draft, founded]
  rfl

theorem transferAdmin_drafts (numbered : books.Numbered) (admin : Option Address) :
    (transferAdmin host proof id admin).Drafts books moment
      (books.transferAdmin host moment proof id admin) := by
  refine byAdmin_drafts numbered fun circle => lift_congr fun admin _ => lift_congr fun _ _ => ?_
  extract_lets sheet changed
  have isSheet : sheet = changed.sheet := rfl
  rw [draft_keep_bind circle.sheet sheet _ rfl, isSheet, circle_sheet]
  rfl

/-! ## Membership -/

theorem join_drafts (numbered : books.Numbered) :
    (join host proof id).Drafts books moment (books.join host moment proof id) := by
  refine byMember_drafts numbered fun member circle => ?_
  have seated : circle.sheet.members.length = circle.seats.length := List.length_map _
  rw [circle_sheet, seated]
  refine lift_congr fun _ _ => lift_congr fun _ _ => lift_congr fun _ _ => lift_congr fun _ _ => ?_
  extract_lets sheet position next
  have isLast : position = circle.seats.length := by
    rw [← seated]
    simp [position, sheet, Sheet.addSeat]
  have isNext : next = (circle.addSeat member).sheet := by
    rw [← circle.addSeat_sheet, ← isLast]
    rfl
  rw [draft_keep_bind circle.sheet sheet _ rfl, draft_keep_bind sheet next _ rfl, isNext, isLast]
  rfl

theorem kick_drafts (numbered : books.Numbered) (member : Address) (penalty : Number) :
    (kick host proof id member penalty).Drafts books moment
      (books.kick host moment proof id member penalty) := by
  refine byAdmin_drafts numbered fun circle => ?_
  rw [circle_sheet, Circle.seat?_sheet]
  refine lift_congr fun _ _ => lift_congr fun penalty _ => lift_congr fun (position, seat) _ =>
    lift_congr fun _ _ => lift_congr fun _ _ => ?_
  rw [draft_binder_bind]
  refine lift_congr fun _ _ => ?_
  extract_lets sheet next removed reindexed records
  have isSheet : sheet = removed.sheet := circle.removeSeat_sheet position
  generalize isKept : ({ removed with
      balance := _
      reserve := _ } : Circle) = kept
  have isNext : next = kept.sheet := by
    rw [← isKept]
    simp only [next, isSheet]
    rfl
  rw [draft_keep_bind circle.sheet sheet _ rfl, draft_revise_bind, draft_revise_bind,
    draft_keep_bind sheet next _ rfl, isNext, draft_settleVotes_bind]
  have areRecords :
      ((books.touched moment.now).records.reindex sheet.id sheet.directory).remove sheet.id member =
        records := by
    rw [isSheet]
    rfl
  rw [areRecords, draft_announce_bind, draft_payAll_bind, draft_payAll_bind]
  simp only [circle_sheet, Circle.id_sheet, Circle.id_settle, Circle.asset_sheet,
    Circle.asset_settle, Circle.payOut_settle]
  subst isKept
  rfl

theorem swapIn_revises (circle : Circle) (former successor : Address) :
    Revises (do
      let sheet ← swapIn circle.sheet former successor
      return .settled (.circle sheet.circle)) books moment circle
      (books.swapIn moment circle former successor) := by
  rw [swapIn, Books.swapIn, circle_sheet]
  simp only [bind_assoc]
  refine lift_congr fun _ _ => lift_congr fun position _ => ?_
  split
  · rw [pure_bind, circle_sheet]
    rfl
  simp only [bind_assoc, pure_bind]
  refine lift_congr fun _ _ => ?_
  rw [draft_keep_bind circle.sheet (circle.sheet.renameMember former successor) _ rfl,
    draft_binder_bind]
  refine lift_congr fun record _ => ?_
  let renamed := circle.renameMember former successor
  have isRenamed : (circle.sheet.renameMember former successor).reindexed = renamed.sheet :=
    circle.renameMember_sheet former successor
  have same : (circle.sheet.renameMember former successor).id = renamed.sheet.id := rfl
  rw [draft_moment_bind, isRenamed, draft_keep_bind _ renamed.sheet _ same, circle_sheet]
  rfl

theorem swap_drafts (numbered : books.Numbered) :
    (swap host proof successorProof id).Drafts books moment
      (books.swap host moment proof successorProof id) :=
  lift_congr fun former _ => lift_congr fun successor _ =>
    draft_requireSheet_bind fun circle found =>
      draft_of_revises numbered found (swapIn_revises circle former successor)

theorem swapByAdmin_drafts (numbered : books.Numbered) (former successor : Address) :
    (swapByAdmin host proof id former successor).Drafts books moment
      (books.swapByAdmin host moment proof id former successor) :=
  byAdmin_drafts numbered fun circle => swapIn_revises circle former successor

theorem eject_drafts (numbered : books.Numbered) (member : Address) :
    (eject host proof id member).Drafts books moment
      (books.eject host moment proof id member) := by
  refine byAdmin_drafts numbered fun circle => ?_
  rw [circle_sheet]
  refine lift_congr fun _ _ => lift_congr fun _ _ => ?_
  rw [draft_binder_bind]
  refine lift_congr fun record _ => lift_congr fun _ _ => ?_
  extract_lets ejected records
  rw [draft_revise_bind, draft_settleVotes_bind, draft_announce_bind]
  rfl

theorem requestExit_drafts (numbered : books.Numbered) :
    (requestExit host proof id).Drafts books moment (books.requestExit host moment proof id) := by
  refine byMember_drafts numbered fun member circle => ?_
  rw [circle_sheet]
  refine lift_congr fun _ _ => lift_congr fun _ _ => ?_
  rw [draft_binder_bind]
  exact lift_congr fun record _ => lift_congr fun _ _ => rfl

theorem fillVacancy_drafts (numbered : books.Numbered) (exiting : Address) :
    (fillVacancy host proof successorProof id exiting).Drafts books moment
      (books.fillVacancy host moment proof successorProof id exiting) := by
  refine byAdmin_drafts numbered fun circle => ?_
  rw [circle_sheet, Circle.seat?_sheet]
  refine lift_congr fun successor _ => lift_congr fun _ _ => lift_congr fun (position, seat) _ => ?_
  rw [draft_binder_bind]
  refine lift_congr fun _ _ => lift_congr fun _ _ => lift_congr fun _ _ => lift_congr fun _ _ => ?_
  rw [draft_moment_bind]
  extract_lets sheet lowered next vacated updated records
  have isVacated : sheet.reindexed = vacated.sheet :=
    circle.vacateSeat_sheet position exiting successor
  generalize isKept : ({ vacated with balance := _ } : Circle) = kept
  have isNext : next = kept.sheet := by
    rw [← isKept]
    have lowers : next =
        { sheet.reindexed with balance := Amount.sub circle.balance (circle.refundable seat) } :=
      rfl
    rw [lowers, isVacated]
    rfl
  have areRecords : (((books.touched moment.now).records.update lowered.id exiting fun record =>
        { record with status := .ejected }).reindex next.id next.directory).enroll next.id successor
          position moment.now = records := by
    rw [isNext, ← isKept]
    rfl
  rw [draft_keep_bind circle.sheet sheet _ rfl, draft_keep_bind sheet lowered _ rfl,
    draft_revise_bind, draft_keep_bind lowered next _ rfl, draft_revise_bind, draft_revise_bind,
    areRecords, isNext, draft_settleVotes_bind, draft_announce_bind, draft_payAll_bind]
  simp only [circle_sheet, Circle.id_sheet, Circle.id_settle, Circle.payOut_settle]
  subst isKept
  rfl

/-! ## Queues, payouts and cycles -/

theorem finalize_drafts (numbered : books.Numbered) :
    (finalize host proof id).Drafts books moment (books.finalize host moment proof id) := by
  refine byAdmin_drafts numbered fun circle => ?_
  have nobody : circle.sheet.members.isEmpty = circle.seats.isEmpty := List.isEmpty_map
  rw [circle_sheet, nobody]
  refine lift_congr fun _ _ => ?_
  change Procedure.draft (ite ((!circle.payoutQueue.isEmpty) = true) _ _) _ = _
  split
  · rfl
  refine lift_congr fun _ _ => ?_
  rw [draft_moment_bind]
  have drawn : (if circle.sheet.isRandomQueue then host.shuffle circle.sheet.members moment.draws
      else (circle.sheet.members, moment.draws)) =
    if circle.isRandomQueue then host.shuffle circle.members moment.draws
      else (circle.members, moment.draws) := rfl
  rw [drawn]
  obtain ⟨queue, draws⟩ := if circle.isRandomQueue then host.shuffle circle.members moment.draws
    else (circle.members, moment.draws)
  refine lift_congr fun _ _ => ?_
  extract_lets sheet
  rw [draft_leave_bind, draft_keep_bind circle.sheet sheet _ rfl]
  rfl

theorem processPayout_drafts (numbered : books.Numbered) (recipient : Address) :
    (processPayout host proof id recipient).Drafts books moment
      (books.processPayout host moment proof id recipient) := by
  refine byAdmin_drafts numbered fun circle => ?_
  rw [circle_sheet]
  refine lift_congr fun _ _ => lift_congr fun _ _ => ?_
  rw [draft_binder_bind, Circle.activeSeat?_sheet]
  refine lift_congr fun (position, seat) _ => lift_congr fun _ _ => ?_
  rw [draft_moment_bind]
  refine lift_congr fun _ _ => ?_
  rw [draft_binder_bind]
  refine lift_congr fun _ _ => ?_
  extract_lets sheet paid isComplete feeTransfers
  have isPaid : sheet = paid.sheet := (circle.paySeat_sheet position).symm
  rw [draft_keep_bind circle.sheet sheet _ rfl, draft_announce_bind, draft_binder_bind, isPaid,
    Circle.isCycleComplete_sheet]
  have noted : paid.isCycleComplete ((books.touched moment.now).binder.revised paid.sheet
      (books.touched moment.now).records).records = isComplete := rfl
  rw [noted]
  clear_value isComplete
  cases isComplete with
  | true =>
      refine (draft_announce_bind _ _).trans ?_
      rw [draft_payAll_bind, draft_payAll_bind]
      rfl
  | false =>
      refine (draft_payAll_bind _ _).trans ?_
      rw [draft_payAll_bind]
      rfl

theorem rollover_drafts (numbered : books.Numbered) :
    (rollover host proof id).Drafts books moment (books.rollover host moment proof id) := by
  refine byAdmin_drafts numbered fun circle => ?_
  rw [circle_sheet]
  refine lift_congr fun _ _ => ?_
  rw [draft_binder_bind, Circle.isCycleComplete_sheet, Circle.rollOver_sheet]
  refine lift_congr fun _ _ => ?_
  rw [draft_keep_bind circle.sheet circle.rollOver.sheet _ rfl, circle_sheet]
  rfl

/-! ## Contributions, insurance and refunds -/

theorem contribute_drafts (numbered : books.Numbered) :
    (contribute host proof id).Drafts books moment (books.contribute host moment proof id) := by
  refine byMember_drafts numbered fun member circle => ?_
  rw [circle_sheet]
  refine lift_congr fun _ _ => ?_
  rw [draft_binder_bind, Circle.activeSeat?_sheet]
  refine lift_congr fun (position, seat) seated => lift_congr fun _ _ => ?_
  rw [draft_moment_bind]
  have here := (Circle.seat?_eq_some_iff.1
    (Circle.seat?_of_activeSeat? (demandSome_eq_ok.1 seated)).2).2
  extract_lets lateFee insuranceFee amount sheet
  rw [draft_keep_bind circle.sheet sheet _ rfl, draft_binder_bind]
  refine lift_congr fun _ _ => ?_
  generalize isPaid : circle.updateSeat position _ = paid
  have isCredited : paid.sheet = _ := isPaid ▸ circle.creditSeat_sheet here circle.contribution
  have isSheet : sheet =
      { paid.sheet with
        balance := Amount.add circle.balance amount
        reserve := Amount.add circle.reserve lateFee
        insurance := Amount.add circle.insurance insuranceFee
        deadline := moment.now.add (.ofNat circle.cycleDuration) } := by
    rw [isCredited]
    rfl
  subst isPaid
  rw [isSheet]
  rfl

theorem coverMember_drafts (numbered : books.Numbered) (member : Address) :
    (coverMember host proof id member).Drafts books moment
      (books.coverMember host moment proof id member) := by
  refine byAdmin_drafts numbered fun circle => ?_
  rw [circle_sheet]
  refine lift_congr fun _ _ => ?_
  rw [draft_binder_bind, Circle.activeSeat?_sheet]
  refine lift_congr fun (position, seat) seated => lift_congr fun _ _ => lift_congr fun _ _ =>
    lift_congr fun _ _ => ?_
  extract_lets sheet paid covered
  have isCovered : sheet = covered.sheet := by
    have isPaid : paid.sheet = _ := circle.coverSeat_sheet position
    have covers : covered.sheet =
        { paid.sheet with
          insurance := Amount.sub circle.insurance circle.contribution
          isInsuranceUsed := true } :=
      rfl
    rw [covers, isPaid]
    rfl
  rw [draft_keep_bind circle.sheet sheet _ rfl, isCovered, circle_sheet]
  rfl

theorem withdrawProRata_drafts (numbered : books.Numbered) :
    (withdrawProRata host proof id).Drafts books moment
      (books.withdrawProRata host moment proof id) := by
  refine byMember_drafts numbered fun member circle => ?_
  rw [circle_sheet, Circle.seat?_sheet]
  refine lift_congr fun _ _ => lift_congr fun (position, seat) _ => ?_
  change Procedure.draft (ite (circle.refundable seat = 0) _ _) _ =
    Except.map _ (ite (circle.refundable seat = 0) _ _)
  split
  · rfl
  refine lift_congr fun _ _ => ?_
  extract_lets sheet cleared
  have isSheet : sheet =
      { cleared.sheet with balance := Amount.sub circle.balance (circle.refundable seat) } := by
    have isCleared : cleared.sheet = _ := circle.clearSeat_sheet position
    rw [isCleared]
    rfl
  rw [draft_keep_bind circle.sheet sheet _ rfl, draft_announce_bind, draft_payAll_bind, isSheet]
  rfl

/-! ## Governance -/

/-- A call by a voter comes to what it makes of the circle. -/
theorem byVoter_drafts (numbered : books.Numbered) {rest : Address × Sheet → Procedure Receipt}
    {body : Address → Circle → Except Failure Change}
    (same : ∀ member circle, (rest (member, circle.sheet)).Revises books moment circle
      (body member circle)) :
    (requireVoter host proof id >>= rest).Drafts books moment
      (books.byMember host proof id fun member circle => do
        circle.demandOpen
        circle.demandVoter books.records member
        body member circle) := by
  simp only [requireVoter, bind_assoc, pure_bind]
  refine byMember_drafts numbered fun member circle => ?_
  rw [circle_sheet]
  refine lift_congr fun _ _ => ?_
  rw [draft_binder_bind]
  exact lift_congr fun _ _ => same member circle

theorem vote_revises (circle voted : Circle) (same : circle.id = voted.id)
    (answer : Circle → Answer) :
    Revises (do
      keep voted.sheet
      let sheet ← settleVotes voted.sheet
      return .settled (answer sheet.circle)) books moment circle
      (return voted.afterVote books.records moment answer) := by
  rw [Revises, draft_keep_bind circle.sheet voted.sheet _ same, draft_settleVotes_bind,
    circle_sheet]
  rfl

theorem proposeDissolution_drafts (numbered : books.Numbered) :
    (proposeDissolution host proof id).Drafts books moment
      (books.proposeDissolution host moment proof id) := by
  refine byVoter_drafts numbered fun member circle => ?_
  let voted : Circle :=
    { circle with
      dissolutionVotes := if member ∈ circle.dissolutionVotes then circle.dissolutionVotes
        else circle.dissolutionVotes ++ [member] }
  exact vote_revises circle voted rfl fun settled => .flag settled.isDissolved

theorem voteDissolution_drafts (numbered : books.Numbered) :
    (voteDissolution host proof id).Drafts books moment
      (books.voteDissolution host moment proof id) := by
  refine byVoter_drafts numbered fun member circle => lift_congr fun _ _ => ?_
  let voted : Circle :=
    { circle with dissolutionVotes := circle.dissolutionVotes ++ [member] }
  exact vote_revises circle voted rfl fun settled => .flag settled.isDissolved

theorem proposeLateFee_drafts (numbered : books.Numbered) (rate : Number) :
    (proposeLateFee host proof id rate).Drafts books moment
      (books.proposeLateFee host moment proof id rate) := by
  refine byVoter_drafts numbered fun member circle => lift_congr fun rate _ => ?_
  let voted : Circle :=
    { circle with proposedLateFeeRate := some rate, proposalVotes := [member] }
  exact vote_revises circle voted rfl .circle

theorem voteLateFee_drafts (numbered : books.Numbered) :
    (voteLateFee host proof id).Drafts books moment
      (books.voteLateFee host moment proof id) := by
  refine byVoter_drafts numbered fun member circle =>
    lift_congr fun _ _ => lift_congr fun _ _ => ?_
  let voted : Circle := { circle with proposalVotes := circle.proposalVotes ++ [member] }
  exact vote_revises circle voted rfl .circle

/-! ## Deposits -/

theorem deposit_drafts (asset : Asset) (amount : Number) :
    (deposit host proof asset amount).Drafts books moment
      (books.deposit host moment proof asset amount) := by
  refine lift_congr fun user _ => lift_congr fun amount _ => ?_
  change Except.ok (_, Draft.mk { books.binder with
    custody := books.binder.books.addDeposit user asset amount } _ _ _) = _
  rw [books_binder]
  rfl

theorem emergencyWithdraw_drafts (asset : Asset) :
    (emergencyWithdraw host proof asset).Drafts books moment
      (books.emergencyWithdraw host moment proof asset) := by
  refine lift_congr fun user _ => ?_
  rw [draft_binder_bind, draft_moment_bind, books_binder]
  refine lift_congr fun _ _ => ?_
  rw [draft_binder_bind, books_binder, draft_alter_bind, draft_payAll_bind]
  rfl

end Procedure

/-- Left alone, the procedure of an operation comes to the effect of the operation; and where the
operation is refused, the procedure is refused for the same reason. -/
theorem Operation.procedure_drafts (operation : Operation) (host : Host) (moment : Moment)
    {books : Books} (numbered : books.Numbered) :
    (operation.procedure host).Drafts books moment (operation.perform host moment books) := by
  cases operation with
  | claimProtocol => exact Procedure.claimProtocol_drafts
  | adminAction => exact Procedure.adminAction_drafts
  | setProtocolFee => exact Procedure.setProtocolFee_drafts _ _
  | createCircle => exact Procedure.createCircle_drafts _
  | transferAdmin => exact Procedure.transferAdmin_drafts numbered _
  | join => exact Procedure.join_drafts numbered
  | kick => exact Procedure.kick_drafts numbered _ _
  | swap => exact Procedure.swap_drafts numbered
  | swapByAdmin => exact Procedure.swapByAdmin_drafts numbered _ _
  | eject => exact Procedure.eject_drafts numbered _
  | requestExit => exact Procedure.requestExit_drafts numbered
  | fillVacancy => exact Procedure.fillVacancy_drafts numbered _
  | finalize => exact Procedure.finalize_drafts numbered
  | processPayout => exact Procedure.processPayout_drafts numbered _
  | rollover => exact Procedure.rollover_drafts numbered
  | contribute => exact Procedure.contribute_drafts numbered
  | coverMember => exact Procedure.coverMember_drafts numbered _
  | proposeDissolution => exact Procedure.proposeDissolution_drafts numbered
  | voteDissolution => exact Procedure.voteDissolution_drafts numbered
  | proposeLateFee => exact Procedure.proposeLateFee_drafts numbered _
  | voteLateFee => exact Procedure.voteLateFee_drafts numbered
  | withdrawProRata => exact Procedure.withdrawProRata_drafts numbered
  | deposit => exact Procedure.deposit_drafts _ _
  | emergencyWithdraw => exact Procedure.emergencyWithdraw_drafts _

/-- Every operation keeps the four lists of each sheet equally long. -/
theorem Operation.isParallel_procedure (operation : Operation) (host : Host) {moment : Moment}
    {binder : Binder} (parallel : binder.IsParallel) (numbered : binder.books.Numbered)
    {receipt : Receipt} {draft : Draft}
    (comes : (operation.procedure host).draft ⟨binder, moment, [], []⟩ = .ok (receipt, draft)) :
    draft.binder.IsParallel := by
  have drafts := operation.procedure_drafts host moment numbered
  rw [Procedure.Drafts, binder.binder_books parallel, comes] at drafts
  cases performed : operation.perform host moment binder.books with
  | error _ => simp [performed, Except.map] at drafts
  | ok effect =>
      simp only [performed, Except.map, Effect.draft, Except.ok.injEq, Prod.mk.injEq] at drafts
      rw [drafts.2]
      exact isParallel_binder effect.books

end SavingsCircle
