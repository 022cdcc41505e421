import SavingsCircle.Proofs.Custody.Deposits

/-!
# What deposits answer

A deposit answers what its entry of the books shows once its transfer is made. Until then the slip
of the deposit follows that entry, and calls that the transfer meets can sever it (`Move.severs`): a
call that fails or is refused leaves a copy in place of the books, and a withdrawal takes the entry
out. A slip that is severed keeps what it showed last, which can be an amount that was undone
(`Slip.Tracks`).

What a deposit answers is therefore what was deposited when its slip was severed
(`deposit_answers_until_severed`). It is what is deposited when the call returns if nothing severed
the slip.
-/

namespace SavingsCircle

/-- Whether a move cuts the slips of a user's deposits of an asset off from their entry. -/
def Move.severs (host : Host) (user : Address) (asset : Asset) : Move → Bool
  | .refuse _ | .fail => true
  | .write operation => operation.takesBack && operation.account? host = some (user, asset)
  | .carry _ | .conclude => false
  | .act step => (Move.act step).isReset

/-- The moves ahead of the first that severs. -/
def untilSevered (host : Host) (user : Address) (asset : Asset) (passages : List Passage) :
    List Passage :=
  passages.takeWhile fun passage => !passage.move.severs host user asset

/-- A slip that follows the entry for a user's deposits of an asset, and shows what it holds. -/
structure Slip.Shows (user : Address) (asset : Asset) (books : Books) (slip : Slip) : Prop where
  receipt : slip.receipt = .deposited user asset
  isLive : slip.isLive = true
  seen : (Receipt.deposited user asset).read? books = some slip.seen

/-- What becomes of a slip in the course of moves. -/
structure Slip.Tracks (host : Host) (user : Address) (asset : Asset) (world : World)
    (passages : List Passage) (slip later : Slip) : Prop where
  dead : slip.isLive = false → later = slip
  kept : slip.Shows user asset world.books →
    (∀ passage ∈ passages, passage.move.severs host user asset = false) →
      later.Shows user asset (worldAfter world passages).books
  severed : slip.Shows user asset world.books →
    (∃ passage ∈ passages, passage.move.severs host user asset = true) →
      later.isLive = false ∧ later.seen = .amount
        ((worldAfter world (untilSevered host user asset passages)).books.deposited user asset)

section

variable {host : Host} {user : Address} {asset : Asset} {world next written : World}
variable {books : Books} {operation : Operation} {effect : Effect} {move : Move}
variable {front back passages : List Passage} {slip middle later : Slip}

/-! ## Entries of deposits -/

theorem Receipt.eq_of_read?_deposited {seen : Answer}
    (read : (Receipt.deposited user asset).read? books = some seen) :
    seen = .amount (books.deposited user asset) := by
  obtain ⟨entry, found, rfl⟩ := Option.map_eq_some_iff.1 read
  rw [Books.deposited, found]
  rfl

theorem Receipt.read?_deposited_of_find? {others : Books}
    (same : others.custody.find? (·.isOf user asset) = books.custody.find? (·.isOf user asset)) :
    (Receipt.deposited user asset).read? others = (Receipt.deposited user asset).read? books := by
  rw [read?, read?, same]

/-- Whoever deposits has an entry afterwards. -/
theorem Receipt.isSome_read?_addDeposit (books : Books) (user : Address) (asset : Asset)
    (amount : Amount) : ((Receipt.deposited user asset).read?
      { books with custody := books.addDeposit user asset amount }).isSome := by
  rw [read?, Option.isSome_map, List.find?_isSome]
  by_cases known : books.custody.any (·.isOf user asset) = true
  · obtain ⟨entry, mem, own⟩ := List.any_eq_true.1 known
    refine ⟨{ entry with amount := Amount.add entry.amount amount }, ?_, own⟩
    rw [Books.addDeposit, if_pos known]
    exact List.mem_map.2 ⟨entry, mem, if_pos own⟩
  · refine ⟨⟨user, asset, amount⟩, ?_, by simp [CustodyEntry.isOf]⟩
    rw [Books.addDeposit, if_neg known]
    exact List.mem_append_right _ List.mem_cons_self

/-- A call that does not sever leaves the entry of a deposit there. -/
theorem Performs.isSome_read? {moment : Moment}
    (performs : Performs host moment books operation effect)
    (spares : (Move.write operation).severs host user asset = false)
    (isThere : ((Receipt.deposited user asset).read? books).isSome) :
    ((Receipt.deposited user asset).read? effect.books).isSome := by
  by_cases own : operation.account? host = some (user, asset)
  · simp only [Move.severs, own, decide_true, Bool.and_true] at spares
    cases performs with
    | deposit accepted =>
        rw [Operation.account?, accepted] at own
        obtain ⟨rfl, rfl⟩ := Prod.mk.inj (Option.some.inj own)
        exact Receipt.isSome_read?_addDeposit books _ _ _
    | emergencyWithdraw => cases spares
    | byAdmin named | byMember named =>
        rw [Operation.account?_of_circleId? named] at own
        cases own
    | _ => cases own
  · rwa [Receipt.read?_deposited_of_find? (performs.find?_of_other own)]

/-- A call that severs has taken the entry of the deposit out. -/
theorem Performs.read?_eq_none {moment : Moment}
    (performs : Performs host moment books operation effect)
    (severs : (Move.write operation).severs host user asset = true) :
    (Receipt.deposited user asset).read? effect.books = none := by
  simp only [Move.severs, Bool.and_eq_true, decide_eq_true_eq] at severs
  obtain ⟨takes, own⟩ := severs
  cases performs with
  | emergencyWithdraw accepted =>
      rw [Operation.account?, accepted] at own
      obtain ⟨rfl, rfl⟩ := Prod.mk.inj (Option.some.inj own)
      simp [Receipt.read?]
  | byAdmin named | byMember named =>
      rw [Operation.account?_of_circleId? named] at own
      cases own
  | _ => cases takes

theorem Performs.custody_of_records {moment : Moment}
    (performs : Performs host moment books operation effect) (records : effect.events ≠ []) :
    effect.books.custody = books.custody := by
  cases performs with
  | deposit | emergencyWithdraw => exact absurd rfl records
  | _ => rfl

/-! ## Slips in the course of moves -/

/-- A call that writes the books gets a slip, and the calls around it see what it wrote. -/
theorem World.slips_commit (committed : world.commit effect = .ok written) :
    written.slips =
      Slip.issue effect.receipt effect.books :: world.slips.map (·.refresh effect) := by
  obtain ⟨_, _, rfl⟩ := commit_eq_ok committed
  rfl

theorem untilSevered_of_all
    (spared : ∀ passage ∈ passages, passage.move.severs host user asset = false) :
    untilSevered host user asset passages = passages := by
  refine List.takeWhile_eq_self_iff.2 fun passage mem => ?_
  rw [spared passage mem]
  rfl

theorem worldAfter_untilSevered_cons (spares : move.severs host user asset = false) :
    worldAfter world (untilSevered host user asset (⟨move, next⟩ :: passages)) =
      worldAfter next (untilSevered host user asset passages) := by
  have head : untilSevered host user asset (⟨move, next⟩ :: passages) =
      [⟨move, next⟩] ++ untilSevered host user asset passages :=
    List.takeWhile_cons_of_pos (by simp [spares])
  rw [head, worldAfter_append]
  rfl

theorem untilSevered_append_of_all
    (spared : ∀ passage ∈ front, passage.move.severs host user asset = false) :
    untilSevered host user asset (front ++ back) = front ++ untilSevered host user asset back := by
  refine List.takeWhile_append_of_pos fun passage mem => ?_
  rw [spared passage mem]
  rfl

theorem untilSevered_append_of_exists
    (cut : ∃ passage ∈ front, passage.move.severs host user asset = true) :
    untilSevered host user asset (front ++ back) = untilSevered host user asset front := by
  rw [untilSevered, List.takeWhile_append, if_neg, untilSevered]
  intro whole
  obtain ⟨passage, mem, severs⟩ := cut
  have all := List.takeWhile_eq_self_iff.1 ((List.takeWhile_prefix _).eq_of_length whole)
  simpa [severs] using all passage mem

namespace Slip

theorem refresh_of_dead (dead : slip.isLive = false) (effect : Effect) :
    slip.refresh effect = slip := by
  simp [refresh, dead]

theorem detach_of_dead (dead : slip.isLive = false) : slip.detach = slip := by
  rw [detach, ← dead]

theorem Shows.seen_eq (shows : slip.Shows user asset books) :
    slip.seen = .amount (books.deposited user asset) :=
  Receipt.eq_of_read?_deposited shows.seen

namespace Tracks

theorem seen_eq (tracks : slip.Tracks host user asset world passages later)
    (began : slip.Shows user asset world.books) : later.seen = .amount
      ((worldAfter world (untilSevered host user asset passages)).books.deposited user asset) := by
  by_cases spared : ∀ passage ∈ passages, passage.move.severs host user asset = false
  · rw [untilSevered_of_all spared]
    exact (tracks.kept began spared).seen_eq
  · simp only [not_forall, Bool.not_eq_false] at spared
    obtain ⟨passage, mem, severs⟩ := spared
    exact (tracks.severed began ⟨passage, mem, severs⟩).2

theorem nil (world : World) (slip : Slip) : slip.Tracks host user asset world [] slip where
  dead _ := rfl
  kept began _ := began
  severed _ cut := by simp at cut

theorem append (first : slip.Tracks host user asset world front middle)
    (second : middle.Tracks host user asset (worldAfter world front) back later) :
    slip.Tracks host user asset world (front ++ back) later where
  dead dead := by rw [second.dead (first.dead dead ▸ dead), first.dead dead]
  kept began spared := by
    rw [List.forall_mem_append] at spared
    rw [worldAfter_append]
    exact second.kept (first.kept began spared.1) spared.2
  severed began cut := by
    by_cases before : ∃ passage ∈ front, passage.move.severs host user asset = true
    · -- The moves behind find a dead slip and leave it.
      obtain ⟨dead, seen⟩ := first.severed began before
      rw [untilSevered_append_of_exists before, second.dead dead]
      exact ⟨dead, seen⟩
    · simp only [not_exists, not_and, Bool.not_eq_true] at before
      obtain ⟨passage, mem, severs⟩ := cut
      have behind : passage ∈ back := (List.mem_append.1 mem).resolve_left fun ahead => by
        simp [before passage ahead] at severs
      rw [untilSevered_append_of_all before, worldAfter_append]
      exact second.severed (first.kept began before) ⟨passage, behind, severs⟩

theorem same (spares : move.severs host user asset = false)
    (books : next.books.custody = world.books.custody) (slip : Slip) :
    slip.Tracks host user asset world [⟨move, next⟩] slip where
  dead _ := rfl
  kept began _ :=
    { receipt := began.receipt
      isLive := began.isLive
      seen := (Receipt.read?_deposited_of_find? (by rw [← books]; rfl)).trans began.seen }
  severed _ cut := by simp [spares] at cut

/-- A slip that a move severs keeps what it showed. -/
theorem cut (severs : move.severs host user asset = true)
    (dead : slip.isLive = false → later = slip) (seen : slip.Shows user asset world.books →
      later.isLive = false ∧ later.seen = slip.seen) :
    slip.Tracks host user asset world [⟨move, next⟩] later where
  dead := dead
  kept _ spared := by simp [severs] at spared
  severed began _ := by
    have none : untilSevered host user asset [⟨move, next⟩] = [] := by
      simp [untilSevered, severs]
    rw [none, (seen began).2]
    exact ⟨(seen began).1, began.seen_eq⟩

theorem detach (severs : move.severs host user asset = true) (slip : Slip) :
    slip.Tracks host user asset world [⟨move, next⟩] slip.detach :=
  cut severs detach_of_dead fun _ => ⟨rfl, rfl⟩

theorem write {moment : Moment} (performs : Performs host moment world.books operation effect)
    (isBooks : written.books = effect.books) (slip : Slip) :
    slip.Tracks host user asset world [⟨.write operation, written⟩] (slip.refresh effect) := by
  cases severs : (Move.write operation).severs host user asset with
  | true =>
      refine cut severs (refresh_of_dead · effect) fun began => ?_
      have gone := performs.read?_eq_none severs
      simp [refresh, began.isLive, began.receipt, gone, Receipt.readDeparted?]
  | false =>
      refine ⟨(refresh_of_dead · effect), fun began _ => ?_, fun _ cut => ?_⟩
      · have isThere := performs.isSome_read? severs (began.seen ▸ rfl)
        obtain ⟨answer, read⟩ := Option.isSome_iff_exists.1 isThere
        have shown : slip.refresh effect = { slip with seen := answer } := by
          simp only [refresh, began.isLive, began.receipt, read, if_true]
        rw [shown]
        exact { receipt := began.receipt, isLive := began.isLive, seen := isBooks ▸ read }
      · simp [severs] at cut

/-- What a call would have recorded is about no deposits, so slips that see it show what they
showed. -/
theorem refuse {moment : Moment} (performs : Performs host moment world.books operation effect)
    (records : effect.events ≠ []) (slip : Slip) :
    slip.Tracks host user asset world [⟨.refuse operation, next⟩] (slip.refresh effect).detach := by
  refine cut rfl (fun dead => ?_) fun began => ⟨rfl, ?_⟩
  · rw [refresh_of_dead dead, detach_of_dead dead]
  · have custody := performs.custody_of_records records
    have same : (Receipt.deposited user asset).read? effect.books = some slip.seen := by
      rw [← began.seen]
      exact Receipt.read?_deposited_of_find? (by rw [custody])
    simp only [Slip.detach, refresh, began.isLive, began.receipt, same, if_true]

end Tracks

end Slip

/-- What becomes of the slips of the calls in progress in the course of moves. -/
abbrev SlipsTrack (host : Host) (user : Address) (asset : Asset) (world : World)
    (passages : List Passage) (slips later : List Slip) : Prop :=
  List.Forall₂ (Slip.Tracks host user asset world passages) slips later

namespace SlipsTrack

variable {slips middles laters : List Slip}

theorem append (first : SlipsTrack host user asset world front slips middles)
    (isNext : worldAfter world front = next)
    (second : SlipsTrack host user asset next back middles laters) :
    SlipsTrack host user asset world (front ++ back) slips laters := by
  subst isNext
  exact forall₂_comp .append first second

theorem map {change : Slip → Slip}
    (tracks : ∀ slip : Slip, slip.Tracks host user asset world passages (change slip))
    (slips : List Slip) : SlipsTrack host user asset world passages slips (slips.map change) :=
  List.forall₂_map_right_iff.2 (List.forall₂_same.2 fun slip _ => tracks slip)

theorem nil : SlipsTrack host user asset world [] slips slips :=
  List.forall₂_same.2 fun slip _ => .nil world slip

theorem same (spares : move.severs host user asset = false)
    (books : next.books.custody = world.books.custody) :
    SlipsTrack host user asset world [⟨move, next⟩] slips slips :=
  List.forall₂_same.2 fun slip _ => .same spares books slip

theorem carry {transfer : Transfer} (made : world.carry transfer = .ok next) :
    SlipsTrack host user asset world [⟨.carry transfer, next⟩] world.slips next.slips := by
  obtain ⟨_, _, rfl⟩ := World.carry_eq_ok made
  exact .same rfl rfl

end SlipsTrack

end

/-! ## Slips in the course of a run -/

section

variable (host : Host) (user : Address) (asset : Asset)

theorem Step.slips_track_of_not_call {step : Step} (noCall : step.isCall = false) (world : World) :
    SlipsTrack host user asset world (step.course host world) world.slips
      (step.run host world).1.slips := by
  cases step with
  | call => simp [isCall] at noCall
  | mint | transfer =>
      simp only [course, run, World.acted]
      split <;> exact .same rfl rfl
  | reset => exact .map (.detach rfl) _
  | _ => exact .same rfl rfl

/-- The slip of a call goes when the call ends. Those of the calls around it are severed if it
failed. -/
theorem Settlement.slips_track_conclude (settlement : Settlement) (start : World) :
    SlipsTrack host user asset settlement.world
      [⟨settlement.lastMove, (settlement.conclude host start).1⟩]
      (settlement.world.slips.drop 1) (settlement.conclude host start).1.slips := by
  simp only [lastMove, conclude]
  cases settlement.failure with
  | none => exact .same rfl rfl
  | some _ => exact .map (.detach rfl) _

/-- Transfers that meet nothing leave all slips. -/
theorem slips_track_carryCourse (transfers : List Transfer) (world : World) :
    SlipsTrack host user asset world (carryCourse transfers world) world.slips
      (world.carryAll transfers).world.slips := by
  induction transfers generalizing world with
  | nil => exact .nil
  | cons transfer transfers ih =>
      simp only [carryCourse, World.carryAll]
      cases made : world.carry transfer with
      | error _ => exact .nil
      | ok next => exact (SlipsTrack.carry made).append rfl (ih next)

mutual

/-- The slips of the calls in progress are tracked in the course of a step. -/
theorem Step.slips_track : ∀ (step : Step) (world : World),
    SlipsTrack host user asset world (step.course host world) world.slips
      (step.run host world).1.slips
  | .call operation plan, world => by
    simp only [Step.course, Step.run]
    cases performed : operation.perform host world.moment world.books with
    | error _ => exact .map (.detach rfl) _
    | ok effect =>
        have performs := performs_of_perform performed
        cases committed : world.commit effect with
        | error _ =>
            have records : effect.events ≠ [] := fun none => by
              have dated : effect.events ≠ [] → world.stamp?.isSome := fun some => absurd none some
              obtain ⟨written, done⟩ := World.exists_commit effect dated
              exact nomatch committed.symm.trans done
            have seen : (world.unrecorded effect).slips =
                world.slips.map fun slip => (slip.refresh effect).detach := List.map_map
            simp only [committed, seen]
            exact .map (.refuse performs records) _
        | ok written =>
            have isBooks := World.books_commit committed
            have first : SlipsTrack host user asset world [⟨.write operation, written⟩]
                world.slips (world.slips.map (·.refresh effect)) :=
              .map (.write performs isBooks) _
            have made := settle_slips_track plan effect.transfers written
            rw [World.slips_commit committed] at made
            -- The slip of the call itself lies on top and is taken when the call ends.
            have last := Settlement.slips_track_conclude host user asset
              (settle host plan effect.transfers written) world
            have inside : SlipsTrack host user asset written
                (settleCourse host plan effect.transfers written)
                (world.slips.map (·.refresh effect))
                ((settle host plan effect.transfers written).world.slips.drop 1) :=
              List.forall₂_drop 1 made
            simp only [committed]
            exact first.append rfl (inside.append (worldAfter_settleCourse ..) last)
  | .query _, _ | .reset, _ | .mint .., _ | .transfer .., _ | .setClock _, _ | .advance _, _
  | .setDating _, _ | .unknown, _ => Step.slips_track_of_not_call host user asset rfl _

theorem runAll_slips_track : ∀ (steps : List Step) (world : World),
    SlipsTrack host user asset world (runCourse host steps world) world.slips
      (runAll host steps world).1.slips
  | [], _ => .nil
  | step :: steps, world => by
    have first := Step.slips_track step world
    have rest := runAll_slips_track steps (step.run host world).1
    exact first.append (Step.worldAfter_course ..) rest

theorem settle_slips_track : ∀ (plan : List Encounter) (transfers : List Transfer) (world : World),
    SlipsTrack host user asset world (settleCourse host plan transfers world) world.slips
      (settle host plan transfers world).world.slips
  | [], transfers, world => slips_track_carryCourse host user asset transfers world
  | _ :: _, [], _ => .nil
  | .meets steps fault :: plan, transfer :: transfers, world => by
    have met := runAll_slips_track steps world
    simp only [settleCourse, settle]
    cases fault with
    | some _ => simpa using met
    | none =>
        cases made : (runAll host steps world).1.carry transfer with
        | error _ => simpa [made] using met
        | ok next =>
            have rest := settle_slips_track plan transfers next
            exact met.append (worldAfter_runCourse ..) ((SlipsTrack.carry made).append rfl rest)

end

end

/-! ## Answers of deposits -/

section

variable {host : Host} {user : Address} {asset : Asset} {amount : Number} {proof : Option Proof}
variable {world written : World} {operation : Operation} {effect : Effect} {plan : List Encounter}
variable {answer : Answer} {call : Step}

/-- The slip of a deposit that has just written the books shows what is deposited. -/
theorem shows_issue_of_deposit (caller : host.authorize proof = .ok user)
    (performed : (Operation.deposit proof asset amount).perform host world.moment world.books =
      .ok effect) : (Slip.issue effect.receipt effect.books).Shows user asset effect.books := by
  cases performs_of_perform performed with
  | @deposit _ _ _ _ units accepted =>
      obtain rfl := Except.ok.inj (caller.symm.trans accepted)
      obtain ⟨shown, read⟩ := Option.isSome_iff_exists.1
        (Receipt.isSome_read?_addDeposit world.books user asset units)
      refine ⟨rfl, rfl, ?_⟩
      rw [Slip.issue, read, Option.getD_some]
  | byAdmin named | byMember named => cases named

/-- A call that returns answers what its slip has come to show since it wrote the books. -/
theorem exists_tracks_of_settle (user : Address) (asset : Asset)
    (performed : operation.perform host world.moment world.books = .ok effect)
    (committed : world.commit effect = .ok written)
    (unfailed : (settle host plan effect.transfers written).failure = none) :
    ∃ (later : Slip) (passages : List Passage),
      (Step.call operation plan).course host world = ⟨.write operation, written⟩ :: passages ∧
        (Slip.issue effect.receipt effect.books).Tracks host user asset written passages later ∧
          (settle host plan effect.transfers written).world.answer = later.seen := by
  have made := settle_slips_track host user asset plan effect.transfers written
  rw [World.slips_commit committed] at made
  obtain ⟨later, _, tracks, _, isLater⟩ := List.forall₂_cons_left_iff.1 made
  have concluded : later.Tracks host user asset
      (worldAfter written (settleCourse host plan effect.transfers written))
      [⟨.conclude, (settle host plan effect.transfers written).world.taken⟩] later :=
    .same rfl (by rw [worldAfter_settleCourse]; rfl) later
  refine ⟨later, _, ?_, tracks.append concluded, ?_⟩
  · simp only [Step.course, performed, committed, Settlement.lastMove, Settlement.conclude,
      unfailed]
    rfl
  · rw [World.answer, isLater]
    rfl

/-- A deposit answers what was deposited when its slip was severed: when a call that its transfer
met was refused or failed, or took the deposit back, or the books were replaced. If nothing of this
happened, it answers what is deposited when it returns. -/
theorem deposit_answers_until_severed (caller : host.authorize proof = .ok user)
    (isDeposit : call = .call (.deposit proof asset amount) plan)
    (returned : (call.run host world).2.outcome = .ok answer) :
    answer = .amount ((worldAfter world
        (untilSevered host user asset (call.course host world))).books.deposited user asset) ∧
      ((∀ passage ∈ call.course host world, passage.move.severs host user asset = false) →
        answer = .amount ((call.run host world).1.books.deposited user asset)) := by
  have shown : answer = .amount ((worldAfter world
      (untilSevered host user asset (call.course host world))).books.deposited user asset) := by
    subst isDeposit
    obtain ⟨effect, written, performed, committed, unfailed, _, isAnswer⟩ :=
      Step.run_eq_ok returned
    obtain ⟨later, passages, isCourse, tracks, isLater⟩ :=
      exists_tracks_of_settle user asset performed committed unfailed
    have began : (Slip.issue effect.receipt effect.books).Shows user asset written.books := by
      rw [World.books_commit committed]
      exact shows_issue_of_deposit caller performed
    rw [isCourse, worldAfter_untilSevered_cons rfl, ← isAnswer, isLater]
    exact tracks.seen_eq began
  refine ⟨shown, fun spared => ?_⟩
  rw [shown, untilSevered_of_all spared, Step.worldAfter_course]

end

/-- Nothing severs the slip of a deposit whose transfer meets another deposit that returns: it
answers the sum. -/
theorem deposit_answers_until_severed_of_second_deposit :
    let deposit (amount : Nat) (plan : List Encounter) : Step :=
      .call (.deposit (Host.sample.proofOf "a") "USDC" (.ofNat amount)) plan
    let world := (runAll Host.sample [.mint "USDC" "a" (.ofNat 10)] World.sample).1
    let ran := (deposit 5 [.meets [deposit 3 []] none]).run Host.sample world
    ran.2.outcome = .ok (.amount 8) ∧ ran.1.books.deposited "a" "USDC" = 8 := by
  intro deposit world ran
  have caller : Host.sample.authorize (Host.sample.proofOf "a") = .ok "a" := by decide +kernel
  have spared : ∀ passage ∈ (deposit 5 [.meets [deposit 3 []] none]).course Host.sample world,
      passage.move.severs Host.sample "a" "USDC" = false := by decide +kernel
  have stored : ran.1.books.deposited "a" "USDC" = 8 := by decide +kernel
  have returned : ran.2.succeeds = true := by decide +kernel
  obtain ⟨answer, isAnswer⟩ := Report.succeeds_eq_true_iff.1 returned
  obtain ⟨-, exact⟩ := deposit_answers_until_severed caller rfl isAnswer
  exact ⟨isAnswer.trans (by rw [exact spared, stored]), stored⟩

/-- The transfer of a deposit of 5 meets one of 20, which is more than there is and is undone. The
first deposit still answers 25, though no more than 5 is deposited. -/
theorem deposit_answers_what_was_undone :
    let deposit (amount : Nat) (plan : List Encounter) : Step :=
      .call (.deposit (Host.sample.proofOf "a") "USDC" (.ofNat amount)) plan
    let world := (runAll Host.sample [.mint "USDC" "a" (.ofNat 10)] World.sample).1
    let ran := (deposit 5 [.meets [deposit 20 []] none]).run Host.sample world
    ran.2.outcome = .ok (.amount 25) ∧ ran.2.nested.map (·.succeeds) = [false] ∧
      ran.1.books.deposited "a" "USDC" = 5 := by
  intro deposit world ran
  exact ⟨rfl, by decide +kernel, by decide +kernel⟩

end SavingsCircle
