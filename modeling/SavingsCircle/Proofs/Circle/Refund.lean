import SavingsCircle.Proofs.Circle.Standing
import SavingsCircle.Proofs.Circle.Status

/-!
# What a refund comes to

Every call leaves the standing of a member in line with the seat, as long as no event moves the
member (`Deed.explained`). What a dissolved circle gives back is therefore known to the unit: the
contributions made less the payouts received, and one contribution more for each cycle whose payout
the rollover forgave (`refund_of_unmoved`).
-/

namespace SavingsCircle

section

variable {host : Host} {moment : Moment} {books : Books} {circle : Circle} {caller : Address}
variable {operation : Operation} {change : Change} {member : Address} {standing : Standing}

/-- A swap leaves everyone else explained. -/
theorem Swapping.explained {former successor : Address} (sound : circle.Sound)
    (explained : circle.Explained books.records member standing)
    (unmoved : ∀ event ∈ change.events, event.moves member = false)
    (out : (circle.position? member).isSome → circle.isEjected books.records member = true →
      change.circle.isEjected change.records member = true)
    (swapping : Swapping moment books circle former successor change) :
    change.circle.Explained change.records member
      (change.events.foldl (Standing.next member) standing) := by
  have lasts := swapping.lasts
  cases swapping with
  | same => exact explained
  | renamed _ _ _ _ _ isRenamed =>
      obtain ⟨apart, differ⟩ := Event.moves_memberSwapped.1 (unmoved _ (List.mem_singleton_self _))
      subst isRenamed
      exact explained.redrawn sound.indexed lasts rfl (Circle.seatsOf_renameMember apart differ) out

/-- Every call that does not move a member leaves the member's standing in line with the seat. -/
theorem Deed.explained (sound : circle.Sound)
    (explained : circle.Explained books.records member standing)
    (unmoved : ∀ event ∈ change.events, event.moves member = false)
    (deed : Deed host moment books circle caller operation change) :
    change.circle.Explained change.records member
      (change.events.foldl (Standing.next member) standing) := by
  have lasts := deed.lasts
  have isIndexed := deed.indexed sound.indexed
  have out (seated : (circle.position? member).isSome)
      (isOut : circle.isEjected books.records member = true) :
      change.circle.isEjected change.records member = true :=
    (Circle.isEjected_congr lasts.id rfl).trans (deed.isEjected seated unmoved isOut)
  -- Only a change of the member's own seat and a rollover bear on the account. A change of any
  -- other seat can move the member's, so what is kept speaks of the seat, not of its position.
  cases deed with
  | handOver | requestExit | finalizeAgain | finalize | withdrawNothing =>
      exact explained.same lasts rfl id out
  | join _ absent =>
      have seats := circle.seatsOf_addSeat caller member
      by_cases own : caller = member
      · subst own
        obtain ⟨rfl, fresh⟩ := explained.absent absent
        refine .of_fresh fun seat mem => ?_
        rw [seats, if_pos rfl, List.mem_append, List.mem_singleton] at mem
        exact mem.elim (fresh seat) id
      · rw [if_neg own, List.append_nil] at seats
        refine explained.same lasts seats ?_ out
        rw [Circle.position?_addSeat, if_neg fun same => own same.1.symm]
        exact id
  | kick _ _ seated _ _ _ _ _ _ isRemoved _ isKept =>
      have apart := Event.moves_kicked.1
        (unmoved _ (List.mem_append_right _ (List.mem_singleton_self _)))
      obtain ⟨here, rfl⟩ := sound.indexed.holder_of_seat? seated
      subst isKept isRemoved
      rw [Standing.foldl_decisions]
      refine explained.redrawn sound.indexed lasts ?_ ?_ out
      · rw [Circle.directory_settle, Circle.members_settle]
        rfl
      · rw [Circle.seatsOf_congr Circle.seats_settle]
        exact Circle.seatsOf_removeSeat here apart
  | swap _ swapping | swapByAdmin swapping => exact swapping.explained sound explained unmoved out
  | eject =>
      rw [Standing.foldl_decisions]
      refine explained.same lasts (Circle.seatsOf_congr Circle.seats_settle _) ?_ out
      rw [Circle.position?_settle]
      exact id
  | fillVacancy _ _ seated _ _ _ _ _ isVacated _ isKept =>
      obtain ⟨apart, differ⟩ := Event.moves_vacancyFilled.1
        (unmoved _ (List.mem_append_right _ (List.mem_singleton_self _)))
      obtain ⟨here, rfl⟩ := sound.indexed.holder_of_seat? seated
      subst isKept isVacated
      rw [Standing.foldl_decisions]
      refine explained.redrawn sound.indexed lasts ?_ ?_ out
      · rw [Circle.directory_settle, Circle.members_settle]
        rfl
      · rw [Circle.seatsOf_congr Circle.seats_settle]
        exact Circle.seatsOf_vacateSeat here apart differ
  | processPayout isOpen _ active unpaid _ _ _ _ isPaid =>
      obtain ⟨takesPart, seated⟩ := Circle.seat?_of_activeSeat? active
      subst isPaid
      rw [Event.foldl_payout fun _ => rfl]
      refine explained.change sound.indexed isIndexed lasts seated rfl rfl rfl out ?_ fun other =>
        if_neg other
      rintro rfl
      have explains := explained.explains_seat sound.indexed isOpen seated
      exact .inl (explains.payOut takesPart unpaid)
  | rollover isOpen complete => exact explained.rollOver sound.safe isOpen complete
  | contribute isOpen active idle =>
      obtain ⟨takesPart, seated⟩ := Circle.seat?_of_activeSeat? active
      rw [List.foldl_cons, List.foldl_nil]
      refine explained.change sound.indexed isIndexed lasts seated rfl rfl rfl out ?_ fun other =>
        if_neg other
      rintro rfl
      have explains := explained.explains_seat sound.indexed isOpen seated
      refine .inl (Standing.Explains.mono ?_ fun _ => takesPart)
      exact explains.contribute sound.safe takesPart idle
  | coverMember isOpen active _ _ _ isCovered =>
      obtain ⟨takesPart, seated⟩ := Circle.seat?_of_activeSeat? active
      subst isCovered
      refine explained.change sound.indexed isIndexed lasts seated rfl rfl rfl out ?_ fun _ => rfl
      rintro rfl
      exact .inl (explained.explains_seat sound.indexed isOpen seated).cover
  | proposeDissolution | voteDissolution | proposeLateFee | voteLateFee =>
      dsimp only [Circle.afterVote, Circle.answering] at lasts out ⊢
      rw [← List.append_nil (Circle.settle _ _).2, Standing.foldl_decisions]
      refine explained.same lasts (Circle.seatsOf_congr Circle.seats_settle _) ?_ out
      rw [Circle.position?_settle]
      exact id
  | withdrawProRata dissolved seated =>
      refine explained.change sound.indexed isIndexed lasts seated rfl rfl rfl out ?_ fun _ => rfl
      exact fun _ => .inr ⟨dissolved, rfl⟩

/-- A withdrawal that goes through pays what can be refunded for the seat. -/
theorem withdrawal_of_perform {proof : Option Proof} {id : Number} {effect : Effect}
    (accepted : host.authorize proof = .ok member) (found : books.circle id = .ok circle)
    (performed : (Operation.withdrawProRata proof id).perform host moment books = .ok effect) :
    ∃ position seat, circle.seat? member = some (position, seat) ∧
      effect.receipt = .settled (.amount (circle.refundable seat)) ∧
      effect.transfers = circle.payOut host member (circle.refundable seat) := by
  cases performs_of_perform performed with
  | byAdmin _ _ _ administers => simp [Operation.isAdministrative] at administers
  | byMember named same caller _ deed =>
      obtain rfl := Option.some.inj named
      obtain rfl := Except.ok.inj (found.symm.trans same)
      obtain rfl := Except.ok.inj (accepted.symm.trans caller)
      cases deed with
      | withdrawNothing _ seated empty =>
          exact ⟨_, _, seated, by rw [empty]; rfl, by rw [empty]; rfl⟩
      | withdrawProRata _ seated isRefund =>
          subst isRefund
          exact ⟨_, _, seated, rfl, rfl⟩

end

/-- That the standing of everyone who was never moved explains their seat is an invariant of
circles. -/
theorem circleInvariant_explained (host : Host) :
    CircleInvariant host (fun _ => True) fun circle records past =>
      circle.Sound ∧ ∀ member, (∀ event ∈ past, event.moves member = false) →
        circle.Explained records member (.of member past) where
  congr := by
    rintro circle records others past ⟨sound, explained⟩ same
    refine ⟨sound, fun member unmoved => ?_⟩
    apply (explained member unmoved).same (Circle.Lasts.refl circle) rfl id
    intro _ out
    exact (Circle.isEjected_congr rfl (by rw [same])).trans out
  founded := by
    intro circle records isNew
    refine ⟨isNew.sound, fun member _ => .of_fresh ?_⟩
    simp [Circle.seatsOf, isNew.seats]
  deed := by
    rintro moment books circle caller operation change past ⟨sound, explained⟩ deed _
    refine ⟨deed.sound sound, fun member unmoved => ?_⟩
    rw [List.forall_mem_append] at unmoved
    rw [Standing.of_append]
    exact deed.explained sound (explained member unmoved.1) unmoved.2

/-- What a dissolved circle gives back to a member who was never moved, if it is anything, comes
together with all payouts received to a contribution for each one made and one for each payout that
a rollover forgave. It exceeds what the member has paid in and not received exactly if there was
such a payout. -/
theorem refund_of_unmoved {host : Host} {now clock : Number} {nonce : String} {draws : Draws}
    {steps : List Step} {world : World} {id : Number} {circle : Circle} {member : Address}
    {proof : Option Proof} {effect : Effect} {standing : Standing}
    (visits : Visits host (.opened now clock nonce draws) steps world)
    (found : world.books.circle id = .ok circle)
    (unmoved : ∀ event ∈ history circle.id world.trail.events, event.moves member = false)
    (isStanding : standing = .of member (history circle.id world.trail.events))
    (accepted : host.authorize proof = .ok member)
    (performed : (Operation.withdrawProRata proof id).perform host world.moment world.books =
      .ok effect) :
    ∃ refund : Nat, effect.receipt = .settled (.amount refund) ∧
      effect.transfers = circle.payOut host member refund ∧
      (0 < refund →
        refund + standing.received =
            circle.contribution * (standing.contributions + standing.forgiven) ∧
          (refund + standing.received ≤ circle.contribution * standing.contributions ↔
            standing.forgiven = 0)) := by
  subst isStanding
  obtain ⟨sound, explained⟩ := (circleInvariant_explained host).holds (fun _ _ _ _ => trivial)
    visits (Books.mem_of_circle found)
  obtain ⟨position, seat, seated, isReceipt, areTransfers⟩ :=
    withdrawal_of_perform accepted found performed
  refine ⟨circle.refundable seat, isReceipt, areTransfers, fun some => ?_⟩
  have total := (explained member unmoved).refund sound seated some
  refine ⟨total, ?_⟩
  rw [total]
  constructor
  · intro bounded
    have fewer := Nat.le_of_mul_le_mul_left bounded sound.positive
    omega
  · intro noneForgiven
    rw [noneForgiven, Nat.add_zero]

/-- The only member of a circle contributes, dissolves it and is given the contribution back. -/
theorem refund_of_unmoved_sole_member :
    let proof := Host.sample.proofOf "m"
    let id := Number.ofNat 1
    let steps : List Step :=
      [.mint "USDC" "m" (.ofNat 100), .call (.createCircle proof .sample) [],
        .call (.join proof id) [], .call (.contribute proof id) [],
        .call (.proposeDissolution proof id) []]
    let world := (runAll Host.sample steps World.sample).1
    ∃ circle effect, world.books.circle id = .ok circle ∧
      (Operation.withdrawProRata proof id).perform Host.sample world.moment world.books =
        .ok effect ∧
      effect.transfers = circle.payOut Host.sample "m" 100 ∧
      ∃ standing, standing = Standing.of "m" (history circle.id world.trail.events) ∧
        100 + standing.received ≤ circle.contribution * standing.contributions := by
  intro proof id steps world
  have isCircle : (world.books.circle id).toOption.map (fun circle =>
      (circle.asset, (history circle.id world.trail.events).all fun event => !event.moves "m",
        (Standing.of "m" (history circle.id world.trail.events)).forgiven)) =
      some ("USDC", true, 0) := by
    decide +kernel
  have isEffect : ((Operation.withdrawProRata proof id).perform Host.sample world.moment
      world.books).toOption.map (·.transfers) = some [⟨"USDC", "vault", "m", .ofNat 100⟩] := by
    decide +kernel
  obtain ⟨circle, found, facts⟩ := exists_ok_of_map_toOption isCircle
  obtain ⟨effect, performed, transfers⟩ := exists_ok_of_map_toOption isEffect
  simp only [Prod.mk.injEq, List.all_eq_true, Bool.not_eq_true'] at facts
  obtain ⟨asset, unmoved, none⟩ := facts
  have visits : Visits Host.sample World.sample steps world := .inl rfl
  clear_value world
  obtain ⟨refund, _, paid, total⟩ := refund_of_unmoved visits found unmoved rfl rfl performed
  obtain rfl : refund = 100 := by
    have same := paid.symm.trans transfers
    rw [Circle.payOut] at same
    split at same
    · simp only [List.cons.injEq, Transfer.mk.injEq, Number.ofNat, Number.ofInt,
        Number.finite.injEq] at same
      exact_mod_cast same.1.2.2.2
    · simp at same
  refine ⟨circle, effect, found, performed, paid, _, rfl, ?_⟩
  exact (total (by decide)).2.2 none

/-- A payout to a member who has not contributed is forgotten by the rollover. After it the member
contributes for the first time, has the circle dissolved and is given that contribution back, having
received one already. -/
theorem refund_exceeds_contributions :
    let proof := Host.sample.proofOf "m"
    let admin := Host.sample.proofOf "a"
    let id := Number.ofNat 1
    let steps : List Step :=
      [.mint "USDC" "a" (.ofNat 100), .mint "USDC" "m" (.ofNat 100),
        .call (.createCircle admin .sample) [], .call (.join admin id) [],
        .call (.join proof id) [], .call (.finalize admin id) [],
        .call (.contribute admin id) [], .call (.processPayout admin id "m") [],
        .call (.eject admin id "a") [], .call (.rollover admin id) [],
        .call (.contribute proof id) [], .call (.proposeDissolution proof id) []]
    let world := (runAll Host.sample steps World.sample).1
    ∃ circle effect, world.books.circle id = .ok circle ∧
      (∀ event ∈ history circle.id world.trail.events, event.moves "m" = false) ∧
      (Operation.withdrawProRata proof id).perform Host.sample world.moment world.books =
        .ok effect ∧
      effect.transfers = circle.payOut Host.sample "m" 100 ∧
      ∃ standing, standing = Standing.of "m" (history circle.id world.trail.events) ∧
        ¬100 + standing.received ≤ circle.contribution * standing.contributions := by
  intro proof admin id steps world
  have isCircle : (world.books.circle id).toOption.map (fun circle =>
      (circle.asset, (history circle.id world.trail.events).all fun event => !event.moves "m",
        circle.contribution, Standing.of "m" (history circle.id world.trail.events))) =
      some ("USDC", true, 100, ⟨1, 100, 1, true, false⟩) := by
    decide +kernel
  have isEffect : ((Operation.withdrawProRata proof id).perform Host.sample world.moment
      world.books).toOption.map (·.transfers) = some [⟨"USDC", "vault", "m", .ofNat 100⟩] := by
    decide +kernel
  obtain ⟨circle, found, facts⟩ := exists_ok_of_map_toOption isCircle
  obtain ⟨effect, performed, transfers⟩ := exists_ok_of_map_toOption isEffect
  clear_value world
  simp only [Prod.mk.injEq, List.all_eq_true, Bool.not_eq_true'] at facts
  obtain ⟨asset, unmoved, contribution, standing⟩ := facts
  refine ⟨circle, effect, found, unmoved, performed, ?_, _, rfl, ?_⟩
  · rw [transfers, Circle.payOut, asset]
    rfl
  · rw [standing, contribution]
    decide

end SavingsCircle
