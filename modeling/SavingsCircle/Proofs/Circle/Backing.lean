import SavingsCircle.Proofs.Circle.Funding
import SavingsCircle.Proofs.Circle.Status
import SavingsCircle.Proofs.Run.Failure

/-!
# Circles are funded

Every call leaves a circle backed (`Deed.backed`), so all circles of a run are (`circle_is_funded`).
As long as nobody was paid out without having contributed or been covered, the balance therefore
never stands in the way of paying out those who have, and in the end of giving back to everyone what
can be refunded.
-/

namespace SavingsCircle

section

variable {host : Host} {moment : Moment} {books : Books} {circle : Circle} {caller : Address}
variable {operation : Operation} {change : Change} {funding : Funding}

/-- A swap hands the standing of a member on. -/
theorem Swapping.backed {former successor : Address} (sound : circle.Sound)
    (backed : circle.Backed books.records funding) (plain : change.circle.IsPlain)
    (swapping : Swapping moment books circle former successor change) :
    change.circle.Backed change.records (change.events.foldl Funding.next funding) := by
  cases swapping with
  | same => exact backed
  | @renamed position _ _ _ _ seated _ absent recorded isRenamed areRecords =>
      subst isRenamed areRecords
      have named : successor ≠ Directory.reserved := by
        rintro rfl
        apply plain.unreserved
        rw [Circle.members_renameMember]
        exact List.mem_map.2 ⟨former, sound.indexed.mem_of_position? seated, if_pos rfl⟩
      have isNew := sound.indexed.not_mem absent named
      apply backed.renameMember isNew
      intro seat mem out
      have apart : seat.holder ≠ successor := fun same => isNew (List.mem_map.2 ⟨seat, mem, same⟩)
      have handed := Circle.statusOf_renameMember position moment.now
        (circle.renameMember former successor).directory recorded apart
      rw [Circle.isEjected, ← handed] at out
      exact out

/-- Every call that keeps the amounts exact leaves a circle backed. -/
theorem Deed.backed (sound : circle.Sound) (before : circle.IsPlain)
    (backed : circle.Backed books.records funding) (plain : change.circle.IsPlain)
    (deed : Deed host moment books circle caller operation change) :
    change.circle.Backed change.records (change.events.foldl Funding.next funding) := by
  have stays {address : Address} (mem : address ∈ circle.members)
      (unmoved : ∀ event ∈ change.events, event.moves address = false)
      (out : circle.isEjected books.records address = true) :
      circle.isEjected change.records address = true := by
    exact deed.isEjected (sound.indexed.isSome_position? mem before.unreserved) unmoved out
  cases deed with
  | handOver | finalizeAgain | withdrawNothing | finalize =>
      exact ⟨backed.tallied, backed.funds⟩
  | join _ absent =>
      have named : caller ≠ Directory.reserved := by
        rintro rfl
        exact plain.unreserved (by simp)
      apply backed.addSeat (sound.indexed.not_mem absent named)
      intro address mem out
      exact stays mem (List.forall_mem_singleton.2 rfl) out
  | @kick _ _ _ _ _ _ seat _ _ _ _ _ _ _ _ seated _ unpaid isRefund _ isOutflow _ isRemoved _
      isKept =>
      obtain ⟨here, rfl⟩ := sound.indexed.holder_of_seat? seated
      have entry := backed.tallied.entry seat (List.mem_of_getElem? here)
      have due := Circle.refundable_le_owedTo sound.safe entry
      rw [Circle.refundable_eq (Nat.le_trans entry sound.safe)] at due
      have balance := plain.balance
      have reserve := plain.reserve
      subst isKept isRemoved
      simp only [Circle.balance_settle, Circle.reserve_settle] at balance reserve
      rw [Funding.foldl_decisions]
      refine Circle.Backed.settle (backed.removeSeat here ?_ ?_) sound.safe
      · intro address mem differ out
        exact stays mem (Event.unmoved_of_decisions (Event.moves_kicked.2 differ.symm)) out
      · -- A penalty that is forwarded leaves custody, and one that is retained goes to the reserve.
        rw [Amount.sub_eq_of_le balance]
        split at isOutflow
        · next forwarded =>
          rw [if_pos forwarded, isOutflow]
          simp only [unpaid] at due
          lia
        · next retained =>
          rw [if_neg retained, Amount.add_eq_of_le (by simpa only [if_neg retained] using reserve),
            isOutflow, isRefund, Amount.sub_eq (Nat.le_trans entry sound.safe)]
          simp only [unpaid] at due
          lia
  | swap _ swapping | swapByAdmin swapping => exact swapping.backed sound backed plain
  | eject =>
      rw [Funding.foldl_decisions]
      refine Circle.Backed.settle ⟨backed.tallied.mono fun seat mem out => ?_, backed.funds⟩
        sound.safe
      exact stays (List.mem_map_of_mem mem) (Event.unmoved_of_decisions rfl) out
  | requestExit =>
      refine ⟨backed.tallied.mono fun seat mem out => ?_, backed.funds⟩
      exact stays (List.mem_map_of_mem mem) (List.forall_mem_singleton.2 rfl) out
  | @fillVacancy _ _ _ _ successor _ seat _ _ _ _ _ _ _ seated _ _ absent isRefund _ isVacated _
      isKept =>
      obtain ⟨here, rfl⟩ := sound.indexed.holder_of_seat? seated
      have entry := backed.tallied.entry seat (List.mem_of_getElem? here)
      have due := Circle.refundable_le_owedTo sound.safe entry
      have balance := plain.balance
      have unreserved := plain.unreserved
      subst isKept isVacated
      simp only [Circle.balance_settle, Circle.members_settle] at balance unreserved
      have named : successor ≠ Directory.reserved := by
        rintro rfl
        apply unreserved
        change Directory.reserved ∈ (circle.vacateSeat _ seat.holder Directory.reserved).members
        rw [Circle.members_vacateSeat]
        obtain ⟨inside, _⟩ := List.getElem?_eq_some_iff.1 here
        exact List.mem_set (by simpa [Circle.members] using inside) _
      rw [Funding.foldl_decisions]
      have isNew := sound.indexed.not_mem absent named
      refine Circle.Backed.settle (backed.vacateSeat here isNew ?_ ?_) sound.safe
      · intro address mem differ out
        have apart : successor ≠ address := fun same => isNew (same ▸ mem)
        refine stays mem (Event.unmoved_of_decisions ?_) out
        exact Event.moves_vacancyFilled.2 ⟨differ.symm, apart⟩
      · rw [Amount.sub_eq_of_le balance, isRefund]
        lia
  | processPayout isOpen _ active unpaid _ _ _ _ isPaid =>
      obtain ⟨takesPart, seated⟩ := Circle.seat?_of_activeSeat? active
      obtain ⟨here, rfl⟩ := sound.indexed.holder_of_seat? seated
      subst isPaid
      rw [Event.foldl_payout fun _ => rfl]
      exact backed.paySeat sound.safe isOpen here takesPart unpaid plain.balance
  | rollover isOpen complete => exact backed.rollOver sound.safe isOpen complete
  | @contribute _ _ _ seat _ lateFee insuranceFee amount _ active idle _ _ _ isAmount =>
      obtain ⟨takesPart, seated⟩ := Circle.seat?_of_activeSeat? active
      obtain ⟨here, rfl⟩ := sound.indexed.holder_of_seat? seated
      have nothing := backed.tallied.idle seat (List.mem_of_getElem? here) idle takesPart
      have balance : Amount.add circle.balance amount = circle.balance + amount :=
        Amount.add_eq_of_le plain.balance
      have reserve : Amount.add circle.reserve lateFee = circle.reserve + lateFee :=
        Amount.add_eq_of_le plain.reserve
      have insurance : Amount.add circle.insurance insuranceFee = circle.insurance + insuranceFee :=
        Amount.add_eq_of_le plain.insurance
      have whole : amount = circle.contribution + lateFee + insuranceFee := by
        have small : amount ≤ Number.maxSafe :=
          Nat.le_trans (Nat.le_add_left ..) (balance ▸ plain.balance)
        rw [isAmount] at small ⊢
        exact Amount.add_add_eq_of_le small
      refine backed.credit sound.safe here (fun seat => { seat with
          hasContributed := true, paidIn := Amount.add seat.paidIn circle.contribution })
        rfl rfl rfl ?_ rfl ?_ rfl ?_
      · funext address
        apply Circle.isEjected_congr rfl
        rw [Records.record?_update _ _ _ _ _ (by simp)]
        split
        · rw [Option.map_map]
          rfl
        · rfl
      · rw [nothing, Amount.add_eq (by simpa using sound.safe), Nat.zero_add]
      · dsimp only
        rw [balance, reserve, insurance]
        lia
  | @coverMember _ _ _ _ seat _ _ active _ _ funded isCovered =>
      obtain ⟨here, rfl⟩ := sound.indexed.holder_of_seat? (Circle.seat?_of_activeSeat? active).2
      have entry := backed.tallied.entry seat (List.mem_of_getElem? here)
      have insurance := plain.insurance
      subst isCovered
      refine backed.credit sound.safe here (fun seat => { seat with hasContributed := true })
        rfl rfl rfl rfl rfl entry rfl ?_
      dsimp only at insurance ⊢
      rw [Amount.sub_eq_of_le insurance]
      change circle.contribution + circle.reserve + (circle.insurance - circle.contribution) +
        circle.balance ≤ circle.reserve + circle.insurance + circle.balance
      lia
  | proposeDissolution | voteDissolution | proposeLateFee | voteLateFee =>
      refine Circle.Backed.afterVote ?_ ?_
      · exact ⟨backed.tallied, backed.funds⟩
      · exact sound.safe
  | withdrawProRata dissolved seated isRefund =>
      obtain ⟨here, rfl⟩ := sound.indexed.holder_of_seat? seated
      subst isRefund
      exact backed.withdraw here dissolved plain.balance

/-- A payout that is refused for want of balance has passed all checks before. -/
theorem shortfall_of_processPayout {proof : Option Proof} {id : Number} {recipient : Address}
    {message : String}
    (refused : books.processPayout host moment proof id recipient =
      .error (.circle .insufficientBalance message)) :
    ∃ circle position seat, books.circle id = .ok circle ∧ circle.isDissolved = false ∧
      circle.activeSeat? books.records recipient = some (position, seat) ∧
      seat.isPaidOut = false ∧ circle.balance < circle.payoutTarget moment.now := by
  simp only [Books.processPayout, Books.byAdmin, Books.circle, Books.payoutShortfall,
    Host.authorize, Circle.demandOpen, Failure.ofKind, bind_assoc, bind_eq_error, demand_eq_error,
    demandSome_eq_error, demand_eq_ok, demandSome_eq_ok, pure, Except.pure, Failure.circle.injEq,
    reduceCtorEq, Bool.not_eq_true', false_and, and_false, exists_false, false_or, or_false,
    Prod.exists, not_le, true_and, exists_const] at refused
  obtain ⟨circle, found, _, _, _, _, _, _, isOpen, _, position, seat, active, unpaid, short, _⟩ :=
    refused
  exact ⟨circle, position, seat, demandSome_eq_ok.2 found, isOpen, active, unpaid, short⟩

/-- A withdrawal that the balance covers goes through and pays what can be refunded. -/
theorem perform_withdrawProRata {proof : Option Proof} {id : Number} {member : Address}
    {position : Nat} {seat : Seat} (accepted : host.authorize proof = .ok member)
    (found : books.circle id = .ok circle) (dissolved : circle.isDissolved = true)
    (seated : circle.seat? member = some (position, seat))
    (covered : circle.refundable seat ≤ circle.balance) :
    ∃ effect, (Operation.withdrawProRata proof id).perform host moment books = .ok effect ∧
      effect.receipt = .settled (.amount (circle.refundable seat)) ∧
      effect.transfers = circle.payOut host member (circle.refundable seat) := by
  by_cases nothing : circle.refundable seat = 0
  · exact ⟨books.install (circle.answering books.records moment (.amount 0)), by
      simp [Operation.perform, Books.withdrawProRata, Books.byMember, accepted, found, dissolved,
        seated, nothing, demand, demandSome, bind, Except.bind, pure, Except.pure], by
      rw [nothing]; rfl, by rw [nothing]; rfl⟩
  · refine ⟨_, by
      simp only [Operation.perform, Books.withdrawProRata, Books.byMember, accepted, found,
        dissolved, seated, nothing, covered, demand, demandSome, bind, Except.bind, pure,
        Except.pure, if_true, if_false]
      rfl, rfl, rfl⟩

end

/-- Being backed is an invariant of circles. -/
theorem circleInvariant_backed (host : Host) :
    CircleInvariant host Circle.IsPlain fun circle records past =>
      circle.Sound ∧ circle.IsPlain ∧ circle.Backed records (Funding.of past) where
  congr := by
    rintro circle records others past ⟨sound, plain, backed⟩ same
    have ejected : circle.isEjected others = circle.isEjected records := by
      funext address
      exact Circle.isEjected_congr rfl (by rw [same])
    exact ⟨sound, plain, ejected ▸ backed.tallied, backed.funds⟩
  founded := by
    intro circle records isNew
    have members : circle.members = [] := by rw [Circle.members, isNew.seats, List.map_nil]
    refine ⟨isNew.sound, ⟨by simp [members], ?_, ?_, ?_⟩, ⟨?_, ?_⟩⟩
    · exact isNew.balance ▸ Nat.zero_le _
    · exact isNew.reserve ▸ Nat.zero_le _
    · exact isNew.insurance ▸ Nat.zero_le _
    · rw [isNew.seats]
      exact ⟨List.nodup_nil, by simp, by simp, by simp [Funding.of]⟩
    · rw [isNew.seats, isNew.balance, isNew.reserve, isNew.insurance]
      exact Nat.zero_le _
  deed := by
    rintro moment books circle caller operation change past ⟨sound, before, backed⟩ deed plain
    rw [Funding.of_append]
    exact ⟨deed.sound sound, plain, deed.backed sound before backed plain⟩

namespace Circle.Backed

variable {circle : Circle} {records : Records} {funding : Funding} {position : Nat} {seat : Seat}

/-- While all payouts are funded the balance covers the payout of a member who has contributed or is
covered. -/
theorem covers_payout (backed : circle.Backed records funding) (plain : circle.IsPlain)
    (funded : funding.unfunded = 0) (here : circle.seats[position]? = some seat)
    (isOpen : circle.isDissolved = false) (contributed : seat.hasContributed = true)
    (unpaid : seat.isPaidOut = false) (now : Number) :
    circle.payoutTarget now ≤ circle.balance := by
  have due : circle.owedTo seat = circle.contribution := by
    simp [owedTo, isOpen, contributed, unpaid]
  have funds := backed.funds
  rw [sum_owedTo here, due, funded, Nat.zero_mul] at funds
  have enough : circle.contribution + circle.reserve + circle.insurance ≤ circle.balance := by lia
  exact Nat.le_trans (circle.payoutTarget_le (Nat.le_trans enough plain.balance) now) enough

/-- While all payouts are funded the balance covers what can be refunded. -/
theorem covers_refund (backed : circle.Backed records funding)
    (safe : circle.contribution ≤ Number.maxSafe) (funded : funding.unfunded = 0)
    (here : circle.seats[position]? = some seat) : circle.refundable seat ≤ circle.balance := by
  have due := refundable_le_owedTo safe (backed.tallied.entry seat (List.mem_of_getElem? here))
  have funds := backed.funds
  rw [sum_owedTo here, funded, Nat.zero_mul] at funds
  lia

end Circle.Backed

/-- In every world of a run whose circles are plain, the balance of a circle covers what it owes and
what is earmarked, but for one contribution for each payout so far that went to a member who had
neither contributed nor been covered. As long as there was none, no payout of a member who has is
refused for want of balance, in whatever order members are paid, and once the circle is dissolved
everyone is given back what can be refunded. -/
theorem circle_is_funded {host : Host} {now clock : Number} {nonce : String} {draws : Draws}
    {steps : List Step}
    (plain : ∀ passage ∈ runCourse host steps (.opened now clock nonce draws),
      ∀ circle ∈ passage.world.books.circles, circle.IsPlain) :
    ∀ world, Visits host (.opened now clock nonce draws) steps world →
      ∀ circle ∈ world.books.circles, ∀ funding,
        funding = Funding.of (history circle.id world.trail.events) →
      (∀ address, address ∈ funding.contributors ↔
        ∃ seat ∈ circle.seats, seat.holder = address ∧ seat.hasContributed = true) ∧
      (circle.seats.map circle.owedTo).sum + circle.reserve + circle.insurance ≤
        circle.balance + funding.unfunded * circle.contribution ∧
      ∀ id, world.books.circle id = .ok circle →
        (∀ proof recipient plan position seat message,
          circle.seat? recipient = some (position, seat) → seat.hasContributed = true →
          ((Step.call (.processPayout proof id recipient) plan).run host world).2.outcome =
            .error (.circle .insufficientBalance message) →
          0 < funding.unfunded) ∧
        (circle.isDissolved = true → funding.unfunded = 0 →
          ∀ member ∈ circle.members, ∀ proof, host.authorize proof = .ok member →
          ∃ position seat effect, circle.seat? member = some (position, seat) ∧
            (Operation.withdrawProRata proof id).perform host world.moment world.books =
              .ok effect ∧
            effect.receipt = .settled (.amount (circle.refundable seat)) ∧
            effect.transfers = circle.payOut host member (circle.refundable seat)) := by
  rintro world visits circle mem funding rfl
  obtain ⟨sound, isPlain, backed⟩ := (circleInvariant_backed host).holds plain visits mem
  refine ⟨backed.tallied.contributors, backed.funds, fun id found => ⟨?_, ?_⟩⟩
  · intro proof recipient plan position seat message seated contributed refused
    apply Nat.pos_of_ne_zero
    intro funded
    rcases Step.run_eq_error refused with performed | undated | ⟨_, _, _, _, ending⟩
    · obtain ⟨other, _, _, same, isOpen, active, unpaid, short⟩ :=
        shortfall_of_processPayout performed
      obtain rfl := Except.ok.inj (found.symm.trans same)
      have isSeat := (Circle.seat?_of_activeSeat? active).2
      rw [seated] at isSeat
      obtain ⟨rfl, rfl⟩ := Prod.mk.inj (Option.some.inj isSeat)
      have here := (sound.indexed.holder_of_seat? seated).1
      have enough := backed.covers_payout isPlain funded here isOpen contributed unpaid
        world.moment.now
      exact absurd short (Nat.not_lt_of_le enough)
    · simp at undated
    · rcases settle_eq_some _ _ _ ending with ⟨_, other⟩ | ⟨_, other⟩ | ⟨_, other⟩
      · simp at other
      · simp [Failure.invalidAmount] at other
      · simp at other
  · intro dissolved funded member isMember proof accepted
    have named : member ≠ Directory.reserved := fun same => isPlain.unreserved (same ▸ isMember)
    obtain ⟨position, seat, seated⟩ :=
      sound.indexed.exists_seat? (sound.indexed.complete isMember named)
    have here := (sound.indexed.holder_of_seat? seated).1
    obtain ⟨effect, paid⟩ := perform_withdrawProRata accepted found dissolved seated
      (backed.covers_refund sound.safe funded here)
    exact ⟨position, seat, effect, seated, paid⟩

/-- Someone who has contributed nothing is paid out with what the only contributor has paid in. The
circle is then short of exactly the one contribution that it still owes. -/
theorem circle_is_funded_of_unfunded_payout :
    let proof := Host.sample.proofOf "a"
    let steps : List Step :=
      [.mint "USDC" "a" (.ofNat 100), .call (.createCircle proof .sample) [],
        .call (.join proof (.ofNat 1)) [], .call (.join (Host.sample.proofOf "m") (.ofNat 1)) [],
        .call (.finalize proof (.ofNat 1)) [], .call (.contribute proof (.ofNat 1)) [],
        .call (.processPayout proof (.ofNat 1) "m") []]
    let world := (runAll Host.sample steps World.sample).1
    (∀ passage ∈ runCourse Host.sample steps World.sample,
        ∀ circle ∈ passage.world.books.circles, circle.IsPlain) ∧
      (world.books.circles.map fun circle => (circle.seats.map circle.owedTo, circle.balance)) =
        [([100, 0], 0)] ∧
      ∀ circle ∈ world.books.circles, ∃ funding,
        funding = Funding.of (history circle.id world.trail.events) ∧ funding.unfunded = 1 ∧
        (circle.seats.map circle.owedTo).sum + circle.reserve + circle.insurance ≤
          circle.balance + funding.unfunded * circle.contribution := by
  intro proof steps world
  have plain : ∀ passage ∈ runCourse Host.sample steps World.sample,
      ∀ circle ∈ passage.world.books.circles, circle.IsPlain := by
    decide +kernel
  have unfunded : ∀ circle ∈ world.books.circles,
      (Funding.of (history circle.id world.trail.events)).unfunded = 1 := by
    decide +kernel
  refine ⟨plain, by decide +kernel, fun circle mem => ⟨_, rfl, unfunded circle mem, ?_⟩⟩
  exact (circle_is_funded plain world (.inl rfl) circle mem _ rfl).2.1

end SavingsCircle
