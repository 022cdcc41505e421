import SavingsCircle.Proofs.Circle.Seating
import SavingsCircle.Proofs.Custody.Payment
import SavingsCircle.Proofs.Run.Failure

/-!
# Checks that never fail

Some checks guard against books that no run leads to. A fee on payouts is set together with a
treasury (`booksKept_routesFees`), every member has a record (`circleInvariant_rostered`), and
whatever is taken from the balance of a circle was compared with the balance before
(`Deed.outflow_le`). So a payout is never refused for want of a treasury, nobody who has a seat is
missing in the records, and no balance is cut off at zero.
-/

namespace SavingsCircle

/-- Fees on payouts have somewhere to go. -/
def Books.RoutesFees (books : Books) : Prop := books.feeRate = 0 ∨ books.treasury.isSome

/-- The address that a call takes for a member's, of those that are refused if it is none. -/
def Operation.seatOf? (host : Host) : Operation → Option Address
  | .kick _ _ member _ | .eject _ _ member | .fillVacancy _ _ _ member
  | .swapByAdmin _ _ member _ => some member
  | .swap proof _ _ => (host.authorize proof).toOption
  | _ => none

/-- What a call that pays out of a circle takes from its balance. -/
def Operation.outflow? (host : Host) (books : Books) (circle : Circle) :
    Operation → Option Amount
  | .kick _ _ member penalty => do
    let (_, seat) ← circle.seat? member
    let penalty ← penalty.safeNat?
    let fined := if 0 < penalty then books.treasury else none
    return if fined.isSome then seat.paidIn else Amount.sub seat.paidIn penalty
  | .fillVacancy _ _ _ exiting => (circle.seat? exiting).map fun found => circle.refundable found.2
  | .processPayout .. => some circle.contribution
  | .withdrawProRata proof _ => do
    let member ← (host.authorize proof).toOption
    let (_, seat) ← circle.seat? member
    return circle.refundable seat
  | _ => none

section

variable {host : Host} {moment : Moment} {books : Books} {operation : Operation} {effect : Effect}
variable {circle : Circle} {kind : FailureKind} {message : String} {proof : Option Proof}
variable {id : Number}

/-! ## Fees have somewhere to go -/

theorem Performs.routesFees (performs : Performs host moment books operation effect)
    (routed : books.RoutesFees) : effect.books.RoutesFees := by
  cases performs with
  | claimProtocol _ _ isProtocol => exact .inl (isProtocol ▸ rfl)
  | setProtocolFee _ _ _ _ isProtocol => exact .inr (isProtocol ▸ rfl)
  | _ => exact routed

theorem booksKept_routesFees (host : Host) :
    BooksKept host (fun _ => True) fun books _ => books.RoutesFees where
  reset _ _ := .inl rfl
  write routed performed _ _ := (performs_of_perform performed).routesFees routed

/-! ## How checks fail -/

theorem Host.kind_of_rejected (rejected : host.authorize proof = .error (.circle kind message)) :
    kind = .unauthorized := by
  simp only [authorize, bind_eq_error, demandSome_eq_error, demand_eq_error] at rejected
  rcases rejected with ⟨_, other⟩ | ⟨_, _, ⟨_, same⟩ | ⟨_, _, done⟩⟩
  · cases other
  · cases same
    rfl
  · cases done

theorem Books.kind_of_missing (missing : books.circle id = .error (.circle kind message)) :
    kind = .circleNotFound := by
  rw [circle, demandSome_eq_error] at missing
  cases missing.2
  rfl

/-- A call by an administrator who is known as such, on a circle that is there, fails in its
body. -/
theorem byAdmin_fails {body : Circle → Except Failure Change}
    (refused : books.byAdmin host moment proof id body = .error (.circle kind message))
    (unknown : kind ≠ .circleNotFound) (barred : kind ≠ .unauthorized) :
    ∃ circle, books.circle id = .ok circle ∧ body circle = .error (.circle kind message) := by
  simp only [Books.byAdmin, bind_eq_error, demand_eq_error] at refused
  rcases refused with missing |
    ⟨circle, found, rejected | ⟨_, _, ⟨_, stranger⟩ | ⟨_, _, refused | ⟨_, _, done⟩⟩⟩⟩
  · exact absurd (Books.kind_of_missing missing) unknown
  · exact absurd (Host.kind_of_rejected rejected) barred
  · cases stranger
    exact absurd rfl barred
  · exact ⟨circle, found, refused⟩
  · cases done

/-- A call with a valid proof, on a circle that is there, fails in its body. -/
theorem byMember_fails {body : Address → Circle → Except Failure Change}
    (refused : books.byMember host proof id body = .error (.circle kind message))
    (unknown : kind ≠ .circleNotFound) (barred : kind ≠ .unauthorized) :
    ∃ caller circle, host.authorize proof = .ok caller ∧ books.circle id = .ok circle ∧
      body caller circle = .error (.circle kind message) := by
  simp only [Books.byMember, bind_eq_error] at refused
  rcases refused with rejected |
    ⟨caller, accepted, missing | ⟨circle, found, refused | ⟨_, _, done⟩⟩⟩
  · exact absurd (Host.kind_of_rejected rejected) barred
  · exact absurd (Books.kind_of_missing missing) unknown
  · exact ⟨caller, circle, accepted, found, refused⟩
  · cases done

/-- A payout is not refused for want of a treasury. -/
theorem processPayout_ne_unrouted (routed : books.RoutesFees) {recipient : Address} :
    (Operation.processPayout proof id recipient).perform host moment books ≠
      .error (.circle .invalidFeeConfig message) := by
  intro refused
  obtain ⟨circle, _, refused⟩ := byAdmin_fails refused (by decide) (by decide)
  simp [Circle.demandOpen, bind_eq_error, demand_eq_error, demand_eq_ok, demandSome_eq_error,
    demandSome_eq_ok, Failure.ofKind, Books.payoutShortfall, pure, Except.pure] at refused
  obtain ⟨_, _, _, _, _, _, _, ⟨charged, missing⟩, _⟩ := refused
  rcases routed with free | routed
  · rw [free] at charged
    exact charged rfl
  · rw [missing] at routed
    cases routed

/-! ## Members are found -/

/-- A seat is found for an address in a circle, but no record. -/
def Books.Unrecorded (books : Books) (circle : Circle) (member : Address) : Prop :=
  (circle.position? member).isSome ∧ books.records.record? circle.id member = none

theorem Books.unrecorded_of_seat? {member : Address} {found : Nat × Seat}
    (seated : circle.seat? member = some found)
    (missing : books.records.record? circle.id member = none) : books.Unrecorded circle member :=
  ⟨Option.isSome_iff_exists.2 ⟨_, (Circle.seat?_eq_some_iff.1 seated).1⟩, missing⟩

theorem Circle.seat?_of_position? {member : Address} (absent : circle.position? member = none) :
    circle.seat? member = none := by
  rw [seat?, absent]
  rfl

/-- A swap does not find whom it should find if there is no seat or no record. -/
theorem swapIn_eq_memberNotFound {former successor : Address}
    (refused : books.swapIn moment circle former successor =
      .error (.circle .memberNotFound message)) :
    circle.seat? former = none ∨ books.Unrecorded circle former := by
  simp [Books.swapIn, Circle.demandOpen, Records.record, bind_eq_error, demand_eq_error,
    demand_eq_ok, demandSome_eq_error, demandSome_eq_ok, Failure.ofKind, ite_eq_iff, pure,
    Except.pure] at refused
  obtain ⟨_, ⟨absent, _⟩ | ⟨⟨_, found⟩, _, _, unrecorded, _⟩⟩ := refused
  · exact .inl (Circle.seat?_of_position? absent)
  · exact .inr ⟨Option.isSome_iff_exists.2 ⟨_, found⟩, unrecorded⟩

/-- A call does not find a member if it is given an address for which no seat is found, or if there
is a seat without a record. -/
theorem Operation.perform_eq_memberNotFound
    (refused : operation.perform host moment books = .error (.circle .memberNotFound message)) :
    ∃ id circle member, operation.circleId? = some id ∧ books.circle id = .ok circle ∧
      (operation.seatOf? host = some member ∧ circle.seat? member = none ∨
        books.Unrecorded circle member) := by
  cases operation with
  | contribute =>
      obtain ⟨caller, circle, _, found, refused⟩ :=
        byMember_fails refused (by decide) (by decide)
      simp [Circle.demandOpen, Records.record, bind_eq_error, demand_eq_error, demand_eq_ok,
        demandSome_eq_error, demandSome_eq_ok, Failure.ofKind, pure, Except.pure] at refused
      obtain ⟨_, _, _, active, _, unrecorded, _⟩ := refused
      have seated := (Circle.seat?_of_activeSeat? active).2
      exact ⟨_, circle, caller, rfl, found, .inr (Books.unrecorded_of_seat? seated unrecorded)⟩
  | requestExit =>
      obtain ⟨caller, circle, _, found, refused⟩ :=
        byMember_fails refused (by decide) (by decide)
      simp [Circle.demandOpen, Records.record, bind_eq_error, demand_eq_error, demand_eq_ok,
        demandSome_eq_error, Failure.ofKind, pure, Except.pure] at refused
      obtain ⟨_, seated, unrecorded, _⟩ := refused
      exact ⟨_, circle, caller, rfl, found, .inr ⟨seated, unrecorded⟩⟩
  | kick _ _ member =>
      obtain ⟨circle, found, refused⟩ := byAdmin_fails refused (by decide) (by decide)
      simp [Circle.demandOpen, bind_eq_error, demand_eq_error, demand_eq_ok,
        demandSome_eq_error, demandSome_eq_ok, Failure.ofKind, Failure.invalidAmount, pure,
        Except.pure] at refused
      obtain ⟨_, _, absent, _⟩ := refused
      exact ⟨_, circle, member, rfl, found, .inl ⟨rfl, absent⟩⟩
  | eject _ _ member =>
      obtain ⟨circle, found, refused⟩ := byAdmin_fails refused (by decide) (by decide)
      simp [Circle.demandOpen, Records.record, bind_eq_error, demand_eq_error, demand_eq_ok,
        demandSome_eq_error, Failure.ofKind, pure, Except.pure] at refused
      obtain ⟨_, ⟨absent, _⟩ | ⟨seated, unrecorded, _⟩⟩ := refused
      · exact ⟨_, circle, member, rfl, found, .inl ⟨rfl, Circle.seat?_of_position? absent⟩⟩
      · exact ⟨_, circle, member, rfl, found, .inr ⟨seated, unrecorded⟩⟩
  | fillVacancy _ _ _ exiting =>
      obtain ⟨circle, found, refused⟩ := byAdmin_fails refused (by decide) (by decide)
      simp [Circle.demandOpen, Records.record, Host.authorize, bind_eq_error, demand_eq_error,
        demand_eq_ok, demandSome_eq_error, demandSome_eq_ok, Failure.ofKind, pure,
        Except.pure] at refused
      obtain ⟨_, _, _, _, ⟨absent, _⟩ | ⟨⟨_, _, seated⟩, unrecorded, _⟩⟩ := refused
      · exact ⟨_, circle, exiting, rfl, found, .inl ⟨rfl, absent⟩⟩
      · exact ⟨_, circle, exiting, rfl, found, .inr (Books.unrecorded_of_seat? seated unrecorded)⟩
  | swapByAdmin _ _ former =>
      obtain ⟨circle, found, refused⟩ := byAdmin_fails refused (by decide) (by decide)
      refine ⟨_, circle, former, rfl, found, ?_⟩
      exact (swapIn_eq_memberNotFound refused).imp_left fun absent => ⟨rfl, absent⟩
  | swap =>
      simp only [perform, Books.swap, bind_eq_error] at refused
      rcases refused with rejected | ⟨former, accepted, rejected | ⟨_, _, missing |
        ⟨circle, found, refused | ⟨_, _, done⟩⟩⟩⟩
      · cases Host.kind_of_rejected rejected
      · cases Host.kind_of_rejected rejected
      · cases Books.kind_of_missing missing
      · refine ⟨_, circle, former, rfl, found, ?_⟩
        refine (swapIn_eq_memberNotFound refused).imp_left fun absent => ⟨?_, absent⟩
        rw [seatOf?, accepted]
        rfl
      · cases done
  -- The calls that are left look up no record, and say otherwise if they find no seat.
  | processPayout | transferAdmin | finalize | rollover | coverMember =>
      obtain ⟨_, _, refused⟩ := byAdmin_fails refused (by decide) (by decide)
      simp [Circle.demandOpen, bind_eq_error, demand_eq_error, demandSome_eq_error, Failure.ofKind,
        Books.payoutShortfall, ite_eq_iff, pure, Except.pure] at refused
  | join | withdrawProRata | proposeDissolution | voteDissolution | proposeLateFee | voteLateFee =>
      obtain ⟨_, _, _, _, refused⟩ := byMember_fails refused (by decide) (by decide)
      simp [Circle.demandOpen, Circle.demandVoter, demandRate, bind_eq_error, demand_eq_error,
        demandSome_eq_error, Failure.ofKind, ite_eq_iff, pure, Except.pure] at refused
  | claimProtocol | adminAction | setProtocolFee | createCircle | deposit | emergencyWithdraw =>
      simp [perform, Books.claimProtocol, Books.adminAction, Books.administered,
        Books.setProtocolFee, Books.createCircle, Books.deposit, Books.emergencyWithdraw,
        Host.authorize, demandPositive, demandRate, bind_eq_error, demand_eq_error,
        demandSome_eq_error, Failure.ofKind, Failure.invalidAmount, pure, Except.pure] at refused

/-- What keeps calls on a circle from missing a member. -/
structure Circle.Attended (circle : Circle) (records : Records) : Prop where
  seated {member} : member ∈ circle.members → ∃ found, circle.seat? member = some found
  recorded {member} : member ∈ circle.members → (records.record? circle.id member).isSome
  found {member} : (circle.position? member).isSome → member ∈ circle.members

theorem Circle.Rostered.attended {records : Records} (rostered : circle.Rostered records)
    (sound : circle.Sound) (unreserved : Directory.reserved ∉ circle.members) :
    circle.Attended records where
  seated mem := by
    obtain ⟨position, seat, seated⟩ :=
      sound.indexed.exists_seat? (sound.indexed.isSome_position? mem unreserved)
    exact ⟨(position, seat), seated⟩
  recorded mem := rostered.isSome_record? mem
  found placed := by
    obtain ⟨_, placed⟩ := Option.isSome_iff_exists.1 placed
    exact sound.indexed.mem_of_position? placed

/-- A call does not find a member only if it is given an address that is none. -/
theorem Operation.not_mem_of_memberNotFound
    (attended : ∀ circle ∈ books.circles, circle.Attended books.records)
    (refused : operation.perform host moment books = .error (.circle .memberNotFound message)) :
    ∃ id circle member, operation.circleId? = some id ∧ books.circle id = .ok circle ∧
      operation.seatOf? host = some member ∧ member ∉ circle.members := by
  obtain ⟨id, circle, member, named, found, ⟨given, absent⟩ | ⟨placed, unrecorded⟩⟩ :=
    perform_eq_memberNotFound refused
  · refine ⟨id, circle, member, named, found, given, fun mem => ?_⟩
    obtain ⟨_, seat⟩ := (attended circle (Books.mem_of_circle found)).seated mem
    rw [absent] at seat
    cases seat
  · have all := attended circle (Books.mem_of_circle found)
    have recorded := all.recorded (all.found placed)
    rw [unrecorded] at recorded
    cases recorded

/-- The records of members who all have one are listed. -/
theorem exists_mapM_record {records : Records} {number : Nat} (members : List Address)
    (recorded : ∀ member ∈ members, (records.record? number member).isSome) :
    ∃ listed, members.mapM (fun member => records.record number member) = .ok listed ∧
      listed.map (·.address) = members := by
  induction members with
  | nil => exact ⟨[], rfl, rfl⟩
  | cons member members ih =>
      rw [List.forall_mem_cons] at recorded
      obtain ⟨record, found⟩ := Option.isSome_iff_exists.1 recorded.1
      obtain ⟨listed, isListed, addresses⟩ := ih recorded.2
      have isRecord : records.record number member = .ok record := record_eq_ok.2 found
      refine ⟨record :: listed, ?_, ?_⟩
      · rw [List.mapM_cons, isRecord, isListed]
        rfl
      · rw [List.map_cons, addresses, (Records.isOf_of_record? found).2]

/-! ## Balances cover what is taken -/

theorem outflow?_withdrawProRata (id : Number) (books : Books) {member : Address}
    {position : Nat} {seat : Seat} (accepted : host.authorize proof = .ok member)
    (seated : circle.seat? member = some (position, seat)) :
    (Operation.withdrawProRata proof id).outflow? host books circle =
      some (circle.refundable seat) := by
  simp [Operation.outflow?, accepted, seated, Except.toOption]

/-- What is taken from a balance is no more than the balance. -/
theorem Deed.outflow_le {caller : Address} {change : Change}
    (deed : Deed host moment books circle caller operation change)
    (accepted : host.authorize operation.proof = .ok caller)
    (safe : circle.contribution ≤ Number.maxSafe) (out : operation.paysOut = true) :
    ∃ amount, operation.outflow? host books circle = some amount ∧ amount ≤ circle.balance ∧
      (change.circle.balance = Amount.sub circle.balance amount ∨
        amount = 0 ∧ change.circle = circle) := by
  cases deed with
  | kick _ given seated _ _ isRefund isFined isOutflow covered _ _ isKept =>
      refine ⟨_, ?_, covered, .inl ?_⟩
      · simp [Operation.outflow?, given, seated, isOutflow, isFined, isRefund]
      · rw [Circle.balance_settle, isKept]
  | fillVacancy _ _ seated _ _ _ isRefund covered _ _ isKept =>
      refine ⟨_, ?_, covered, .inl ?_⟩
      · simp [Operation.outflow?, seated, isRefund]
      · rw [Circle.balance_settle, isKept]
  | processPayout _ _ _ _ covered _ _ _ isPaid =>
      refine ⟨_, rfl, (circle.contribution_le_payoutTarget safe _).trans covered, .inl ?_⟩
      rw [isPaid]
      rfl
  | @withdrawNothing _ id _ _ _ seated empty =>
      have taken := outflow?_withdrawProRata id books accepted seated
      exact ⟨0, taken.trans (congrArg some empty), Nat.zero_le _, .inr ⟨rfl, rfl⟩⟩
  | @withdrawProRata _ id _ _ _ _ seated isRefund _ covered =>
      have taken := outflow?_withdrawProRata id books accepted seated
      exact ⟨_, taken.trans (congrArg some isRefund.symm), covered, .inl rfl⟩
  | _ => cases out

end

/-- In every world of a run in which no member goes by the reserved address, no payout is refused
for want of a treasury; every member has a record, and the records of the members of a circle are
listed when they are asked for; a call misses a member only if the address it is given is none, so
contributions and requests to leave never do; and what a call takes from the balance of a circle is
no more than the balance. -/
theorem safeguards_never_fire {host : Host} {now clock : Number} {nonce : String} {draws : Draws}
    {steps : List Step} {world : World}
    (unreserved : ∀ passage ∈ runCourse host steps (.opened now clock nonce draws),
      ∀ circle ∈ passage.world.books.circles, Directory.reserved ∉ circle.members)
    (visits : Visits host (.opened now clock nonce draws) steps world) :
    (∀ proof id recipient plan message,
      ((Step.call (.processPayout proof id recipient) plan).run host world).2.outcome ≠
        .error (.circle .invalidFeeConfig message)) ∧
    (∀ circle ∈ world.books.circles, ∀ member ∈ circle.members,
      ∃ record, world.books.records.record circle.id member = .ok record) ∧
    (∀ id circle, world.books.circle id = .ok circle →
      ∃ records, (Query.members id).answer world = .ok (.members records) ∧
        records.map (·.address) = circle.members) ∧
    (∀ operation plan message,
      ((Step.call operation plan).run host world).2.outcome =
          .error (.circle .memberNotFound message) →
        ∃ id circle member, operation.circleId? = some id ∧ world.books.circle id = .ok circle ∧
          operation.seatOf? host = some member ∧ member ∉ circle.members) ∧
    (∀ proof id plan message,
      ((Step.call (.contribute proof id) plan).run host world).2.outcome ≠
          .error (.circle .memberNotFound message) ∧
        ((Step.call (.requestExit proof id) plan).run host world).2.outcome ≠
          .error (.circle .memberNotFound message)) ∧
    ∀ (operation : Operation) id circle effect, operation.paysOut = true →
      operation.circleId? = some id → world.books.circle id = .ok circle →
      operation.perform host world.moment world.books = .ok effect →
        ∃ amount next, operation.outflow? host world.books circle = some amount ∧
          amount ≤ circle.balance ∧ effect.books.circle id = .ok next ∧
          (next.balance = Amount.sub circle.balance amount ∨ amount = 0 ∧ next = circle) := by
  have routed := (booksKept_routesFees host).holds (fun _ _ => trivial) visits
  have seated := ((circleInvariant_rostered host).booksKept.holds unreserved visits).2
  have attended (circle : Circle) (mem : circle ∈ world.books.circles) :
      circle.Attended world.books.records := by
    obtain ⟨sound, named, rostered⟩ := seated circle mem
    exact rostered.attended sound named
  have missed (operation : Operation) (plan : List Encounter) (message : String)
      (failed : ((Step.call operation plan).run host world).2.outcome =
        .error (.circle .memberNotFound message)) :
      ∃ id circle member, operation.circleId? = some id ∧ world.books.circle id = .ok circle ∧
        operation.seatOf? host = some member ∧ member ∉ circle.members :=
    Operation.not_mem_of_memberNotFound attended
      (Step.perform_of_run_eq_error (by decide) failed)
  refine ⟨?_, ?_, ?_, missed, ?_, ?_⟩
  · intro proof id recipient plan message failed
    exact processPayout_ne_unrouted routed (Step.perform_of_run_eq_error (by decide) failed)
  · intro circle mem member isMember
    obtain ⟨record, found⟩ :=
      Option.isSome_iff_exists.1 ((attended circle mem).recorded isMember)
    exact ⟨record, record_eq_ok.2 found⟩
  · intro id circle found
    obtain ⟨listed, isListed, addresses⟩ := exists_mapM_record circle.members
      fun member => (attended circle (Books.mem_of_circle found)).recorded
    refine ⟨listed, ?_, addresses⟩
    rw [Query.answer, Books.membersOf, found]
    change (circle.members.mapM _ >>= _) = _
    rw [isListed]
    rfl
  · intro proof id plan message
    constructor
    · intro failed
      obtain ⟨_, _, _, _, _, given, _⟩ := missed _ plan message failed
      cases given
    · intro failed
      obtain ⟨_, _, _, _, _, given, _⟩ := missed _ plan message failed
      cases given
  · intro operation id circle effect out named found performed
    obtain ⟨caller, change, lastActiveAt, accepted, deed, rfl⟩ :=
      deed_of_perform named found performed
    obtain ⟨sound, _, _⟩ := seated circle (Books.mem_of_circle found)
    obtain ⟨amount, taken, covered, left⟩ := deed.outflow_le accepted sound.safe out
    exact ⟨amount, change.circle, taken, covered,
      Books.circle_replaceCircle found deed.lasts.id, left⟩

/-- A circle with a fee on payouts, of which a member is swapped while a contribution is on its way.
The payout that is due is charged, and covered by the balance. -/
theorem safeguards_of_charged_payout :
    let proof := Host.sample.proofOf "a"
    let id : Number := .ofNat 1
    let steps : List Step :=
      [.call (.claimProtocol proof) [], .call (.setProtocolFee proof (.ofNat 500) (some "t")) [],
        .mint "USDC" "a" (.ofNat 100), .call (.createCircle proof .sample) [],
        .call (.join proof id) [], .call (.join (Host.sample.proofOf "b") id) [],
        .call (.contribute proof id) [.meets [.call (.swapByAdmin proof id "b" "c") []] none],
        .call (.finalize proof id) []]
    let world := (runAll Host.sample steps World.sample).1
    let payout : Operation := .processPayout proof id "a"
    (∃ records, (Query.members id).answer world = .ok (.members records) ∧
        records.map (·.address) = ["a", "c"]) ∧
      (∀ message, ((Step.call payout []).run Host.sample world).2.outcome ≠
        .error (.circle .invalidFeeConfig message)) ∧
      ∃ circle, world.books.circle id = .ok circle ∧
        payout.outflow? Host.sample world.books circle = some 100 ∧ 100 ≤ circle.balance := by
  intro proof id steps world payout
  have unreserved : ∀ passage ∈ runCourse Host.sample steps World.sample,
      ∀ circle ∈ passage.world.books.circles, Directory.reserved ∉ circle.members := by
    decide +kernel
  have terms : (world.books.circle id).toOption.map
      (fun circle => (circle.members, circle.contribution)) = some (["a", "c"], 100) := by
    decide +kernel
  have fee : (payout.perform Host.sample world.moment world.books).toOption.map
      (·.transfers.length) = some 2 := by
    decide +kernel
  have visits : Visits Host.sample World.sample steps world := .inl rfl
  clear_value world
  obtain ⟨circle, found, isTerms⟩ := exists_ok_of_map_toOption terms
  obtain ⟨roster, contribution⟩ := Prod.mk.inj isTerms
  obtain ⟨effect, performed, _⟩ := exists_ok_of_map_toOption fee
  obtain ⟨routed, _, listed, _, _, covered⟩ := safeguards_never_fire unreserved visits
  refine ⟨roster ▸ listed id circle found, routed _ _ _ _, circle, found, ?_⟩
  obtain ⟨amount, _, taken, enough, _⟩ := covered payout id circle effect rfl rfl found performed
  have isAmount : amount = 100 := (Option.some.inj taken).symm.trans contribution
  exact ⟨isAmount ▸ taken, isAmount ▸ enough⟩

end SavingsCircle
