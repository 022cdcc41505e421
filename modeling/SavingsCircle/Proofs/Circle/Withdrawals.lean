import SavingsCircle.Proofs.Circle.Dissolution

/-!
# Withdrawals from dissolved circles

A withdrawal is known from the report of a run: who withdrew, and what was returned. Reports are
read in the order in which the calls begin, a call before those that its transfers met, and what a
failed call undid is left out. Along this list the circle stays as it was dissolved, each member is
returned what is refunded for the seat once, and the balance goes down by what is returned
(`Circle.Drawn`).
-/

namespace SavingsCircle

def Answer.units : Answer → Nat
  | .amount units => units
  | _ => 0

mutual

/-- The withdrawals from a circle that a step made, as its report tells. A call stands before those
that its transfers met. A call that failed has made none, and undid all that its transfers met. -/
def Step.withdrawals (host : Host) (id : Nat) : Step → Report → List (Address × Answer)
  | .call operation plan, .of (.ok answer) nested =>
    ((operation.withdrawer? host id).toList.map fun member => (member, answer)) ++
      withdrawalsMet host id plan nested
  | _, _ => []

/-- The withdrawals that steps made one after the other. -/
def withdrawalsOf (host : Host) (id : Nat) : List Step → List Report → List (Address × Answer)
  | step :: steps, report :: reports =>
    step.withdrawals host id report ++ withdrawalsOf host id steps reports
  | _, _ => []

/-- The withdrawals that the transfers of a call met. -/
def withdrawalsMet (host : Host) (id : Nat) :
    List Encounter → List Report → List (Address × Answer)
  | .meets steps _ :: plan, reports =>
    withdrawalsOf host id steps (reports.take steps.length) ++
      withdrawalsMet host id plan (reports.drop steps.length)
  | [], _ => []

end

namespace Circle

/-- A circle that came from a dissolved one by withdrawals. The first withdrawal of a member was of
what was refunded for the seat, and further ones were of nothing. -/
structure Drawn (origin circle : Circle) (made : List (Address × Answer)) : Prop where
  frozen : circle.frozen = origin.frozen
  balance : circle.balance + (made.map (·.2.units)).sum = origin.balance
  seats {member position seat} (seated : origin.seat? member = some (position, seat)) :
    ∃ now, circle.seat? member = some (position, now) ∧
      circle.refundable now = if member ∈ made.map (·.1) then 0 else origin.refundable seat
  once {earlier member answer} (first : earlier ++ [(member, answer)] <+: made) :
    ∃ position seat, origin.seat? member = some (position, seat) ∧
      answer = .amount (if member ∈ earlier.map (·.1) then 0 else origin.refundable seat)

variable {origin circle next : Circle} {made : List (Address × Answer)}

theorem refundable_of_frozen (same : next.frozen = circle.frozen) (seat : Seat) :
    next.refundable seat = circle.refundable seat := by
  have contribution : next.contribution = circle.contribution := congrArg (·.contribution) same
  rw [refundable, refundable, contribution]

theorem position?_of_frozen (same : next.frozen = circle.frozen) (address : Address) :
    next.position? address = circle.position? address := by
  have directory : next.directory = circle.directory := congrArg (·.directory) same
  rw [position?, position?, directory]

/-- Whoever has a seat had it when the circle was dissolved. -/
theorem seat?_of_frozen (same : next.frozen = circle.frozen) {member : Address} {position : Nat}
    {now : Seat} (seated : next.seat? member = some (position, now)) :
    ∃ seat, circle.seat? member = some (position, seat) := by
  obtain ⟨found, here⟩ := seat?_eq_some_iff.1 seated
  have size : next.seats.length = circle.seats.length := by
    simpa [frozen] using congrArg (·.seats.length) same
  have inside := (List.getElem?_eq_some_iff.1 here).1
  rw [size] at inside
  refine ⟨circle.seats[position], seat?_eq_some_iff.2 ⟨?_, List.getElem?_eq_getElem inside⟩⟩
  rw [← position?_of_frozen same, found]

theorem Indexed.position_ne (indexed : circle.Indexed) {member other : Address} {i j : Nat}
    {seat otherSeat : Seat} (seated : circle.seat? member = some (i, seat))
    (isOther : circle.seat? other = some (j, otherSeat)) (differ : other ≠ member) : j ≠ i := by
  rintro rfl
  have stands := indexed.stands_of_seat? seated
  rw [indexed.stands_of_seat? isOther] at stands
  exact differ (Option.some.inj stands)

namespace Drawn

theorem nil (origin : Circle) : origin.Drawn origin [] where
  frozen := rfl
  balance := rfl
  seats seated := ⟨_, seated, rfl⟩
  once first := by simp at first

/-- What a call makes of a dissolved circle goes on to be told by the withdrawals. -/
theorem extend (indexed : origin.Indexed) (safe : origin.balance ≤ Number.maxSafe)
    (drawn : origin.Drawn circle made) (frozen : next.frozen = circle.frozen)
    {withdrawn? : Option (Address × Amount)} (winds : circle.Winds next withdrawn?) :
    origin.Drawn next
      (made ++ withdrawn?.toList.map fun withdrawn => (withdrawn.1, .amount withdrawn.2)) := by
  cases winds with
  | aside seats balance =>
      simp only [Option.toList_none, List.map_nil, List.append_nil]
      refine ⟨frozen.trans drawn.frozen, by rw [balance, drawn.balance], ?_, drawn.once⟩
      intro member position seat seated
      obtain ⟨now, seated, due⟩ := drawn.seats seated
      refine ⟨now, ?_, by rw [refundable_of_frozen frozen, due]⟩
      rw [seat?_eq_some_iff] at seated ⊢
      rwa [position?_of_frozen frozen, seats]
  | @withdrawal member position seat now seated own emptied others balance =>
      simp only [Option.toList_some, List.map_cons, List.map_nil]
      obtain ⟨first, isFirst⟩ := seat?_of_frozen drawn.frozen seated
      obtain ⟨_, same, due⟩ := drawn.seats isFirst
      cases seated.symm.trans same
      refine ⟨frozen.trans drawn.frozen, ?_, ?_, ?_⟩
      · have least : circle.balance ≤ origin.balance := drawn.balance ▸ Nat.le_add_right ..
        rw [← drawn.balance, ← balance (Nat.le_trans least safe), Nat.add_right_comm, Nat.add_assoc]
        simp [Answer.units]
      · intro other place otherSeat isSeated
        by_cases differ : other = member
        · subst differ
          cases isFirst.symm.trans isSeated
          refine ⟨now, seat?_eq_some_iff.2 ⟨?_, own⟩, ?_⟩
          · rw [position?_of_frozen frozen]
            exact (seat?_eq_some_iff.1 seated).1
          · rw [refundable_of_frozen frozen, emptied, if_pos (by simp)]
        · have apart := indexed.position_ne isFirst isSeated differ
          obtain ⟨found, seated, due⟩ := drawn.seats isSeated
          refine ⟨found, ?_, ?_⟩
          · rw [seat?_eq_some_iff] at seated ⊢
            rwa [position?_of_frozen frozen, others place apart]
          · rw [refundable_of_frozen frozen, due]
            simp only [List.map_append, List.map_cons, List.map_nil, List.mem_append,
              List.mem_singleton, differ, or_false]
      · intro earlier other answer first
        rcases List.prefix_concat_iff.1 first with whole | first
        · obtain ⟨rfl, last⟩ := List.append_inj' whole rfl
          cases last
          exact ⟨position, _, isFirst, by rw [due]⟩
        · exact drawn.once first

end Drawn

end Circle

namespace Books

/-- Later books that keep a circle as far as dissolution freezes it, and its member records. -/
structure Freezes (books : Books) (origin : Circle) (later : Books) : Prop where
  numbered : later.Numbered
  circle : ∃ next ∈ later.circles, next.frozen = origin.frozen
  records (address : Address) :
    later.records.record? origin.id address = books.records.record? origin.id address

/-- Books in which a dissolved circle is as withdrawals left it. -/
structure WindsUp (books : Books) (origin : Circle) (made : List (Address × Answer)) : Prop where
  numbered : books.Numbered
  circle : ∃ circle ∈ books.circles, origin.Drawn circle made

end Books

section

variable {host : Host} {origin : Circle} {made : List (Address × Answer)} {books : Books}
variable {operation : Operation} {moment : Moment} {effect : Effect}

/-- Dissolution is final for all moves but a reset. -/
theorem kept_freezes (host : Host) (books : Books) (dissolved : origin.isDissolved = true) :
    Kept host (fun passage => passage.move.isReset = false)
      fun _ world => books.Freezes origin world.books where
  same := by
    intro pending world next freezes books _ _
    rwa [books]
  write := by
    intro pending world operation effect written freezes performed committed _
    have touches := (performs_of_perform performed).touches
    obtain ⟨circle, mem, frozen⟩ := freezes.circle
    have isDissolved := (Circle.isDissolved_of_frozen frozen).trans dissolved
    obtain ⟨next, isNext, same, records, _⟩ := touches.winds freezes.numbered mem isDissolved
    rw [Circle.id_of_frozen frozen] at records
    rw [World.books_commit committed]
    exact
      { numbered := touches.numbered freezes.numbered
        circle := ⟨next, isNext, same.trans frozen⟩
        records := fun address => (records address).trans (freezes.records address) }
  carry := by
    intro pending world transfer next freezes made _
    obtain ⟨_, _, rfl⟩ := World.carry_eq_ok made
    exact freezes
  mint freezes _ _ := freezes
  move freezes _ _ := freezes
  reset _ admitted := by simp [Move.isReset] at admitted

/-- A call that returns its settled answer is a withdrawal or leaves the withdrawals as they are. -/
theorem Books.WindsUp.write (indexed : origin.Indexed) (safe : origin.balance ≤ Number.maxSafe)
    (dissolved : origin.isDissolved = true) (windsUp : books.WindsUp origin made)
    (performed : operation.perform host moment books = .ok effect) {answer : Answer}
    (returned : ∀ settled, effect.receipt = .settled settled → answer = settled) :
    effect.books.WindsUp origin
      (made ++ (operation.withdrawer? host origin.id).toList.map fun member =>
        (member, answer)) := by
  have touches := (performs_of_perform performed).touches
  obtain ⟨circle, mem, drawn⟩ := windsUp.circle
  have isDissolved := (Circle.isDissolved_of_frozen drawn.frozen).trans dissolved
  obtain ⟨next, isNext, frozen, _, withdrawn?, winds, isMember, settled⟩ :=
    touches.winds windsUp.numbered mem isDissolved
  refine ⟨touches.numbered windsUp.numbered, next, isNext, ?_⟩
  rw [Circle.id_of_frozen drawn.frozen] at isMember
  have isLast : (operation.withdrawer? host origin.id).toList.map (fun member => (member, answer)) =
      withdrawn?.toList.map fun withdrawn => (withdrawn.1, Answer.amount withdrawn.2) := by
    rw [← isMember]
    cases withdrawn? with
    | none => rfl
    | some withdrawn => simp [returned _ (settled withdrawn rfl)]
  rw [isLast]
  exact drawn.extend indexed safe frozen winds

end

/-- A step that is no call and no reset leaves the books alone. -/
theorem Step.books_run_of_not_call {host : Host} {step : Step} {world : World}
    (noCall : step.isCall = false)
    (lasting : ∀ passage ∈ step.course host world, passage.move.isReset = false) :
    (step.run host world).1.books = world.books := by
  cases step with
  | call => simp [isCall] at noCall
  | reset => simp [course, Move.isReset] at lasting
  | mint asset target amount =>
      simp only [Step.run, World.acted]
      split <;> rfl
  | transfer asset source target amount =>
      simp only [Step.run, World.acted]
      split <;> rfl
  | _ => rfl

theorem Step.withdrawals_of_failed (host : Host) (id : Nat) (step : Step) {report : Report}
    {failure : Failure} (failed : report.outcome = .error failure) :
    step.withdrawals host id report = [] := by
  obtain ⟨outcome, nested⟩ := report
  obtain rfl : outcome = .error failure := failed
  cases step <;> rfl

theorem Step.withdrawals_of_not_call (host : Host) (id : Nat) (report : Report) {step : Step}
    (noCall : step.isCall = false) : step.withdrawals host id report = [] := by
  cases step with
  | call => simp [isCall] at noCall
  | _ => rfl

theorem withdrawalsOf_nil (host : Host) (id : Nat) (steps : List Step) :
    withdrawalsOf host id steps [] = [] := by
  cases steps <;> rfl

theorem withdrawalsMet_nil (host : Host) (id : Nat) (plan : List Encounter) :
    withdrawalsMet host id plan [] = [] := by
  induction plan with
  | nil => rfl
  | cons met plan ih =>
      obtain ⟨steps, _⟩ := met
      simp [withdrawalsMet, withdrawalsOf_nil, ih]

mutual

/-- The withdrawals that a step made tell what became of a dissolved circle. -/
theorem Step.windsUp {host : Host} {origin : Circle} (indexed : origin.Indexed)
    (safe : origin.balance ≤ Number.maxSafe) (dissolved : origin.isDissolved = true) :
    ∀ (step : Step) (world : World) (made : List (Address × Answer)),
      (∀ passage ∈ step.course host world, passage.move.isReset = false) →
      world.books.WindsUp origin made →
      (step.run host world).1.books.WindsUp origin
        (made ++ step.withdrawals host origin.id (step.run host world).2)
  | .call operation plan, world, made, lasting, windsUp => by
    cases outcome : ((Step.call operation plan).run host world).2.outcome with
    | error failure =>
        rw [Step.books_of_run_eq_error outcome]
        rw [Step.withdrawals_of_failed host origin.id _ outcome, List.append_nil]
        exact windsUp
    | ok answer =>
        obtain ⟨effect, written, performed, committed, ending, isRun, answered⟩ :=
          Step.run_eq_ok outcome
        have returned (settled : Answer) (isSettled : effect.receipt = .settled settled) :
            answer = settled := answered.symm.trans (settle_answer committed isSettled)
        have own := windsUp.write indexed safe dissolved performed returned
        rw [← World.books_commit committed] at own
        simp only [Step.course, performed, committed, List.cons_append, List.forall_mem_cons,
          List.forall_mem_append] at lasting
        have met := settle_windsUp indexed safe dissolved plan effect.transfers written _
          lasting.2.1 own ending
        rw [isRun, Step.withdrawals, ← List.append_assoc]
        exact met
  | .query _, _, _, lasting, windsUp | .reset, _, _, lasting, windsUp
  | .mint .., _, _, lasting, windsUp | .transfer .., _, _, lasting, windsUp
  | .setClock _, _, _, lasting, windsUp | .advance _, _, _, lasting, windsUp
  | .setDating _, _, _, lasting, windsUp | .unknown, _, _, lasting, windsUp => by
    rw [Step.books_run_of_not_call rfl lasting, Step.withdrawals_of_not_call _ _ _ rfl,
      List.append_nil]
    exact windsUp

/-- The withdrawals that steps made tell what became of a dissolved circle. -/
theorem runAll_windsUp {host : Host} {origin : Circle} (indexed : origin.Indexed)
    (safe : origin.balance ≤ Number.maxSafe) (dissolved : origin.isDissolved = true) :
    ∀ (steps : List Step) (world : World) (made : List (Address × Answer)),
      (∀ passage ∈ runCourse host steps world, passage.move.isReset = false) →
      world.books.WindsUp origin made →
      (runAll host steps world).1.books.WindsUp origin
        (made ++ withdrawalsOf host origin.id steps (runAll host steps world).2)
  | [], _, made, _, windsUp => by
    rw [runAll, withdrawalsOf_nil, List.append_nil]
    exact windsUp
  | step :: steps, world, made, lasting, windsUp => by
    rw [runCourse, List.forall_mem_append] at lasting
    have first := Step.windsUp indexed safe dissolved step world made lasting.1 windsUp
    have rest := runAll_windsUp indexed safe dissolved steps _ _ lasting.2 first
    rw [List.append_assoc] at rest
    exact rest

/-- The withdrawals that the transfers of a call met tell what became of a dissolved circle when all
transfers are made. -/
theorem settle_windsUp {host : Host} {origin : Circle} (indexed : origin.Indexed)
    (safe : origin.balance ≤ Number.maxSafe) (dissolved : origin.isDissolved = true) :
    ∀ (plan : List Encounter) (transfers : List Transfer) (world : World)
      (made : List (Address × Answer)),
      (∀ passage ∈ settleCourse host plan transfers world, passage.move.isReset = false) →
      world.books.WindsUp origin made →
      (settle host plan transfers world).failure = none →
      (settle host plan transfers world).world.books.WindsUp origin
        (made ++ withdrawalsMet host origin.id plan (settle host plan transfers world).reports)
  | [], transfers, world, made, _, windsUp, _ => by
    obtain ⟨_, same⟩ := world.world_carryAll transfers
    rw [settle, same, withdrawalsMet, List.append_nil]
    exact windsUp
  | _ :: _, [], world, made, _, windsUp, _ => by
    rw [settle, withdrawalsMet_nil, List.append_nil]
    exact windsUp
  | .meets steps fault :: plan, transfer :: transfers, world, made, lasting, windsUp, ending => by
    cases fault with
    | some _ => simp [settle] at ending
    | none =>
        cases carried : (runAll host steps world).1.carry transfer with
        | error _ => simp [settle, carried] at ending
        | ok next =>
            simp only [settleCourse, carried, List.forall_mem_append, List.forall_mem_cons]
              at lasting
            simp only [settle, carried, Settlement.after] at ending ⊢
            obtain ⟨before, _, after⟩ := lasting
            have met := runAll_windsUp indexed safe dissolved steps world made before windsUp
            have same : next.books = (runAll host steps world).1.books := by
              obtain ⟨_, _, rfl⟩ := World.carry_eq_ok carried
              rfl
            rw [← same] at met
            have rest :=
              settle_windsUp indexed safe dissolved plan transfers next _ after met ending
            rw [withdrawalsMet, List.take_left' (length_runAll ..),
              List.drop_left' (length_runAll ..), ← List.append_assoc]
            exact rest

end

/-- Take a world that a run ends in, and a circle dissolved in it, and let the run go on in any way
but a reset. Then the circle stays dissolved, and apart from its administrator, its balance and what
is paid in for its seats it stays as it is, with the records of its members. Each member is returned
what is refunded for the seat once, by the first withdrawal that is not undone, and nothing
afterwards; and the balance goes down by what is returned. The balance is to be in the range in
which nothing is rounded. -/
theorem dissolution_is_final {host : Host} {now clock : Number} {nonce : String} {draws : Draws}
    {steps more : List Step} {world : World} {circle : Circle}
    (reached : world = (runAll host steps (.opened now clock nonce draws)).1)
    (mem : circle ∈ world.books.circles) (dissolved : circle.isDissolved = true)
    (safe : circle.balance ≤ Number.maxSafe)
    (lasting : ∀ passage ∈ runCourse host more world, passage.move.isReset = false) :
    (∀ later, Visits host world more later →
      ∃ next, later.books.circle? circle.id = some next ∧ next.isDissolved = true ∧
        next.frozen = circle.frozen ∧
        ∀ address, later.books.records.record? circle.id address =
          world.books.records.record? circle.id address) ∧
    ∃ made, made = withdrawalsOf host circle.id more (runAll host more world).2 ∧
      (∀ earlier member answer others, made = earlier ++ (member, answer) :: others →
        ∃ position seat, circle.seat? member = some (position, seat) ∧
          answer = .amount (if member ∈ earlier.map (·.1) then 0 else circle.refundable seat)) ∧
      ∃ next, (runAll host more world).1.books.circle? circle.id = some next ∧
        next.balance + (made.map (·.2.units)).sum = circle.balance := by
  obtain ⟨numbered, sound⟩ :=
    (circleInvariant_sound host).booksKept.holds (fun _ _ _ _ => trivial) (.inl reached)
  have indexed := (sound circle mem).indexed
  constructor
  · intro later visits
    have freezes : world.books.Freezes circle later.books := by
      obtain ⟨last, others⟩ := (kept_freezes host world.books dissolved).run lasting
        ⟨numbered, ⟨circle, mem, rfl⟩, fun _ => rfl⟩
      rcases visits with rfl | ⟨passage, isPassage, rfl⟩
      · exact last
      · exact (others passage isPassage).elim fun _ freezes => freezes
    obtain ⟨next, isNext, frozen⟩ := freezes.circle
    have found := freezes.numbered.circle?_eq isNext
    rw [Circle.id_of_frozen frozen] at found
    have isDissolved := (Circle.isDissolved_of_frozen frozen).trans dissolved
    exact ⟨next, found, isDissolved, frozen, freezes.records⟩
  · have windsUp := runAll_windsUp indexed safe dissolved more world [] lasting
      ⟨numbered, circle, mem, .nil circle⟩
    rw [List.nil_append] at windsUp
    obtain ⟨next, isNext, drawn⟩ := windsUp.circle
    have found := windsUp.numbered.circle?_eq isNext
    rw [Circle.id_of_frozen drawn.frozen] at found
    refine ⟨_, rfl, ?_, next, found, drawn.balance⟩
    intro earlier member answer others whole
    exact drawn.once ⟨others, by simp [whole]⟩

/-- Two members have paid in. While the one is refunded, the same one withdraws again, and so does
the other, whose refund meets the circle being handed over. -/
theorem dissolution_is_final_of_nested_withdrawals :
    let proof := Host.sample.proofOf
    let id := Number.ofNat 1
    let steps : List Step :=
      [.mint "USDC" "a" (.ofNat 100), .mint "USDC" "m" (.ofNat 100),
        .call (.createCircle (proof "a") .sample) [], .call (.join (proof "a") id) [],
        .call (.join (proof "m") id) [], .call (.finalize (proof "a") id) [],
        .call (.contribute (proof "a") id) [], .call (.contribute (proof "m") id) [],
        .call (.proposeDissolution (proof "a") id) [],
        .call (.voteDissolution (proof "m") id) []]
    let more : List Step :=
      [.call (.withdrawProRata (proof "m") id)
        [.meets [.call (.withdrawProRata (proof "m") id) [],
          .call (.withdrawProRata (proof "a") id)
            [.meets [.call (.transferAdmin (proof "a") id (some "m")) []] none]] none],
        .call (.withdrawProRata (proof "a") id) []]
    let world := (runAll Host.sample steps World.sample).1
    let made := withdrawalsOf Host.sample 1 more (runAll Host.sample more world).2
    made.map (fun withdrawal => (withdrawal.1, withdrawal.2.units)) =
        [("m", 100), ("m", 0), ("a", 100), ("a", 0)] ∧
      ∃ circle ∈ world.books.circles, circle.isDissolved = true ∧ circle.balance = 200 ∧
        ∃ next, (runAll Host.sample more world).1.books.circle? circle.id = some next ∧
          next.isDissolved = true ∧ next.frozen = circle.frozen ∧ next.balance = 0 := by
  intro proof id steps more world made
  have withdrawn : made.map (fun withdrawal => (withdrawal.1, withdrawal.2.units)) =
      [("m", 100), ("m", 0), ("a", 100), ("a", 0)] := by
    decide +kernel
  have lasting : ∀ passage ∈ runCourse Host.sample more world, passage.move.isReset = false := by
    decide +kernel
  have isCircle : world.books.circles.map (fun circle =>
      (circle.id, circle.isDissolved, circle.balance)) = [(1, true, 200)] := by
    decide +kernel
  have reached : world = (runAll Host.sample steps World.sample).1 := rfl
  have isMade : made = withdrawalsOf Host.sample 1 more (runAll Host.sample more world).2 := rfl
  clear_value made world
  obtain ⟨circle, only, facts⟩ := List.map_eq_singleton_iff.1 isCircle
  simp only [Prod.mk.injEq] at facts
  obtain ⟨number, dissolved, balance⟩ := facts
  have mem : circle ∈ world.books.circles := only ▸ List.mem_singleton_self circle
  have safe : circle.balance ≤ Number.maxSafe := by
    rw [balance]
    decide
  obtain ⟨final, all, isAll, _, next, found, drop⟩ :=
    dissolution_is_final reached mem dissolved safe lasting
  obtain ⟨_, same, isDissolved, frozen, _⟩ := final _ (.inl rfl)
  obtain rfl := Option.some.inj (found.symm.trans same)
  refine ⟨withdrawn, circle, mem, dissolved, balance, next, found, isDissolved, frozen, ?_⟩
  rw [number, ← isMade] at isAll
  have units : all.map (·.2.units) = [100, 0, 100, 0] := by
    have second := congrArg (List.map Prod.snd) withdrawn
    rw [List.map_map] at second
    rw [isAll]
    exact second
  rw [units, balance] at drop
  exact Nat.add_right_cancel drop

end SavingsCircle
