import SavingsCircle.Proofs.Circle.Account

/-!
# The trail accounts for the money

The tally of a fund of a circle goes through the whole trail, because a penalty counts differently
once a treasury was named, and that belongs to no circle. A call on the circle continues the tally
by what it does to the fund, other calls leave the tally alone, and a circle that is founded has no
entries yet. The state the trail is compared with can be taken back together with the end of the
trail, but it cannot be reset, which would leave the old entries in place.
-/

namespace SavingsCircle

/-- What the events of a circle add to a fund of it. `named` says whether a treasury is named when
the first of the events is recorded. -/
def tallyFrom (fund : Fund) (id : Nat) : Bool → List Event → Int
  | _, [] => 0
  | named, event :: events =>
    (if event.circle? = some id then event.adds named fund else 0) +
      tallyFrom fund id (named || event.namesTreasury) events

/-- What all events of a circle on a trail add to a fund of it. -/
def tally (fund : Fund) (id : Nat) (events : List Event) : Int := tallyFrom fund id false events

section

variable {fund : Fund} {id : Nat} {named : Bool} {events recent : List Event}

theorem tallyFrom_append (fund : Fund) (id : Nat) (named : Bool) (events recent : List Event) :
    tallyFrom fund id named (events ++ recent) =
      tallyFrom fund id named events +
        tallyFrom fund id (named || events.any Event.namesTreasury) recent := by
  induction events generalizing named with
  | nil => simp [tallyFrom]
  | cons event events ih =>
      rw [List.cons_append, tallyFrom, tallyFrom, ih, List.any_cons, Bool.or_assoc, add_assoc]

theorem tally_append (fund : Fund) (id : Nat) (events recent : List Event) :
    tally fund id (events ++ recent) =
      tally fund id events + tallyFrom fund id (events.any Event.namesTreasury) recent := by
  rw [tally, tallyFrom_append, Bool.false_or, tally]

theorem Event.namesTreasury_of_circle? {event : Event} (own : event.circle? = some id) :
    event.namesTreasury = false := by
  cases event <;> first | rfl | simp [circle?] at own

theorem tallyFrom_own (own : ∀ event ∈ recent, event.circle? = some id) :
    tallyFrom fund id named recent = (recent.map (Event.adds named fund)).sum := by
  induction recent with
  | nil => rfl
  | cons event recent ih =>
      rw [List.forall_mem_cons] at own
      rw [tallyFrom, if_pos own.1, Event.namesTreasury_of_circle? own.1, Bool.or_false, ih own.2,
        List.map_cons, List.sum_cons]

theorem tallyFrom_other (others : ∀ event ∈ recent, event.circle? ≠ some id) :
    tallyFrom fund id named recent = 0 := by
  induction recent generalizing named with
  | nil => rfl
  | cons event recent ih =>
      rw [List.forall_mem_cons] at others
      rw [tallyFrom, if_neg others.1, ih others.2, add_zero]

end

/-- The funds of a circle are what its events add up to, which was below zero at no time. -/
structure Circle.Accounted (circle : Circle) (events : List Event) : Prop where
  funds : ∀ fund, (circle.fund fund : Int) = tally fund circle.id events
  prefixes : ∀ fund past, past <+: events → 0 ≤ tally fund circle.id past

namespace Circle.Accounted

variable {circle next : Circle} {events recent : List Event}

/-- Each fund goes on to be accounted for if the events recorded are, and if at each point of
recording them nothing or everything was added. -/
theorem extend (accounted : circle.Accounted events) (id : next.id = circle.id)
    (funds : ∀ fund, (next.fund fund : Int) = circle.fund fund +
      tallyFrom fund circle.id (events.any Event.namesTreasury) recent)
    (parts : ∀ fund part, part <+: recent →
      tallyFrom fund circle.id (events.any Event.namesTreasury) part = 0 ∨
        tallyFrom fund circle.id (events.any Event.namesTreasury) part =
          tallyFrom fund circle.id (events.any Event.namesTreasury) recent) :
    next.Accounted (events ++ recent) where
  funds fund := by
    rw [id, tally_append, funds, accounted.funds]
  prefixes := by
    rintro fund past ⟨rest, whole⟩
    rw [id]
    -- The prefix ends before the events that are recorded now, or among them.
    rcases List.append_eq_append_iff.1 whole with ⟨early, isEvents, _⟩ | ⟨part, rfl, isRecent⟩
    · exact accounted.prefixes fund past ⟨early, isEvents.symm⟩
    · rw [tally_append, ← accounted.funds]
      rcases parts fund part ⟨rest, isRecent.symm⟩ with nothing | everything
      · rw [nothing, add_zero]
        exact Int.natCast_nonneg _
      · rw [everything, ← funds]
        exact Int.natCast_nonneg _

theorem others (accounted : circle.Accounted events)
    (others : ∀ event ∈ recent, event.circle? ≠ some circle.id) :
    circle.Accounted (events ++ recent) := by
  have nothing (fund : Fund) {part : List Event} (first : part <+: recent) :
      tallyFrom fund circle.id (events.any Event.namesTreasury) part = 0 :=
    tallyFrom_other fun event mem => others event (first.subset mem)
  refine accounted.extend rfl (fun fund => ?_) fun fund part first => .inl (nothing fund first)
  rw [nothing fund List.prefix_rfl, add_zero]

/-- Events of the circle, at most one of which moves money, leave it accounted for. -/
theorem own (accounted : circle.Accounted events) (id : next.id = circle.id)
    (own : ∀ event ∈ recent, event.circle? = some circle.id)
    (once : (recent.filter Event.movesMoney).length ≤ 1)
    (funds : ∀ fund, (next.fund fund : Int) = circle.fund fund +
      (recent.map (Event.adds (events.any Event.namesTreasury) fund)).sum) :
    next.Accounted (events ++ recent) := by
  refine accounted.extend id (fun fund => ?_) fun fund part first => ?_
  · rw [tallyFrom_own own]
    exact funds fund
  · rw [tallyFrom_own own, tallyFrom_own fun event mem => own event (first.subset mem)]
    exact Event.sum_adds_prefix once first _ fund

/-- A circle that holds nothing is accounted for when it is founded. -/
theorem founded (empty : ∀ fund, circle.fund fund = 0)
    (unknown : ∀ event ∈ events, event.circle? ≠ some circle.id) (admin : Address)
    (contribution : Amount) :
    circle.Accounted (events ++ [.circleCreated circle.id admin contribution]) := by
  have before : circle.Accounted events := by
    constructor
    · intro fund
      rw [empty, tally, tallyFrom_other unknown]
      rfl
    · intro fund past first
      exact Int.le_of_eq (tallyFrom_other fun event mem => unknown event (first.subset mem)).symm
  refine before.own rfl (List.forall_mem_singleton.2 rfl) (Nat.zero_le 1) fun fund => ?_
  cases fund <;> exact (Int.add_zero _).symm

end Circle.Accounted

/-- A call on a circle leaves it accounted for. -/
theorem Deed.accounted {host : Host} {moment : Moment} {books : Books} {circle : Circle}
    {caller : Address} {operation : Operation} {change : Change} {events : List Event}
    (sound : circle.Sound) (before : circle.IsExact) (after : change.circle.IsExact)
    (named : books.treasury.isSome = events.any Event.namesTreasury)
    (accounted : circle.Accounted events)
    (deed : Deed host moment books circle caller operation change) :
    change.circle.Accounted (events ++ change.events) := by
  refine accounted.own deed.lasts.id (fun event mem => (deed.continues event mem).circle)
    deed.movesOnce fun fund => ?_
  rw [← named]
  exact deed.fund_eq sound before after fund

/-- Every circle is sound and exact and is accounted for by the trail, which knows of no circle that
is not there, and which tells whether a treasury is named. -/
structure Books.Accounted (books : Books) (events : List Event) : Prop where
  sound : books.Numbered ∧ books.Every (fun circle _ _ => circle.Sound) events
  isExact : ∀ circle ∈ books.circles, circle.IsExact
  named : books.treasury.isSome = events.any Event.namesTreasury
  known : ∀ event ∈ events, ∀ id, event.circle? = some id → id ≤ books.circleCount
  accounted : ∀ circle ∈ books.circles, circle.Accounted events

namespace Books.Accounted

variable {host : Host} {moment : Moment} {books : Books} {events : List Event}
variable {operation : Operation} {effect : Effect}

/-- A call that is not about a circle leaves the circles accounted for. -/
theorem apart (accounted : books.Accounted events) {next : Books} {recent : List Event}
    (sound : next.Numbered ∧ next.Every (fun circle _ _ => circle.Sound) (events ++ recent))
    (circles : next.circles = books.circles) (count : next.circleCount = books.circleCount)
    (named : next.treasury.isSome = (books.treasury.isSome || recent.any Event.namesTreasury))
    (apart : ∀ event ∈ recent, event.circle? = none) : next.Accounted (events ++ recent) where
  sound := sound
  isExact := circles ▸ accounted.isExact
  named := by rw [named, accounted.named, List.any_append]
  known := by
    intro event isEvent id isCircle
    rw [count]
    rcases List.mem_append.1 isEvent with isEvent | isEvent
    · exact accounted.known event isEvent id isCircle
    · simp [apart event isEvent] at isCircle
  accounted := by
    intro circle mem
    rw [circles] at mem
    exact (accounted.accounted circle mem).others fun event isEvent => by simp [apart event isEvent]

/-- A call on a circle leaves all circles accounted for, and is recorded for that circle. -/
theorem install (accounted : books.Accounted events) {circle : Circle} {caller : Address}
    {change : Change} (mem : circle ∈ books.circles)
    (deed : Deed host moment books circle caller operation change)
    (isExact : ∀ circle ∈ (books.install change).books.circles, circle.IsExact) :
    (books.treasury.isSome = (events ++ change.events).any Event.namesTreasury) ∧
    (∀ event ∈ events ++ change.events, ∀ id, event.circle? = some id → id ≤ books.circleCount) ∧
      ∀ circle ∈ (books.install change).books.circles,
        circle.Accounted (events ++ change.events) := by
  have own : ∀ event ∈ change.events, event.circle? = some circle.id := fun event mem =>
    (deed.continues event mem).circle
  refine ⟨?_, ?_, ?_⟩
  · have unnamed : change.events.any Event.namesTreasury = false := by
      rw [List.any_eq_false]
      intro event isEvent
      simp [Event.namesTreasury_of_circle? (own event isEvent)]
    rw [List.any_append, unnamed, Bool.or_false, accounted.named]
  · intro event isEvent id isCircle
    rcases List.mem_append.1 isEvent with isEvent | isEvent
    · exact accounted.known event isEvent id isCircle
    · obtain rfl := Option.some.inj ((own event isEvent).symm.trans isCircle)
      exact accounted.sound.1.bounded circle mem
  · intro other isOther
    rcases Books.mem_replaceCircle isOther with rfl | ⟨isOther, apart⟩
    · exact deed.accounted (accounted.sound.2 circle mem) (accounted.isExact circle mem)
        (isExact _ (Books.mem_replaceCircle_self mem deed.lasts.id)) accounted.named
        (accounted.accounted circle mem)
    · refine (accounted.accounted other isOther).others fun event isEvent same => apart ?_
      rw [deed.lasts.id]
      exact Option.some.inj (same.symm.trans (own event isEvent))

/-- Every call on exact books leaves them accounted for. -/
theorem write (accounted : books.Accounted events)
    (performed : operation.perform host moment books = .ok effect)
    (sound : effect.books.Numbered ∧
      effect.books.Every (fun circle _ _ => circle.Sound) (events ++ effect.events))
    (isExact : ∀ circle ∈ effect.books.circles, circle.IsExact) :
    effect.books.Accounted (events ++ effect.events) := by
  cases performs_of_perform performed with
  | claimProtocol _ unclaimed isProtocol =>
      subst isProtocol
      refine accounted.apart sound rfl rfl ?_ (by simp [Books.answering])
      simp [Books.answering, Books.treasury, unclaimed]
  | adminAction | deposit | emergencyWithdraw =>
      exact accounted.apart sound rfl rfl (Bool.or_false _).symm (by simp [Books.answering])
  | setProtocolFee _ _ _ _ isProtocol =>
      subst isProtocol
      refine accounted.apart sound rfl rfl ?_ (by simp [Event.circle?])
      simp [Books.answering, Books.treasury, Event.namesTreasury]
  | createCircle _ _ _ _ _ _ _ _ _ isCircle =>
      subst isCircle
      refine ⟨sound, isExact, ?_, ?_, ?_⟩
      · rw [List.any_append]
        exact accounted.named.trans (Bool.or_false _).symm
      · intro event isEvent id isNumber
        rcases List.mem_append.1 isEvent with isEvent | isEvent
        · exact Nat.le_succ_of_le (accounted.known event isEvent id isNumber)
        · obtain rfl := List.mem_singleton.1 isEvent
          exact Nat.le_of_eq (Option.some.inj isNumber).symm
      · intro circle mem
        rcases List.mem_append.1 mem with mem | mem
        · have bounded := accounted.sound.1.bounded circle mem
          refine (accounted.accounted circle mem).others
            (List.forall_mem_singleton.2 fun same => ?_)
          have := Option.some.inj same
          omega
        · obtain rfl := List.mem_singleton.1 mem
          -- The trail knows of no circle with the number that is given out now.
          refine .founded (fun fund => by cases fund <;> rfl) (fun event isEvent same => ?_) _ _
          exact absurd (accounted.known event isEvent _ same) (Nat.not_succ_le_self _)
  | byAdmin _ found _ _ deed | byMember _ found _ _ deed =>
      obtain ⟨named, known, every⟩ := accounted.install (Books.mem_of_circle found) deed isExact
      exact ⟨sound, isExact, named, known, every⟩

end Books.Accounted

def Move.isReset : Move → Bool
  | .act .reset => true
  | _ => false

/-- A move that is no reset and leads to circles whose amounts are exact. -/
structure Passage.IsExact (passage : Passage) : Prop where
  lasting : passage.move.isReset = false
  isExact : ∀ circle ∈ passage.world.books.circles, circle.IsExact

/-- The trail goes on to account for the money as long as nothing is reset. -/
theorem kept_accounted (host : Host) :
    Kept host Passage.IsExact fun _ world => world.books.Accounted world.trail.events where
  same := by
    intro pending world next accounted books trail _
    rwa [books, trail]
  write := by
    intro pending world operation effect written accounted performed committed admitted
    have books := World.books_commit committed
    have sound := (circleInvariant_sound host).booksKept.write accounted.sound performed
      (fun _ _ => trivial) books
    rw [books, World.events_commit committed]
    exact accounted.write performed sound (books ▸ admitted.isExact)
  carry := by
    intro pending world transfer next accounted made _
    obtain ⟨_, _, rfl⟩ := World.carry_eq_ok made
    exact accounted
  mint accounted _ _ := accounted
  move accounted _ _ := accounted
  reset _ admitted := by
    have lasting := admitted.lasting
    simp [Move.isReset] at lasting

/-- In every world of a run without resets, the balance, the reserve and the insurance of a circle
are the sums of what the events of the circle add to them, and these sums were below zero at no
point of the trail. The amounts are to stay in the range in which nothing is rounded. -/
theorem money_is_accounted_for {host : Host} {now clock : Number} {nonce : String} {draws : Draws}
    {steps : List Step}
    (lasting : ∀ passage ∈ runCourse host steps (.opened now clock nonce draws),
      passage.move.isReset = false)
    (isExact : ∀ passage ∈ runCourse host steps (.opened now clock nonce draws),
      ∀ circle ∈ passage.world.books.circles, circle.IsExact) :
    ∀ world, Visits host (.opened now clock nonce draws) steps world →
      ∀ circle ∈ world.books.circles, ∀ fund,
        (circle.fund fund : Int) = tally fund circle.id world.trail.events ∧
        ∀ past, past <+: world.trail.events → 0 ≤ tally fund circle.id past := by
  intro world visits circle mem fund
  have opened : (World.opened now clock nonce draws).books.Accounted [] :=
    ⟨(circleInvariant_sound host).booksKept.reset [] now, by simp [World.opened, Books.opened],
      rfl, by simp, by simp [World.opened, Books.opened]⟩
  obtain ⟨last, others⟩ := (kept_accounted host).run
    (fun passage isPassage => ⟨lasting passage isPassage, isExact passage isPassage⟩) opened
  have accounted : world.books.Accounted world.trail.events := by
    rcases visits with rfl | ⟨passage, isPassage, rfl⟩
    · exact last
    · exact (others passage isPassage).elim fun _ accounted => accounted
  have circles := accounted.accounted circle mem
  exact ⟨circles.funds fund, circles.prefixes fund⟩

/-- One member is removed before a treasury is named and one after it. While the second is paid, a
cover is refused and a member contributes. -/
theorem money_is_accounted_for_of_two_penalties :
    let proof := Host.sample.proofOf
    let steps : List Step :=
      [.mint "USDC" "a" (.ofNat 110), .mint "USDC" "b" (.ofNat 110), .mint "USDC" "c" (.ofNat 110),
        .call (.createCircle (proof "a")
          { CircleTerms.sample with insuranceFeeRate := some (.ofNat 1000) }) [],
        .call (.join (proof "a") (.ofNat 1)) [], .call (.join (proof "b") (.ofNat 1)) [],
        .call (.join (proof "c") (.ofNat 1)) [], .call (.contribute (proof "b") (.ofNat 1)) [],
        .call (.contribute (proof "c") (.ofNat 1)) [],
        .call (.kick (proof "a") (.ofNat 1) "b" (.ofNat 30)) [],
        .call (.claimProtocol (proof "a")) [],
        .call (.setProtocolFee (proof "a") (.ofNat 0) (some "t")) [],
        .call (.kick (proof "a") (.ofNat 1) "c" (.ofNat 20))
          [.meets [.call (.coverMember (proof "a") (.ofNat 1) "a") [],
            .call (.contribute (proof "a") (.ofNat 1)) []] none]]
    let world := (runAll Host.sample steps World.sample).1
    (∀ passage ∈ runCourse Host.sample steps World.sample, passage.move.isReset = false) ∧
      (∀ passage ∈ runCourse Host.sample steps World.sample,
        ∀ circle ∈ passage.world.books.circles, circle.IsExact) ∧
      (world.books.circles.map fun circle => (circle.balance, circle.reserve, circle.insurance)) =
        [(160, 30, 30)] ∧
      ∀ circle ∈ world.books.circles, ∀ fund,
        (circle.fund fund : Int) = tally fund circle.id world.trail.events ∧
        ∀ past, past <+: world.trail.events → 0 ≤ tally fund circle.id past := by
  intro proof steps world
  have lasting : ∀ passage ∈ runCourse Host.sample steps World.sample,
      passage.move.isReset = false := by
    decide +kernel
  have isExact : ∀ passage ∈ runCourse Host.sample steps World.sample,
      ∀ circle ∈ passage.world.books.circles, circle.IsExact := by
    decide +kernel
  refine ⟨lasting, isExact, by decide +kernel, ?_⟩
  exact money_is_accounted_for lasting isExact world (.inl rfl)

end SavingsCircle
