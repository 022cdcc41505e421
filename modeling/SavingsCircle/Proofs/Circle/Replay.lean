import SavingsCircle.Proofs.Circle.Replica

/-!
# The trail determines the circles

Whoever reads the trail from its beginning and keeps the replica of a circle from its founding on
has, at any time, what the service itself keeps: no call changes the circle without recording it,
and what a call that fails has recorded is taken off the trail again.
-/

namespace SavingsCircle

/-- What a reader of the whole trail makes of one more event. -/
def readOn (id : Nat) (replica? : Option Replica) (event : Event) : Option Replica :=
  if event.circle? = some id then
    match event with
    | .circleCreated _ _ contribution => some (.founded contribution)
    | event => replica?.map (·.next event)
  else replica?

/-- The replica of a circle as the trail tells it, unless the circle was never founded. -/
def replay (id : Nat) (events : List Event) : Option Replica := events.foldl (readOn id) none

section

variable {id : Nat} {events recent : List Event}

theorem replay_founded (id : Nat) (events : List Event) (admin : Address) (contribution : Amount) :
    replay id (events ++ [.circleCreated id admin contribution]) =
      some (.founded contribution) := by
  simp [replay, readOn, Event.circle?]

/-- Events of the circle that do not found it are read on. -/
theorem replay_append_own (own : ∀ event ∈ recent, event.Continues id) :
    replay id (events ++ recent) = (replay id events).map fun replica =>
      recent.foldl Replica.next replica := by
  rw [replay, List.foldl_append, ← replay]
  generalize replay id events = replica?
  induction recent generalizing replica? with
  | nil => simp
  | cons event recent ih =>
      rw [List.forall_mem_cons] at own
      have read : readOn id replica? event = replica?.map (·.next event) := by
        have circle := own.1.circle
        cases event with
        | circleCreated => exact absurd own.1.founded (by simp [Event.isFounding])
        | _ => exact if_pos circle
      rw [List.foldl_cons, ih own.2, read, Option.map_map]
      rfl

/-- Events of other circles tell nothing. -/
theorem replay_append_other (others : ∀ event ∈ recent, event.circle? ≠ some id) :
    replay id (events ++ recent) = replay id events := by
  rw [replay, List.foldl_append, ← replay]
  generalize replay id events = replica?
  induction recent with
  | nil => rfl
  | cons event recent ih =>
      rw [List.forall_mem_cons] at others
      have unread : readOn id replica? event = replica? := if_neg others.1
      rw [List.foldl_cons, unread]
      exact ih others.2

end

theorem Circle.IsNew.replica {circle : Circle} (isNew : circle.IsNew) (records : Records) :
    circle.replica records = .founded circle.contribution := by
  simp [Circle.replica, Circle.places, Replica.founded, isNew.seats, isNew.payoutQueue, isNew.cycle,
    isNew.payouts, isNew.volume, isNew.isInsuranceUsed, isNew.isDissolved]

theorem Circle.replica_congr {circle : Circle} {records others : Records}
    (same : ∀ address, others.record? circle.id address = records.record? circle.id address) :
    circle.replica others = circle.replica records := by
  have statuses : circle.statusOf others = circle.statusOf records := by
    funext address
    exact Circle.statusOf_congr rfl (by rw [same])
  rw [Circle.replica, Circle.replica, Circle.places, Circle.places, statuses]

/-- The trail tells what every circle is. -/
def Told (books : Books) (events : List Event) : Prop :=
  ∀ circle ∈ books.circles, replay circle.id events = some (circle.replica books.records)

/-- Every call keeps the trail telling what every circle is. -/
theorem booksKept_told (host : Host) :
    BooksKept host (AllFit fun circle =>
        Directory.reserved ∉ circle.members ∧ circle.volume ≤ Number.maxSafe)
      fun books events =>
        (books.Numbered ∧ books.Every (fun circle records past =>
          (circle.Sound ∧ Directory.reserved ∉ circle.members ∧ circle.Rostered records) ∧
            circle.Paced records past) events) ∧ Told books events where
  reset events now :=
    ⟨(circleInvariant_paced host).booksKept.reset events now, by simp [Told, Books.opened]⟩
  write := by
    rintro books events moment operation effect written ⟨paced, told⟩ performed fit isBooks
    refine ⟨(circleInvariant_paced host).booksKept.write paced performed fit isBooks,
      fun other isOther => ?_⟩
    obtain ⟨numbered, holds⟩ := paced
    cases (performs_of_perform performed).touches with
    | aside _ circles count records others =>
        rw [circles] at isOther
        rw [records, replay_append_other fun event mem same => by simp [others event mem] at same]
        exact told other isOther
    | founding _ isNew number circles count records recorded =>
        rw [circles] at isOther
        rw [records, recorded]
        rcases List.mem_append.1 isOther with isOther | isNewest
        · have bounded := numbered.bounded other isOther
          rw [replay_append_other]
          · exact told other isOther
          · simp only [List.mem_singleton, forall_eq, Event.circle?, ne_eq, Option.some.injEq]
            omega
        · obtain rfl := List.mem_singleton.1 isNewest
          rw [replay_founded, isNew.replica]
    | @deed _ circle _ change _ found _ deed circles count records recorded _ =>
        have mem := Books.mem_of_circle found
        have lasts := deed.lasts
        rw [circles] at isOther
        rw [records, recorded]
        rcases Books.mem_replaceCircle isOther with rfl | ⟨isOther, apart⟩
        · obtain ⟨⟨sound, unreserved, rostered⟩, paced⟩ := holds circle mem
          have kept := Books.mem_replaceCircle_self mem lasts.id
          have fits := fit change.circle (isBooks ▸ circles ▸ kept)
          rw [lasts.id, replay_append_own deed.continues, told circle mem,
            deed.replica sound unreserved rostered paced fits.1 fits.2]
          rfl
        · rw [lasts.id] at apart
          have others : ∀ event ∈ change.events, event.circle? ≠ some other.id :=
            fun event mem same =>
              apart (Option.some.inj (same.symm.trans (deed.continues event mem).circle))
          rw [replay_append_other others, told other isOther]
          congr 1
          exact (Circle.replica_congr fun address => deed.record?_other apart address).symm

/-- In every world of a run in which no member goes by the reserved address and all volumes are
exact, reading the trail yields of every circle the seats, the standing of their holders, the payout
queue and where the circle stands in its cycles, just as the service keeps them. -/
theorem trail_determines_circles {host : Host} {now clock : Number} {nonce : String} {draws : Draws}
    {steps : List Step}
    (unreserved : ∀ passage ∈ runCourse host steps (.opened now clock nonce draws),
      ∀ circle ∈ passage.world.books.circles, Directory.reserved ∉ circle.members)
    (safe : ∀ passage ∈ runCourse host steps (.opened now clock nonce draws),
      ∀ circle ∈ passage.world.books.circles, circle.volume ≤ Number.maxSafe) :
    ∀ world, Visits host (.opened now clock nonce draws) steps world →
      ∀ circle ∈ world.books.circles,
        replay circle.id world.trail.events = some (circle.replica world.books.records) := by
  intro world visits
  have fits : ∀ passage ∈ runCourse host steps (.opened now clock nonce draws), AllFit
      (fun circle => Directory.reserved ∉ circle.members ∧ circle.volume ≤ Number.maxSafe)
      passage :=
    fun passage isPassage circle mem =>
      ⟨unreserved passage isPassage circle mem, safe passage isPassage circle mem⟩
  exact ((booksKept_told host).holds fits visits).2

/-- The second member contributes and asks to leave, and a successor fills the seat while the payout
to the first is on its way. A withdrawal before the dissolution fails and leaves no trace. -/
theorem trail_determines_circles_of_nested_vacancy :
    let proof := Host.sample.proofOf
    let id := Number.ofNat 1
    let steps : List Step :=
      [.mint "USDC" "a" (.ofNat 100), .mint "USDC" "b" (.ofNat 100),
        .call (.createCircle (proof "a") .sample) [], .call (.join (proof "a") id) [],
        .call (.join (proof "b") id) [], .call (.finalize (proof "a") id) [],
        .call (.contribute (proof "a") id) [], .call (.contribute (proof "b") id) [],
        .call (.requestExit (proof "b") id) [],
        .call (.processPayout (proof "a") id "a")
          [.meets [.call (.fillVacancy (proof "a") (proof "c") id "b") [],
            .call (.withdrawProRata (proof "a") id) []] none],
        .call (.proposeDissolution (proof "a") id) [], .call (.voteDissolution (proof "c") id) []]
    let world := (runAll Host.sample steps World.sample).1
    (∀ passage ∈ runCourse Host.sample steps World.sample,
        ∀ circle ∈ passage.world.books.circles, Directory.reserved ∉ circle.members) ∧
      (∀ passage ∈ runCourse Host.sample steps World.sample,
        ∀ circle ∈ passage.world.books.circles, circle.volume ≤ Number.maxSafe) ∧
      replay 1 world.trail.events = some
        { contribution := 100
          places := [⟨⟨"a", true, true, 100⟩, .active⟩, ⟨⟨"c", false, false, 0⟩, .active⟩]
          queue := ["a", "c"]
          cycle := 1
          payouts := 1
          volume := 100
          isInsuranceUsed := false
          isDissolved := true } ∧
      ∀ circle ∈ world.books.circles,
        replay circle.id world.trail.events = some (circle.replica world.books.records) := by
  intro proof id steps world
  have unreserved : ∀ passage ∈ runCourse Host.sample steps World.sample,
      ∀ circle ∈ passage.world.books.circles, Directory.reserved ∉ circle.members := by
    decide +kernel
  have safe : ∀ passage ∈ runCourse Host.sample steps World.sample,
      ∀ circle ∈ passage.world.books.circles, circle.volume ≤ Number.maxSafe := by
    decide +kernel
  refine ⟨unreserved, safe, by decide +kernel, ?_⟩
  exact trail_determines_circles unreserved safe world (.inl rfl)

end SavingsCircle
