import SavingsCircle.Proofs.Run.Rollback

/-!
# Invariants of runs

What holds all along a run has to be shown for single moves only. `Kept` lists them: writing, making
a transfer, minting, moving units on the ledger directly, and opening fresh books. The property may
speak of the transfers that calls in progress still have to make. Undoing a call costs nothing,
because the property held when the call began (`Upheld`) and undoing brings that state back.

A property can also be kept only by moves of some kind, or only while what they lead to is of some
kind; `Kept` therefore takes what it may assume of each passage.
-/

namespace SavingsCircle

/-- A world that steps go through or end in. -/
def Visits (host : Host) (start : World) (steps : List Step) (world : World) : Prop :=
  world = (runAll host steps start).1 ∨
    ∃ passage ∈ runCourse host steps start, world = passage.world

/-- The transfers that calls in progress still have to make, the innermost call first. -/
def outstanding (frames : List Frame) : List Transfer := frames.flatMap (·.pending)

/-- A property that holds now and held when each of the calls in progress began. -/
def Upheld (P : List Transfer → World → Prop) : List Frame → World → Prop
  | [], world => P [] world
  | frame :: frames, world =>
    P (outstanding (frame :: frames)) world ∧ Upheld P frames frame.start

/-- A property of outstanding transfers and worlds that every admitted move keeps. -/
structure Kept (host : Host) (Admits : Passage → Prop) (P : List Transfer → World → Prop) :
    Prop where
  /-- Slips, draws and clocks do not matter, nor does the ledger if calls do not restore it. -/
  same {pending world next} : P pending world → next.books = world.books →
    next.trail = world.trail → (host.restoresLedger = true → next.ledger = world.ledger) →
    P pending next
  write {pending world operation effect written} : P pending world →
    operation.perform host world.moment world.books = .ok effect →
    world.commit effect = .ok written → Admits ⟨.write operation, written⟩ →
    P (effect.transfers ++ pending) written
  carry {pending world transfer next} : P (transfer :: pending) world →
    world.carry transfer = .ok next → Admits ⟨.carry transfer, next⟩ → P pending next
  mint {pending world asset target amount ledger} : P pending world →
    world.ledger.mint asset target amount = .ok ledger →
    Admits ⟨.act (.mint asset target amount), { world with ledger }⟩ →
    P pending { world with ledger }
  move {pending world asset source target amount ledger} : P pending world →
    world.ledger.transfer asset source target amount = .ok ledger →
    Admits ⟨.act (.transfer asset source target amount), { world with ledger }⟩ →
    P pending { world with ledger }
  reset {pending world} : P pending world → Admits ⟨.act .reset, world.withFreshBooks⟩ →
    P pending world.withFreshBooks

namespace Upheld

variable {P : List Transfer → World → Prop} {frames : List Frame} {world : World}

theorem now (upheld : Upheld P frames world) : P (outstanding frames) world := by
  cases frames with
  | nil => exact upheld
  | cons frame frames => exact upheld.1

/-- What held when the calls in progress began does not depend on what holds now. -/
theorem change (upheld : Upheld P frames world) {next : World}
    (holds : P (outstanding frames) next) : Upheld P frames next := by
  cases frames with
  | nil => exact holds
  | cons frame frames => exact ⟨holds, upheld.2⟩

end Upheld

namespace Kept

variable {host : Host} {Admits : Passage → Prop} {P : List Transfer → World → Prop}

/-- A step that is no call keeps what is kept. -/
theorem act (kept : Kept host Admits P) {pending : List Transfer} {world : World} {step : Step}
    (holds : P pending world) (noCall : step.isCall = false)
    (admitted : Admits ⟨.act step, (step.run host world).1⟩) :
    P pending (step.run host world).1 := by
  cases step with
  | call => simp [Step.isCall] at noCall
  | mint asset target amount =>
      cases minted : world.ledger.mint asset target amount with
      | ok ledger =>
          simp only [Step.run, World.acted, minted] at admitted ⊢
          exact kept.mint holds minted admitted
      | error _ => simpa only [Step.run, World.acted, minted] using holds
  | transfer asset source target amount =>
      cases moved : world.ledger.transfer asset source target amount with
      | ok ledger =>
          simp only [Step.run, World.acted, moved] at admitted ⊢
          exact kept.move holds moved admitted
      | error _ => simpa only [Step.run, World.acted, moved] using holds
  | reset => exact kept.reset holds admitted
  | query | setClock | advance | setDating | unknown =>
      exact kept.same holds rfl rfl fun _ => rfl

/-- A move that undoes nothing keeps what holds now, whatever held when the calls in progress
began. -/
theorem proceed (kept : Kept host Admits P) {a b : Config} {move : Move}
    (advance : Advance host a move b) (proceeds : move ≠ .fail)
    (admitted : Admits ⟨move, b.world⟩) (holds : P (outstanding a.frames) a.world) :
    P (outstanding b.frames) b.world := by
  cases advance with
  | refused => exact kept.same holds rfl rfl fun _ => rfl
  | unrecorded => exact kept.same holds rfl rfl fun _ => rfl
  | written performed committed => exact kept.write holds performed committed admitted
  | carried made => exact kept.carry holds made admitted
  | failed => exact absurd rfl proceeds
  | concluded => exact kept.same holds rfl rfl fun _ => rfl
  | acted noCall => exact kept.act holds noCall admitted

/-- One move of the machine keeps what is upheld. -/
theorem advance (kept : Kept host Admits P) {a b : Config} {move : Move}
    (advance : Advance host a move b) (admitted : Admits ⟨move, b.world⟩)
    (layered : Layered a.frames a.world) (upheld : Upheld P a.frames a.world) :
    Upheld P b.frames b.world := by
  cases advance with
  | refused => exact upheld.change (kept.same upheld.now rfl rfl fun _ => rfl)
  | unrecorded => exact upheld.change (kept.same upheld.now rfl rfl fun _ => rfl)
  | written performed committed =>
      exact ⟨kept.write upheld.now performed committed admitted, upheld⟩
  | carried made =>
      refine ⟨?_, upheld.2⟩
      exact kept.carry upheld.1 made admitted
  | failed =>
      refine upheld.2.change (kept.same upheld.2.now rfl (layered.trail_undone host) ?_)
      intro restores
      simp [World.undone, restores]
  | concluded => exact upheld.2.change (kept.same upheld.1 rfl rfl fun _ => rfl)
  | acted noCall => exact upheld.change (kept.act upheld.now noCall admitted)

/-- What is kept by every move is upheld at the end of a path, and holds all along it. -/
theorem path (kept : Kept host Admits P) {a b : Config} {passages : List Passage}
    (path : Path host a passages b) (admitted : ∀ passage ∈ passages, Admits passage)
    (layered : Layered a.frames a.world) (upheld : Upheld P a.frames a.world) :
    Upheld P b.frames b.world ∧ ∀ passage ∈ passages, ∃ pending, P pending passage.world := by
  induction path with
  | nil => exact ⟨upheld, by simp⟩
  | cons first _ ih =>
      rw [List.forall_mem_cons] at admitted
      have next := kept.advance first admitted.1 layered upheld
      obtain ⟨last, others⟩ := ih admitted.2 (layered.advance first) next
      exact ⟨last, List.forall_mem_cons.2 ⟨⟨_, next.now⟩, others⟩⟩

/-- What every move keeps holds at the end of a run and all along it. -/
theorem run (kept : Kept host Admits P) {steps : List Step} {world : World}
    (admitted : ∀ passage ∈ runCourse host steps world, Admits passage) (holds : P [] world) :
    P [] (runAll host steps world).1 ∧
      ∀ passage ∈ runCourse host steps world, ∃ pending, P pending passage.world :=
  kept.path (runCourse_path host [] steps world) admitted trivial holds

end Kept

/-- A property of the books and of what was recorded that every admitted call keeps. -/
structure BooksKept (host : Host) (Admits : Passage → Prop)
    (P : Books → List Event → Prop) : Prop where
  write {books events moment operation effect written} : P books events →
    operation.perform host moment books = .ok effect → Admits ⟨.write operation, written⟩ →
    written.books = effect.books → P effect.books (events ++ effect.events)
  reset events now : P (.opened now) events

namespace BooksKept

variable {host : Host} {Admits : Passage → Prop} {P : Books → List Event → Prop}

theorem kept (kept : BooksKept host Admits P) :
    Kept host Admits fun _ world => P world.books world.trail.events where
  same holds books trail _ := by rwa [books, trail]
  write holds performed committed admitted := by
    have books := World.books_commit committed
    rw [books, World.events_commit committed]
    exact kept.write holds performed admitted books
  carry holds made _ := by
    obtain ⟨_, _, rfl⟩ := World.carry_eq_ok made
    exact holds
  mint holds _ _ := holds
  move holds _ _ := holds
  reset _ _ := kept.reset ..

/-- What every call keeps holds at the end of a run and all along it. -/
theorem run (kept : BooksKept host Admits P) (steps : List Step) (world : World)
    (admitted : ∀ passage ∈ runCourse host steps world, Admits passage)
    (holds : P world.books world.trail.events) :
    P (runAll host steps world).1.books (runAll host steps world).1.trail.events ∧
      ∀ passage ∈ runCourse host steps world, P passage.world.books passage.world.trail.events := by
  obtain ⟨last, others⟩ := kept.kept.run admitted holds
  exact ⟨last, fun passage mem => (others passage mem).elim fun _ holds => holds⟩

theorem visits (kept : BooksKept host Admits P) {steps : List Step} {start world : World}
    (admitted : ∀ passage ∈ runCourse host steps start, Admits passage)
    (holds : P start.books start.trail.events) (visits : Visits host start steps world) :
    P world.books world.trail.events := by
  obtain ⟨last, others⟩ := kept.run steps start admitted holds
  rcases visits with rfl | ⟨passage, mem, rfl⟩
  · exact last
  · exact others passage mem

/-- What every call keeps holds in every world that a run without earlier history goes through. -/
theorem holds (kept : BooksKept host Admits P) {now clock : Number} {nonce : String} {draws : Draws}
    {steps : List Step} {world : World}
    (admitted : ∀ passage ∈ runCourse host steps (.opened now clock nonce draws), Admits passage)
    (visits : Visits host (.opened now clock nonce draws) steps world) :
    P world.books world.trail.events :=
  kept.visits admitted (kept.reset [] now) visits

end BooksKept

end SavingsCircle
