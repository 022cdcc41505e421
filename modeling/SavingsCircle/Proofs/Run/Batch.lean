import SavingsCircle.Proofs.Custody.Clearing
import SavingsCircle.Proofs.Run.Answer

/-!
# Batches of calls

Calls whose transfers meet nothing are decided in two parts. What they do to the books is decided on
the books alone, one call after the other (`Books.performAll`). All of their transfers are then made
on the ledger as if no call stood between them. A batch of calls returns throughout if both parts go
through and the clock shows a date where something is recorded (`exists_performAll`,
`runAll_calls`).
-/

namespace SavingsCircle

/-- Calls whose transfers meet nothing. -/
def calls (operations : List Operation) : List Step := operations.map (.call · [])

namespace Books

/-- Performs operations one after the other without making their transfers. -/
def performAll (books : Books) (host : Host) (moment : Moment) :
    List Operation → Except Failure (List Effect)
  | [] => .ok []
  | operation :: operations => do
    let effect ← operation.perform host moment books
    let effects ← effect.books.performAll host { moment with draws := effect.draws } operations
    return effect :: effects

def afterAll (books : Books) : List Effect → Books
  | [] => books
  | effect :: effects => effect.books.afterAll effects

variable {books : Books} {host : Host} {moment : Moment} {operation : Operation}
variable {operations : List Operation} {effects : List Effect}

theorem performAll_cons_eq_ok :
    books.performAll host moment (operation :: operations) = .ok effects ↔
      ∃ effect others, operation.perform host moment books = .ok effect ∧
        effect.books.performAll host { moment with draws := effect.draws } operations =
          .ok others ∧
        effects = effect :: others := by
  rw [performAll]
  simp only [bind_eq_ok]
  constructor
  · rintro ⟨effect, performed, others, rest, ⟨⟩⟩
    exact ⟨effect, others, performed, rest, rfl⟩
  · rintro ⟨effect, others, performed, rest, rfl⟩
    exact ⟨effect, performed, others, rest, rfl⟩

end Books

namespace World

variable {world : World} {ledger : Ledger} {transfers : List Transfer}

/-- Transfers that meet nothing need the ledger only. -/
theorem carryAll_of_transferAll (made : world.ledger.transferAll transfers = .ok ledger) :
    world.carryAll transfers = ⟨{ world with ledger }, [], none⟩ := by
  induction transfers generalizing world with
  | nil =>
      obtain rfl := Except.ok.inj made
      rfl
  | cons transfer transfers ih =>
      rw [Ledger.transferAll, bind_eq_ok] at made
      obtain ⟨next, first, others⟩ := made
      have carried : world.carry transfer = .ok { world with ledger := next } := by
        rw [carry, first]
        rfl
      rw [carryAll, carried]
      exact ih others

theorem exists_transferAll (complete : (world.carryAll transfers).failure = none) :
    ∃ ledger, world.ledger.transferAll transfers = .ok ledger := by
  induction transfers generalizing world with
  | nil => exact ⟨world.ledger, rfl⟩
  | cons transfer transfers ih =>
      rw [carryAll] at complete
      cases carried : world.carry transfer with
      | error failure => simp [carried] at complete
      | ok next =>
          rw [carried] at complete
          obtain ⟨mid, first, rfl⟩ := carry_eq_ok carried
          obtain ⟨ledger, others⟩ := ih complete
          exact ⟨ledger, by rw [Ledger.transferAll, first]; exact others⟩

/-- The world after a call whose transfers met nothing. -/
structure Follows (world : World) (effect : Effect) (ledger : Ledger) (next : World) : Prop where
  books : next.books = effect.books
  ledger : next.ledger = ledger
  moment : next.moment = { world.moment with draws := effect.draws }
  stamp? : next.stamp? = world.stamp?

end World

/-- A call with an effect has returned, with the answer that its receipt has settled. -/
def Effect.Returns (effect : Effect) (report : Report) : Prop :=
  ∃ answer, report.outcome = .ok answer ∧
    ∀ settled, effect.receipt = .settled settled → answer = settled

theorem isSome_of_returns {effects : List Effect} {reports : List Report}
    (returns : List.Forall₂ Effect.Returns effects reports) :
    ∀ report ∈ reports, report.outcome.toOption.isSome := by
  induction returns with
  | nil => exact List.forall_mem_nil _
  | cons first _ ih =>
      obtain ⟨answer, outcome, -⟩ := first
      exact List.forall_mem_cons.2 ⟨by rw [outcome]; rfl, ih⟩

section

variable {host : Host} {world : World} {operation : Operation} {operations : List Operation}
variable {effect : Effect} {effects : List Effect} {ledger : Ledger}

/-- A call that has its transfers made returns. -/
theorem Step.run_call (performed : operation.perform host world.moment world.books = .ok effect)
    (dated : effect.events ≠ [] → world.stamp?.isSome)
    (made : world.ledger.transferAll effect.transfers = .ok ledger) :
    world.Follows effect ledger ((Step.call operation []).run host world).1 ∧
      effect.Returns ((Step.call operation []).run host world).2 := by
  obtain ⟨written, committed⟩ := World.exists_commit effect dated
  have sameLedger := World.ledger_commit committed
  rw [← sameLedger] at made
  have carried := World.carryAll_of_transferAll made
  have ran : (Step.call operation []).run host world =
      ({ written with ledger }.taken, .of (.ok { written with ledger }.answer) []) := by
    simp only [Step.run, performed, committed, settle, carried, Settlement.conclude]
  rw [ran]
  refine ⟨?_, _, rfl, fun settled isSettled => ?_⟩
  · obtain ⟨_, _, rfl⟩ := World.commit_eq_ok committed
    exact ⟨rfl, rfl, rfl, rfl⟩
  · have answered : (settle host [] effect.transfers written).world.answer = settled :=
      settle_answer committed isSettled
    rwa [settle, carried] at answered

/-- A call that returned has had its transfers made. -/
theorem Step.exists_effect_of_call
    (returned : ((Step.call operation []).run host world).2.outcome.toOption.isSome) :
    ∃ effect ledger, operation.perform host world.moment world.books = .ok effect ∧
      (effect.events ≠ [] → world.stamp?.isSome) ∧
      world.ledger.transferAll effect.transfers = .ok ledger := by
  obtain ⟨answer, outcome⟩ := Option.isSome_iff_exists.1 returned
  obtain ⟨effect, written, performed, committed, complete, -⟩ :=
    Step.run_eq_ok (toOption_eq_some_iff.1 outcome)
  obtain ⟨ledger, made⟩ := World.exists_transferAll complete
  rw [World.ledger_commit committed] at made
  exact ⟨effect, ledger, performed, World.isSome_stamp?_of_commit committed, made⟩

/-- Calls that all returned were performed on the books one after the other, and all of their
transfers can be made on the ledger. -/
theorem exists_performAll
    (returned : ∀ report ∈ (runAll host (calls operations) world).2,
      report.outcome.toOption.isSome) :
    ∃ effects ledger, world.books.performAll host world.moment operations = .ok effects ∧
      (∀ effect ∈ effects, effect.events ≠ [] → world.stamp?.isSome) ∧
      world.ledger.transferAll (effects.flatMap (·.transfers)) = .ok ledger := by
  induction operations generalizing world with
  | nil => exact ⟨[], world.ledger, rfl, List.forall_mem_nil _, rfl⟩
  | cons operation operations ih =>
      obtain ⟨effect, mid, performed, dated, made⟩ :=
        Step.exists_effect_of_call (returned _ List.mem_cons_self)
      obtain ⟨follows, -⟩ := Step.run_call performed dated made
      obtain ⟨effects, ledger, rest, datedRest, madeRest⟩ :
          let next := ((Step.call operation []).run host world).1
          ∃ effects ledger, next.books.performAll host next.moment operations = .ok effects ∧
            (∀ effect ∈ effects, effect.events ≠ [] → next.stamp?.isSome) ∧
            next.ledger.transferAll (effects.flatMap (·.transfers)) = .ok ledger :=
        ih fun report mem => returned report (List.mem_cons_of_mem _ mem)
      rw [follows.books, follows.moment] at rest
      rw [follows.stamp?] at datedRest
      rw [follows.ledger] at madeRest
      refine ⟨effect :: effects, ledger, ?_, List.forall_mem_cons.2 ⟨dated, datedRest⟩, ?_⟩
      · exact Books.performAll_cons_eq_ok.2 ⟨effect, effects, performed, rest, rfl⟩
      · rw [List.flatMap_cons, Ledger.transferAll_append, made]
        exact madeRest

/-- Calls that are performed on the books one after the other, and whose transfers can all be made
on the ledger, return. -/
theorem runAll_calls (performed : world.books.performAll host world.moment operations = .ok effects)
    (dated : ∀ effect ∈ effects, effect.events ≠ [] → world.stamp?.isSome)
    (made : world.ledger.transferAll (effects.flatMap (·.transfers)) = .ok ledger) :
    (runAll host (calls operations) world).1.books = world.books.afterAll effects ∧
      (runAll host (calls operations) world).1.ledger = ledger ∧
      List.Forall₂ Effect.Returns effects (runAll host (calls operations) world).2 := by
  induction operations generalizing world effects with
  | nil =>
      obtain rfl := Except.ok.inj performed
      exact ⟨rfl, Except.ok.inj made, .nil⟩
  | cons operation operations ih =>
      obtain ⟨effect, others, first, rest, rfl⟩ := Books.performAll_cons_eq_ok.1 performed
      obtain ⟨datedFirst, datedRest⟩ := List.forall_mem_cons.1 dated
      rw [List.flatMap_cons, Ledger.transferAll_append] at made
      cases madeFirst : world.ledger.transferAll effect.transfers with
      | error failure => simp [madeFirst, Except.bind] at made
      | ok mid =>
          rw [madeFirst] at made
          obtain ⟨follows, returns⟩ := Step.run_call first datedFirst madeFirst
          rw [← follows.books, ← follows.moment] at rest
          rw [← follows.stamp?] at datedRest
          have madeRest : ((Step.call operation []).run host world).1.ledger.transferAll
              (others.flatMap (·.transfers)) = .ok ledger := by
            rw [follows.ledger]
            exact made
          obtain ⟨books, held, returned⟩ := ih rest datedRest madeRest
          refine ⟨?_, held, .cons returns returned⟩
          rw [follows.books] at books
          exact books

end

end SavingsCircle
