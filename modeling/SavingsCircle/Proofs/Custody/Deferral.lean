import SavingsCircle.Proofs.Custody.Payment
import SavingsCircle.Proofs.Run.Reentry

/-!
# Re-entry is deferral

What a transfer of a call meets finds the books and the trail of the whole call. Only the ledger
lags behind, by what the transfers that are still to be made drain from its accounts, and each call
that succeeds moves it on by the same amounts whether it lags or not (`World.Defers`). Calls that
are met by a transfer can therefore be put off until after the call (`reentry_is_deferred`).
-/

namespace SavingsCircle

/-- The last move of a step leads to where the step ends. -/
theorem Step.mem_course (step : Step) (host : Host) (world : World) :
    ∃ move, ⟨move, (step.run host world).1⟩ ∈ step.course host world := by
  cases step with
  | call operation plan =>
      simp only [run, course]
      cases operation.perform host world.moment world.books with
      | error _ => exact ⟨_, List.mem_singleton_self _⟩
      | ok effect =>
          simp only
          cases world.commit effect with
          | error _ => exact ⟨_, List.mem_singleton_self _⟩
          | ok written => exact ⟨_, List.mem_append_right _ (List.mem_singleton_self _)⟩
  | _ => exact ⟨_, List.mem_singleton_self _⟩

namespace World

variable {host : Host} {world : World} {transfers pending : List Transfer} {steps : List Step}

/-- What transfers drain from an account is what the account lacks when all of them are made. -/
theorem balance_carryAll (whole : (world.carryAll transfers).failure = none)
    (safe : world.ledger.IsSafe)
    (lasting : ∀ passage ∈ carryCourse transfers world, passage.world.ledger.IsSafe)
    (asset : Asset) (holder : Address) :
    ((world.carryAll transfers).world.ledger.balance asset holder : Int) +
      drains transfers asset holder = world.ledger.balance asset holder := by
  induction transfers generalizing world with
  | nil => exact Int.add_zero _
  | cons transfer transfers ih =>
      simp only [carryAll, carryCourse] at whole lasting ⊢
      cases carried : world.carry transfer with
      | error _ => simp [carried] at whole
      | ok next =>
          simp only [carried, List.forall_mem_cons] at whole lasting ⊢
          have others := ih whole lasting.1 lasting.2
          obtain ⟨ledger, moved, rfl⟩ := carry_eq_ok carried
          have first := Ledger.balance_transfer transfer moved (safe.balance_le asset holder)
            fun _ => Ledger.IsSafe.balance_le lasting.1 asset holder
          rw [drains_cons]
          dsimp only at others
          omega

/-- No account holds more than is exact, neither now nor all along steps. -/
structure StaysSafe (world : World) (host : Host) (steps : List Step) : Prop where
  now : world.ledger.IsSafe
  lasting : ∀ passage ∈ runCourse host steps world, passage.world.ledger.IsSafe

instance (world : World) (host : Host) (steps : List Step) :
    Decidable (world.StaysSafe host steps) :=
  decidable_of_iff
    (world.ledger.IsSafe ∧ ∀ passage ∈ runCourse host steps world, passage.world.ledger.IsSafe)
    ⟨fun h => ⟨h.1, h.2⟩, fun h => ⟨h.now, h.lasting⟩⟩

namespace StaysSafe

theorem uncons {step : Step} (safe : world.StaysSafe host (step :: steps)) :
    world.StaysSafe host [step] ∧ (step.run host world).1.StaysSafe host steps := by
  have lasting := safe.lasting
  rw [runCourse, List.forall_mem_append] at lasting
  obtain ⟨move, last⟩ := step.mem_course host world
  refine ⟨⟨safe.now, ?_⟩, ⟨lasting.1 _ last, lasting.2⟩⟩
  rw [runCourse, runCourse, List.append_nil]
  exact lasting.1

theorem final (safe : world.StaysSafe host steps) :
    (runAll host steps world).1.ledger.IsSafe := by
  induction steps generalizing world with
  | nil => exact safe.now
  | cons step steps ih => exact ih safe.uncons.2

end StaysSafe

/-- Worlds that are alike, in the first of which transfers are still to be made. They differ by what
these drain from the accounts. -/
structure Defers (pending : List Transfer) (behind ahead : World) : Prop where
  alike : Alike behind ahead
  ledger (asset : Asset) (holder : Address) :
    (ahead.ledger.balance asset holder : Int) + drains pending asset holder =
      behind.ledger.balance asset holder

/-- What an operation that returns drains from an account is what its transfers drain. -/
theorem balance_call {operation : Operation} {answer : Answer}
    (safe : world.StaysSafe host [.call operation []])
    (returned : ((Step.call operation []).run host world).2.outcome = .ok answer) :
    ∃ effect, operation.perform host world.moment world.books = .ok effect ∧
      ∀ asset holder,
        (((Step.call operation []).run host world).1.ledger.balance asset holder : Int) +
          drains effect.transfers asset holder = world.ledger.balance asset holder := by
  obtain ⟨effect, written, performed, committed, ending, isRun, _⟩ := Step.run_eq_ok returned
  refine ⟨effect, performed, fun asset holder => ?_⟩
  have lasting := safe.lasting
  simp only [runCourse, List.append_nil, Step.course, performed, committed, List.cons_append,
    List.forall_mem_cons, List.forall_mem_append] at lasting
  have drained := balance_carryAll ending lasting.1 lasting.2.1 asset holder
  rw [ledger_commit committed] at drained
  rw [isRun]
  exact drained

namespace Defers

variable {behind ahead : World}

/-- A world in which transfers are still to be made, and the one in which a call has returned that
made them. -/
theorem carried (whole : (world.carryAll transfers).failure = none)
    (safe : world.ledger.IsSafe)
    (lasting : ∀ passage ∈ carryCourse transfers world, passage.world.ledger.IsSafe) :
    Defers transfers world (world.carryAll transfers).world.taken where
  alike := .carried world transfers
  ledger := balance_carryAll whole safe lasting

/-- A call that succeeds in both worlds, or in neither, drains the same from both. -/
theorem call (restores : host.restoresLedger = true) (defers : Defers pending behind ahead)
    {operation : Operation} (safeBehind : behind.StaysSafe host [.call operation []])
    (safeAhead : ahead.StaysSafe host [.call operation []])
    (agree : ((Step.call operation []).run host behind).2.succeeds =
      ((Step.call operation []).run host ahead).2.succeeds) :
    Defers pending ((Step.call operation []).run host behind).1
      ((Step.call operation []).run host ahead).1 := by
  refine ⟨defers.alike.call agree, fun asset holder => ?_⟩
  have lag := defers.ledger asset holder
  cases ending : ((Step.call operation []).run host behind).2.succeeds with
  | false =>
      obtain ⟨_, first⟩ := Report.succeeds_eq_false_iff.1 ending
      obtain ⟨_, second⟩ := Report.succeeds_eq_false_iff.1 (agree.symm.trans ending)
      rw [(Step.agrees_of_run_eq_error restores first).ledger,
        (Step.agrees_of_run_eq_error restores second).ledger]
      exact lag
  | true =>
      obtain ⟨_, first⟩ := Report.succeeds_eq_true_iff.1 ending
      obtain ⟨_, second⟩ := Report.succeeds_eq_true_iff.1 (agree.symm.trans ending)
      obtain ⟨effect, performed, drained⟩ := balance_call safeBehind first
      obtain ⟨other, same, others⟩ := balance_call safeAhead second
      obtain ⟨_, _, rfl⟩ := defers.alike
      obtain rfl := Except.ok.inj (performed.symm.trans same)
      have drained := drained asset holder
      have others := others asset holder
      omega

/-- Plain steps that each succeed in both worlds, or in neither, drain the same from both. -/
theorem run (restores : host.restoresLedger = true)
    (plain : ∀ step ∈ steps, step.isPlain = true) (defers : Defers pending behind ahead)
    (safeBehind : behind.StaysSafe host steps) (safeAhead : ahead.StaysSafe host steps)
    (agree : (runAll host steps behind).2.map (·.succeeds) =
      (runAll host steps ahead).2.map (·.succeeds)) :
    Defers pending (runAll host steps behind).1 (runAll host steps ahead).1 := by
  induction steps generalizing behind ahead with
  | nil => exact defers
  | cons step steps ih =>
      rw [List.forall_mem_cons] at plain
      simp only [runAll, List.map_cons, List.cons.injEq] at agree
      obtain ⟨firstBehind, restBehind⟩ := safeBehind.uncons
      obtain ⟨firstAhead, restAhead⟩ := safeAhead.uncons
      refine ih plain.2 ?_ restBehind restAhead agree.2
      cases step with
      | call operation plan =>
          obtain rfl := List.isEmpty_iff.1 plain.1
          exact defers.call restores firstBehind firstAhead agree.1
      | query => exact defers
      | reset => exact ⟨defers.alike.step rfl rfl, defers.ledger⟩
      | mint | transfer | setClock | advance | setDating | unknown =>
          simp [Step.isPlain] at plain

end Defers

end World

section

variable {host : Host} {operation : Operation} {place : Nat} {steps : List Step} {world : World}

section

variable {inner written : World} {effect : Effect} {made : List Passage} {pending : List Transfer}

/-- When a call is safe that is re-entered at a transfer, what it meets there is safe, and so are
the transfers from there on. -/
theorem World.StaysSafe.entered
    (performed : operation.perform host world.moment world.books = .ok effect)
    (committed : world.commit effect = .ok written)
    (reaches : written.Reaches effect.transfers place made inner pending)
    (safe : world.StaysSafe host [.call operation (planAt place steps)]) :
    inner.StaysSafe host steps ∧
      ∀ passage ∈ carryCourse pending (runAll host steps inner).1,
        passage.world.ledger.IsSafe := by
  have lasting := safe.lasting
  simp only [runCourse, List.append_nil, Step.course, performed, committed,
    reaches.settleCourse_eq, List.cons_append, List.forall_mem_cons,
    List.forall_mem_append] at lasting
  obtain ⟨first, ⟨⟨before, met⟩, others⟩, _⟩ := lasting
  obtain ⟨passage, isLast, rfl⟩ := Option.map_eq_some_iff.1 (reaches.world_getLast? .fail)
  refine ⟨⟨?_, met⟩, others⟩
  rcases List.mem_cons.1 (List.mem_of_getLast? isLast) with rfl | mem
  · exact first
  · exact before passage mem

/-- The worlds in which a call ends that is re-entered, and in which the same steps end that are run
after it, both are alike the world in which the steps end that are met. -/
theorem World.Reaches.alike
    (performed : operation.perform host world.moment world.books = .ok effect)
    (committed : world.commit effect = .ok written)
    (reaches : written.Reaches effect.transfers place made inner pending)
    (plain : ∀ step ∈ steps, step.isPlain = true)
    {reentered alone : World × Report}
    (isReentered : reentered = (Step.call operation (planAt place steps)).run host world)
    (isAlone : alone = (Step.call operation []).run host world)
    (returned : reentered.2.succeeds = true) (aloneReturned : alone.2.succeeds = true)
    (agree : (runAll host steps inner).2.map (·.succeeds) =
      (runAll host steps alone.1).2.map (·.succeeds)) :
    Alike (runAll host steps inner).1 reentered.1 ∧
      Alike (runAll host steps inner).1 (runAll host steps alone.1).1 ∧
      (host.restoresLedger = true →
        world.StaysSafe host [.call operation (planAt place steps)] →
        world.StaysSafe host (.call operation [] :: steps) →
        Defers pending (runAll host steps inner).1 reentered.1 ∧
          Defers pending (runAll host steps inner).1 (runAll host steps alone.1).1) := by
  rw [reaches.run_eq performed committed] at isReentered
  rw [reaches.run_alone_eq performed committed] at isAlone
  subst isReentered isAlone
  obtain ⟨ending, isReentered⟩ := Settlement.conclude_of_succeeds returned
  obtain ⟨aloneEnding, isAlone⟩ := Settlement.conclude_of_succeeds aloneReturned
  rw [isAlone] at agree ⊢
  rw [isReentered]
  refine ⟨.carried _ pending, Alike.run (.carried inner pending) plain agree, ?_⟩
  intro restores safe safeAfter
  obtain ⟨met, others⟩ := safe.entered performed committed reaches
  obtain ⟨⟨_, lasting⟩, rest⟩ := safeAfter.uncons
  rw [reaches.run_alone_eq performed committed, isAlone] at rest
  simp only [runCourse, List.append_nil, Step.course, performed, committed, settleCourse,
    reaches.carryCourse_eq, List.cons_append, List.forall_mem_cons, List.forall_mem_append]
    at lasting
  obtain ⟨_, ⟨_, remaining⟩, _⟩ := lasting
  have began : Defers pending inner (inner.carryAll pending).world.taken :=
    .carried aloneEnding met.now remaining
  exact ⟨.carried ending met.final others, began.run restores plain met rest agree⟩

end

/-- Steps that a transfer of a call meets can as well be run after the call. They start from a world
with the very books and trail that the call leaves when it meets nothing and returns, on whatever
ledger. And if the call returns, and just those calls succeed that succeed when the same steps are
run after it, then both runs end with the same books and the same trail, and with the same balances
if no account ever holds more than is exact. -/
theorem reentry_is_deferred {reentered : World × Report}
    (isReentered : reentered = (Step.call operation (planAt place steps)).run host world) :
    (∀ inner, world.entrance? host operation place = some inner →
      reentered.2.nested = (runAll host steps inner).2 ∧
      (∃ before later, (Step.call operation (planAt place steps)).course host world =
          before ++ runCourse host steps inner ++ later ∧
        before.getLast?.map (·.world) = some inner) ∧
      ∀ ledger alone, alone = (Step.call operation []).run host { world with ledger } →
        alone.2.succeeds = true →
          inner.books = alone.1.books ∧ inner.trail = alone.1.trail) ∧
    (world.entrance? host operation place = none → reentered.2.nested = []) ∧
    ((∀ step ∈ steps, step.isPlain = true) → reentered.2.succeeds = true →
      ∀ deferred, deferred = runAll host (.call operation [] :: steps) world →
        (reentered.2 :: reentered.2.nested).map (·.succeeds) =
          deferred.2.map (·.succeeds) →
        reentered.1.books = deferred.1.books ∧ reentered.1.trail = deferred.1.trail ∧
          (host.restoresLedger = true →
            world.StaysSafe host [.call operation (planAt place steps)] →
            world.StaysSafe host (.call operation [] :: steps) →
            ∀ asset holder, reentered.1.ledger.balance asset holder =
              deferred.1.ledger.balance asset holder)) := by
  refine ⟨fun inner entrance => ?_, fun missed => ?_, ?_⟩
  · obtain ⟨reports, course⟩ := World.course_of_entrance? entrance
    exact ⟨isReentered ▸ reports, course, fun _ _ => World.entrance_agrees entrance⟩
  · rw [isReentered, World.run_of_entrance?_eq_none missed, Step.nested_run_alone]
  rintro plain returned _ rfl agree
  simp only [runAll, List.map_cons, List.cons.injEq] at agree ⊢
  obtain ⟨first, agree⟩ := agree
  have aloneReturned := first.symm.trans returned
  cases entrance : world.entrance? host operation place with
  | none =>
      rw [World.run_of_entrance?_eq_none entrance] at isReentered
      rw [isReentered, Step.nested_run_alone] at agree
      -- As nothing was met and everything agrees, there is nothing to be run afterwards either.
      have none : (runAll host steps ((Step.call operation []).run host world).1).2 = [] :=
        List.map_eq_nil_iff.1 agree.symm
      have size := length_runAll host steps ((Step.call operation []).run host world).1
      rw [none] at size
      obtain rfl := List.length_eq_zero_iff.1 size.symm
      rw [isReentered]
      exact ⟨rfl, rfl, fun _ _ _ _ _ => rfl⟩
  | some inner =>
      obtain ⟨effect, written, made, pending, performed, committed, reaches⟩ :=
        World.entrance?_eq_some entrance
      rw [isReentered, (World.course_of_entrance? entrance).1] at agree
      obtain ⟨⟨_, _, isEnd⟩, ⟨_, _, isAfter⟩, defers⟩ :=
        reaches.alike performed committed plain isReentered rfl returned aloneReturned agree
      refine ⟨by rw [isEnd, isAfter], by rw [isEnd, isAfter], ?_⟩
      intro restores safe safeAfter asset holder
      obtain ⟨one, other⟩ := defers restores safe safeAfter
      exact Int.ofNat_inj.1 (add_right_cancel
        ((one.ledger asset holder).trans (other.ledger asset holder).symm))

end

end SavingsCircle
