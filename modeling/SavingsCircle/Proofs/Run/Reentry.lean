import SavingsCircle.Proofs.Run.Answer

/-!
# Re-entered calls

A call writes the books and the trail before its first transfer, and nothing but the ledger after
it. What one of its transfers meets therefore finds the books and the trail as the call leaves them
in the end (`World.entrance_agrees`). Nothing but a transfer reads the ledger. So calls do the same
in worlds that differ in the ledger, as long as none succeeds in one world and fails in the other
(`World.Alike`).
-/

namespace SavingsCircle

namespace Report

def succeeds : Report → Bool
  | .of (.ok _) _ => true
  | .of (.error _) _ => false

theorem succeeds_eq_true_iff {report : Report} :
    report.succeeds = true ↔ ∃ answer, report.outcome = .ok answer := by
  obtain ⟨_ | _, _⟩ := report <;> simp [succeeds, outcome]

theorem succeeds_eq_false_iff {report : Report} :
    report.succeeds = false ↔ ∃ failure, report.outcome = .error failure := by
  obtain ⟨_ | _, _⟩ := report <;> simp [succeeds, outcome]

end Report

theorem Settlement.succeeds_conclude (settlement : Settlement) (host : Host) (start : World) :
    (settlement.conclude host start).2.succeeds = settlement.failure.isNone := by
  obtain ⟨_, _, _ | _⟩ := settlement <;> rfl

/-- Whether a step asks something of the service, and its transfers meet nothing. -/
def Step.isPlain : Step → Bool
  | .call _ plan => plan.isEmpty
  | .query _ | .reset => true
  | _ => false

/-- The plan of a call in which steps are met by one transfer only, the one at a place. -/
def planAt (place : Nat) (steps : List Step) : List Encounter :=
  List.replicate place (.meets [] none) ++ [.meets steps none]

namespace World

/-- The world in which the transfer at a place is about to be made, and the transfers to be made
from there on, if those before it are made and meet nothing. -/
def reaching? (world : World) : Nat → List Transfer → Option (World × List Transfer)
  | _, [] => none
  | 0, transfer :: transfers => some (world, transfer :: transfers)
  | place + 1, transfer :: transfers =>
    match world.carry transfer with
    | .ok next => next.reaching? place transfers
    | .error _ => none

/-- The world that an operation leaves to what its transfer at a place meets, if it gets there. -/
def entrance? (world : World) (host : Host) (operation : Operation) (place : Nat) :
    Option World :=
  match operation.perform host world.moment world.books with
  | .error _ => none
  | .ok effect =>
    match world.commit effect with
    | .error _ => none
    | .ok written => (written.reaching? place effect.transfers).map (·.1)

/-- A world is got to by making transfers, with the transfers to be made from there on. -/
inductive Reaches :
    World → List Transfer → Nat → List Passage → World → List Transfer → Prop where
  | here {world transfer transfers} :
      Reaches world (transfer :: transfers) 0 [] world (transfer :: transfers)
  | next {world transfer transfers place next made inner pending}
      (carried : world.carry transfer = .ok next)
      (rest : Reaches next transfers place made inner pending) :
      Reaches world (transfer :: transfers) (place + 1) (⟨.carry transfer, next⟩ :: made) inner
        pending

variable {host : Host} {world inner : World} {place : Nat} {transfers pending : List Transfer}
variable {steps : List Step} {made : List Passage}

theorem reaches_of_reaching? (reached : world.reaching? place transfers = some (inner, pending)) :
    ∃ made, world.Reaches transfers place made inner pending := by
  induction place generalizing world transfers with
  | zero =>
      cases transfers with
      | nil => simp [reaching?] at reached
      | cons transfer transfers =>
          simp only [reaching?, Option.some.injEq, Prod.mk.injEq] at reached
          obtain ⟨rfl, rfl⟩ := reached
          exact ⟨[], .here⟩
  | succ place ih =>
      cases transfers with
      | nil => simp [reaching?] at reached
      | cons transfer transfers =>
          simp only [reaching?] at reached
          cases carried : world.carry transfer with
          | error _ => simp [carried] at reached
          | ok next =>
              rw [carried] at reached
              obtain ⟨made, reaches⟩ := ih reached
              exact ⟨_, .next carried reaches⟩

/-- Steps are not met when the transfer at their place does not come about. -/
theorem settle_of_reaching?_eq_none (missed : world.reaching? place transfers = none) :
    settle host (planAt place steps) transfers world = world.carryAll transfers := by
  induction place generalizing world transfers with
  | zero =>
      cases transfers with
      | nil => rfl
      | cons => simp [reaching?] at missed
  | succ place ih =>
      cases transfers with
      | nil => rfl
      | cons transfer transfers =>
          simp only [planAt, List.replicate_succ, List.cons_append, settle, runAll, carryAll]
          simp only [reaching?] at missed
          cases carried : world.carry transfer with
          | error _ => rfl
          | ok next =>
              rw [carried] at missed
              exact ih missed

theorem reports_carryAll (world : World) (transfers : List Transfer) :
    (world.carryAll transfers).reports = [] := by
  induction transfers generalizing world with
  | nil => rfl
  | cons transfer transfers ih =>
      simp only [carryAll]
      split
      · exact ih _
      · rfl

namespace Reaches

theorem world_eq (reaches : world.Reaches transfers place made inner pending) :
    ∃ ledger, inner = { world with ledger } := by
  induction reaches with
  | here => exact ⟨_, rfl⟩
  | next carried _ ih =>
      obtain ⟨_, _, rfl⟩ := carry_eq_ok carried
      exact ih

theorem carryAll_eq (reaches : world.Reaches transfers place made inner pending) :
    world.carryAll transfers = inner.carryAll pending := by
  induction reaches with
  | here => rfl
  | next carried _ ih =>
      simp only [carryAll, carried]
      exact ih

theorem carryCourse_eq (reaches : world.Reaches transfers place made inner pending) :
    carryCourse transfers world = made ++ carryCourse pending inner := by
  induction reaches with
  | here => rfl
  | next carried _ ih => simp only [carryCourse, carried, ih, List.cons_append]

/-- Steps that are met run in the world got to, and then the transfers from there on are made. -/
theorem settle_eq (reaches : world.Reaches transfers place made inner pending) :
    settle host (planAt place steps) transfers world =
      ((runAll host steps inner).1.carryAll pending).after (runAll host steps inner).2 := by
  induction reaches with
  | @here world transfer transfers =>
      simp only [planAt, List.replicate_zero, List.nil_append, settle, carryAll]
      cases (runAll host steps world).1.carry transfer with
      | error _ => simp [Settlement.after]
      | ok _ => rfl
  | next carried _ ih =>
      simp only [planAt, List.replicate_succ, List.cons_append, settle, runAll, carried]
      exact ih

theorem settleCourse_eq (reaches : world.Reaches transfers place made inner pending) :
    settleCourse host (planAt place steps) transfers world =
      made ++ runCourse host steps inner ++
        carryCourse pending (runAll host steps inner).1 := by
  induction reaches with
  | here => rfl
  | next carried _ ih =>
      simp only [planAt, List.replicate_succ, List.cons_append, settleCourse, runAll, runCourse,
        carried, List.nil_append]
      rw [← planAt, ih]

theorem world_getLast? (reaches : world.Reaches transfers place made inner pending) (move : Move) :
    (List.getLast? (⟨move, world⟩ :: made)).map (·.world) = some inner := by
  induction reaches generalizing move with
  | here => rfl
  | next _ _ ih =>
      rw [List.getLast?_cons_cons]
      exact ih _

end Reaches

/-- Worlds that differ in the ledger and in what calls in progress have seen, if in anything. -/
def Alike (world other : World) : Prop := ∃ ledger slips, other = { world with ledger, slips }

/-- A call writes the same whatever the ledger is and whatever calls in progress have seen. -/
theorem commit_of_same (world : World) (ledger : Ledger) (slips : List Slip) (effect : Effect) :
    World.commit { world with ledger, slips } effect =
      (world.commit effect).map fun written =>
        { written with
          ledger
          slips := Slip.issue effect.receipt effect.books :: slips.map (·.refresh effect) } := by
  simp only [commit, recorded?, stamp?]
  split
  · rfl
  · cases Stamp.read? world.clock world.nonce <;> rfl

namespace Alike

variable {behind ahead : World}

theorem carried (world : World) (transfers : List Transfer) :
    Alike world (world.carryAll transfers).world.taken := by
  obtain ⟨_, same⟩ := world.world_carryAll transfers
  rw [same]
  exact ⟨_, _, rfl⟩

/-- Calls that both return or both fail end in worlds that are alike. -/
theorem conclude {settlement other : Settlement} (began : Alike behind ahead)
    (ended : Alike settlement.world other.world)
    (agree : settlement.failure.isNone = other.failure.isNone) :
    Alike (settlement.conclude host behind).1 (other.conclude host ahead).1 := by
  obtain ⟨ledger, slips, isEnd⟩ := ended
  obtain ⟨_, _, rfl⟩ := began
  simp only [Settlement.conclude]
  cases ending : settlement.failure with
  | none =>
      rw [ending] at agree
      rw [Option.isNone_iff_eq_none.1 agree.symm, isEnd]
      exact ⟨ledger, _, rfl⟩
  | some _ =>
      rw [ending] at agree
      obtain ⟨_, failed⟩ := Option.isSome_iff_exists.1 (Option.isNone_eq_false_iff.1 agree.symm)
      rw [failed, isEnd]
      exact ⟨_, _, rfl⟩

/-- A call that succeeds in both worlds, or in neither, leaves them alike. -/
theorem call (alike : Alike behind ahead) {operation : Operation}
    (agree : ((Step.call operation []).run host behind).2.succeeds =
      ((Step.call operation []).run host ahead).2.succeeds) :
    Alike ((Step.call operation []).run host behind).1
      ((Step.call operation []).run host ahead).1 := by
  have began := alike
  obtain ⟨ledger, slips, rfl⟩ := alike
  have same : operation.perform host (World.moment { behind with ledger, slips }) behind.books =
    operation.perform host behind.moment behind.books := rfl
  simp only [Step.run, settle] at agree ⊢
  rw [same] at agree ⊢
  cases performed : operation.perform host behind.moment behind.books with
  | error _ => exact ⟨_, _, rfl⟩
  | ok effect =>
      simp only [performed, commit_of_same] at agree ⊢
      cases committed : behind.commit effect with
      | error _ => exact ⟨_, _, rfl⟩
      | ok written =>
          simp only [committed, Except.map, Settlement.succeeds_conclude] at agree ⊢
          refine began.conclude ?_ agree
          obtain ⟨_, isBehind⟩ := written.world_carryAll effect.transfers
          obtain ⟨left, isAhead⟩ := world_carryAll _ effect.transfers
          exact ⟨left, _, by rw [isBehind, isAhead]⟩

/-- A plain step that succeeds in both worlds, or in neither, leaves them alike. -/
theorem step (alike : Alike behind ahead) {step : Step} (plain : step.isPlain = true)
    (agree : (step.run host behind).2.succeeds = (step.run host ahead).2.succeeds) :
    Alike (step.run host behind).1 (step.run host ahead).1 := by
  cases step with
  | call operation plan =>
      obtain rfl := List.isEmpty_iff.1 plain
      exact alike.call agree
  | query => exact alike
  | reset =>
      obtain ⟨ledger, _, rfl⟩ := alike
      exact ⟨ledger, _, rfl⟩
  | mint | transfer | setClock | advance | setDating | unknown => simp [Step.isPlain] at plain

/-- Plain steps that each succeed in both worlds, or in neither, leave them alike. -/
theorem run (alike : Alike behind ahead) (plain : ∀ step ∈ steps, step.isPlain = true)
    (agree : (runAll host steps behind).2.map (·.succeeds) =
      (runAll host steps ahead).2.map (·.succeeds)) :
    Alike (runAll host steps behind).1 (runAll host steps ahead).1 := by
  induction steps generalizing behind ahead with
  | nil => exact alike
  | cons step steps ih =>
      rw [List.forall_mem_cons] at plain
      simp only [runAll, List.map_cons, List.cons.injEq] at agree
      exact ih (alike.step plain.1 agree.1) plain.2 agree.2

end Alike

end World

section

variable {host : Host} {operation : Operation} {place : Nat} {steps : List Step} {world : World}

/-- An operation gets to a transfer by writing and by making the transfers before it. -/
theorem World.entrance?_eq_some {inner : World}
    (entrance : world.entrance? host operation place = some inner) :
    ∃ effect written made pending,
      operation.perform host world.moment world.books = .ok effect ∧
        world.commit effect = .ok written ∧
        written.Reaches effect.transfers place made inner pending := by
  simp only [World.entrance?] at entrance
  cases performed : operation.perform host world.moment world.books with
  | error _ => simp [performed] at entrance
  | ok effect =>
      cases committed : world.commit effect with
      | error _ => simp [performed, committed] at entrance
      | ok written =>
          simp only [performed, committed, Option.map_eq_some_iff] at entrance
          obtain ⟨⟨_, pending⟩, reached, rfl⟩ := entrance
          obtain ⟨made, reaches⟩ := World.reaches_of_reaching? reached
          exact ⟨effect, written, made, pending, rfl, committed, reaches⟩

/-- A call that does not get to the transfer runs as if nothing was to be met there. -/
theorem World.run_of_entrance?_eq_none (missed : world.entrance? host operation place = none) :
    (Step.call operation (planAt place steps)).run host world =
      (Step.call operation []).run host world := by
  simp only [World.entrance?] at missed
  simp only [Step.run, settle]
  cases performed : operation.perform host world.moment world.books with
  | error _ => rfl
  | ok effect =>
      cases committed : world.commit effect with
      | error _ => simp only [committed]
      | ok written =>
          simp only [performed, committed, Option.map_eq_none_iff] at missed
          simp only [committed, World.settle_of_reaching?_eq_none missed]

/-- A call whose transfers meet nothing has no reports of others. -/
theorem Step.nested_run_alone (host : Host) (operation : Operation) (world : World) :
    ((Step.call operation []).run host world).2.nested = [] := by
  simp only [Step.run, settle]
  cases operation.perform host world.moment world.books with
  | error _ => rfl
  | ok effect =>
      cases committed : world.commit effect with
      | error _ =>
          simp only [committed]
          rfl
      | ok written =>
          simp only [committed, Settlement.conclude, World.reports_carryAll]
          cases (written.carryAll effect.transfers).failure <;> rfl

/-- A call that gets to the transfer makes these moves and has these reports. -/
theorem World.course_of_entrance? {inner : World}
    (entrance : world.entrance? host operation place = some inner) :
    ((Step.call operation (planAt place steps)).run host world).2.nested =
        (runAll host steps inner).2 ∧
      ∃ before later, (Step.call operation (planAt place steps)).course host world =
          before ++ runCourse host steps inner ++ later ∧
        before.getLast?.map (·.world) = some inner := by
  obtain ⟨effect, written, made, pending, performed, committed, reaches⟩ :=
    World.entrance?_eq_some entrance
  constructor
  · simp only [Step.run, performed, committed, reaches.settle_eq, Settlement.conclude,
      Settlement.after, World.reports_carryAll, List.append_nil]
    cases ((runAll host steps inner).1.carryAll pending).failure <;> rfl
  · simp only [Step.course, performed, committed, reaches.settleCourse_eq]
    let before : List Passage := ⟨.write operation, written⟩ :: made
    exact ⟨before, _, List.append_assoc (before ++ runCourse host steps inner) _ _,
      reaches.world_getLast? _⟩

/-- Whatever the ledger is, a call that meets nothing leaves the books and the trail as it leaves
them to what its transfers meet. -/
theorem World.entrance_agrees {inner : World}
    (entrance : world.entrance? host operation place = some inner) {ledger : Ledger}
    {alone : World × Report}
    (isAlone : alone = (Step.call operation []).run host { world with ledger })
    (returned : alone.2.succeeds = true) :
    inner.books = alone.1.books ∧ inner.trail = alone.1.trail := by
  obtain ⟨effect, written, made, pending, performed, committed, reaches⟩ :=
    World.entrance?_eq_some entrance
  obtain ⟨_, rfl⟩ := reaches.world_eq
  subst isAlone
  obtain ⟨_, outcome⟩ := Report.succeeds_eq_true_iff.1 returned
  obtain ⟨same, _, again, recorded, _, isRun, _⟩ := Step.run_eq_ok outcome
  obtain rfl := Except.ok.inj (performed.symm.trans again)
  rw [World.commit_of_same, committed] at recorded
  obtain rfl := Except.ok.inj recorded
  obtain ⟨_, ending⟩ := World.world_carryAll _ effect.transfers
  rw [isRun, settle, ending]
  exact ⟨rfl, rfl⟩

theorem Settlement.conclude_of_succeeds {settlement : Settlement}
    (returned : (settlement.conclude host world).2.succeeds = true) :
    settlement.failure = none ∧
      (settlement.conclude host world).1 = settlement.world.taken := by
  rw [succeeds_conclude, Option.isNone_iff_eq_none] at returned
  exact ⟨returned, by rw [conclude, returned]⟩

variable {inner written : World} {effect : Effect} {made : List Passage} {pending : List Transfer}

/-- A call that is re-entered at a transfer ends as the steps met there and the transfers from there
on let it. -/
theorem World.Reaches.run_eq
    (performed : operation.perform host world.moment world.books = .ok effect)
    (committed : world.commit effect = .ok written)
    (reaches : written.Reaches effect.transfers place made inner pending) :
    (Step.call operation (planAt place steps)).run host world =
      (((runAll host steps inner).1.carryAll pending).after (runAll host steps inner).2).conclude
        host world := by
  simp only [Step.run, performed, committed, reaches.settle_eq]

theorem World.Reaches.run_alone_eq
    (performed : operation.perform host world.moment world.books = .ok effect)
    (committed : world.commit effect = .ok written)
    (reaches : written.Reaches effect.transfers place made inner pending) :
    (Step.call operation []).run host world = (inner.carryAll pending).conclude host world := by
  simp only [Step.run, performed, committed, settle, reaches.carryAll_eq]

end

end SavingsCircle
