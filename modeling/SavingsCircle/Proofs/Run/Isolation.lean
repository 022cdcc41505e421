import SavingsCircle.Proofs.Circle.Locality
import SavingsCircle.Proofs.Run.Alone

/-!
# Circles do not interfere

A call that is not re-entered leaves alone all that it is not about: it has the effect that was
decided on the books or none, and that effect leaves the rest alone. In the other direction, a call
on a circle takes the same course in two worlds that agree on the circle (`World.AgreesOn`) and may
hold other circles besides. The checks go alike, so it is refused in both or asks for the same
transfers in both; these meet the same ledger, and the answer is read from records that are the
same. Afterwards the worlds agree on the circle again, and so the next call on it cannot tell them
apart either.
-/

namespace SavingsCircle

/-- Worlds that agree on a circle and on all that a call on it finds besides the books. -/
structure World.AgreesOn (number : Nat) (world other : World) : Prop where
  books : world.books.AgreesOn number other.books
  ledger : world.ledger = other.ledger
  now : world.now = other.now
  draws : world.draws = other.draws
  /-- The clocks that date audit entries both show a date, or neither does. -/
  dated : world.stamp?.isSome = other.stamp?.isSome

section

variable {host : Host} {operation : Operation} {plan : List Encounter} {number : Nat}
variable {world other written otherWritten : World} {effect otherEffect : Effect}

namespace World.AgreesOn

theorem moment (agrees : world.AgreesOn number other) : world.moment = other.moment := by
  rw [World.moment, World.moment, agrees.now, agrees.draws]

/-- The same events can be recorded in both worlds or in neither. -/
theorem recorded (agrees : world.AgreesOn number other) (events : List Event) :
    Alike (fun _ _ => True) (demandSome (world.recorded? events) .undated)
      (demandSome (other.recorded? events) .undated) := by
  rw [recorded?, recorded?]
  split
  · exact .ok trivial
  · have dated := agrees.dated
    cases stamp : world.stamp? with
    | none =>
        rw [stamp, Option.isSome_none, eq_comm, Option.isSome_eq_false_iff,
          Option.isNone_iff_eq_none] at dated
        rw [dated]
        exact .error
    | some _ =>
        rw [stamp, Option.isSome_some, eq_comm, Option.isSome_iff_exists] at dated
        obtain ⟨_, dated⟩ := dated
        rw [dated]
        exact .ok trivial

theorem commit (agrees : world.AgreesOn number other) (same : effect.Matches number otherEffect) :
    Alike (fun written otherWritten : World =>
        written.AgreesOn number otherWritten ∧ written.answer = otherWritten.answer)
      (world.commit effect) (other.commit otherEffect) := by
  rw [World.commit, World.commit, ← same.events]
  refine (agrees.recorded effect.events).bind fun _ _ _ => .ok ?_
  have answers := congrArg (Option.getD · .nothing) same.answer
  exact ⟨⟨same.books, agrees.ledger, agrees.now, same.draws, agrees.dated⟩, answers⟩

/-- A call ends alike in both worlds once its transfers have gone alike. -/
theorem conclude (agrees : world.AgreesOn number other)
    (writtenAgrees : written.AgreesOn number otherWritten)
    (answers : written.answer = otherWritten.answer) (ledger : Ledger)
    (failure : Option Failure) :
    let ran := Settlement.conclude ⟨{ written with ledger }, [], failure⟩ host world
    let otherRan := Settlement.conclude ⟨{ otherWritten with ledger }, [], failure⟩ host other
    ran.2 = otherRan.2 ∧ ran.1.AgreesOn number otherRan.1 := by
  obtain ⟨books, -, now, draws, dated⟩ := writtenAgrees
  cases failure with
  | none =>
      have outcomes : Report.of (.ok written.answer) [] = .of (.ok otherWritten.answer) [] := by
        rw [answers]
      exact ⟨outcomes, books, rfl, now, draws, dated⟩
  | some failure =>
      refine ⟨rfl, agrees.books, ?_, now, draws, dated⟩
      simp only [Settlement.conclude, World.undone, agrees.ledger]

/-- A call on a circle that is not re-entered cannot tell worlds apart that agree on the circle. -/
theorem run (agrees : world.AgreesOn number other) (isOn : operation.isOn number = true)
    (idle : ∀ met ∈ plan, met.isIdle = true) :
    ((Step.call operation plan).run host world).2 =
        ((Step.call operation plan).run host other).2 ∧
      ((Step.call operation plan).run host world).1.AgreesOn number
        ((Step.call operation plan).run host other).1 := by
  have performs : Alike (Effect.Matches number)
      (operation.perform host world.moment world.books)
      (operation.perform host other.moment other.books) :=
    agrees.moment ▸ operation.perform_alike isOn agrees.books host world.moment
  obtain ⟨failure, refused, otherRefused⟩ |
    ⟨effect, otherEffect, performed, otherPerformed, same⟩ := performs.ends
  · rw [Step.run_of_refused refused, Step.run_of_refused otherRefused]
    exact ⟨rfl, agrees.books, agrees.ledger, agrees.now, agrees.draws, agrees.dated⟩
  obtain ⟨failure, undated, otherUndated⟩ |
    ⟨written, otherWritten, committed, otherCommitted, related, answers⟩ :=
    (agrees.commit same).ends
  · rw [Step.run_of_unrecorded performed undated,
      Step.run_of_unrecorded otherPerformed otherUndated]
    exact ⟨rfl, agrees.books, agrees.ledger, agrees.now, same.draws, agrees.dated⟩
  · rw [Step.run_of_idle idle performed committed,
      Step.run_of_idle idle otherPerformed otherCommitted, ← agrees.ledger, ← same.transfers]
    exact agrees.conclude related answers _ _

end World.AgreesOn

/-- A call that is not re-entered leaves alone what it is not about. -/
theorem LeavesOthers.run (isLocal : operation.isLocal = true)
    (idle : ∀ met ∈ plan, met.isIdle = true) :
    LeavesOthers operation world.now world.books
      ((Step.call operation plan).run host world).1.books := by
  cases performed : operation.perform host world.moment world.books with
  | error failure =>
      rw [Step.run_of_refused performed]
      exact .refl _ _ _
  | ok effect =>
      have leaves := (performs_of_perform performed).leavesOthers isLocal
      cases Step.ends_of_idle idle performed with
      | undone books | paid books => exact books ▸ .refl _ _ _
      | returned books => exact books ▸ leaves

/-- Circles do not interfere: a call on a circle or on a deposit leaves all others alone, and a call
or a query on a circle goes the same way whatever the other circles are. Both are said of calls that
are not re-entered. -/
theorem circles_do_not_interfere (host : Host) :
    (∀ (operation : Operation) (plan : List Encounter) (world : World),
      operation.isLocal = true → (∀ met ∈ plan, met.isIdle = true) →
        LeavesOthers operation world.now world.books
          ((Step.call operation plan).run host world).1.books) ∧
    ∀ (number : Nat) (world other : World), world.AgreesOn number other →
      (∀ (operation : Operation) (plan : List Encounter),
        operation.isOn number = true → (∀ met ∈ plan, met.isIdle = true) →
          ((Step.call operation plan).run host world).2 =
              ((Step.call operation plan).run host other).2 ∧
            ((Step.call operation plan).run host world).1.AgreesOn number
              ((Step.call operation plan).run host other).1) ∧
      ∀ query : Query, query.isOn number = true → query.answer world = query.answer other :=
  ⟨fun _ _ _ isLocal idle => LeavesOthers.run isLocal idle,
    fun _ _ _ agrees => ⟨fun _ _ isOn idle => agrees.run isOn idle,
      fun _ isOn => Query.answer_alike isOn agrees.books⟩⟩

end

/-- A member who is put out of one circle pays into another as if there were no other. -/
theorem circles_do_not_interfere_of_contribution :
    let proof := Host.sample.proofOf
    let first : List Step :=
      [.mint "USDC" "a" (.ofNat 200), .call (.createCircle (proof "b") .sample) [],
        .call (.join (proof "a") (.ofNat 1)) [], .call (.join (proof "b") (.ofNat 1)) []]
    let second : List Step :=
      [.call (.createCircle (proof "b") .sample) [], .call (.join (proof "a") (.ofNat 2)) [],
        .call (.join (proof "b") (.ofNat 2)) [], .call (.eject (proof "b") (.ofNat 2) "a") []]
    let world := (runAll Host.sample (first ++ second) World.sample).1
    let other := (runAll Host.sample first World.sample).1
    let contribution : Operation := .contribute (proof "a") (.ofNat 1)
    let query : Query := .member (.ofNat 1) "a"
    (world.books.records.record? 2 "a").map (·.status) = some .ejected ∧ world.AgreesOn 1 other ∧
      LeavesOthers contribution world.now world.books
        ((Step.call contribution []).run Host.sample world).1.books ∧
      (((Step.call contribution []).run Host.sample world).2 =
          ((Step.call contribution []).run Host.sample other).2 ∧
        ((Step.call contribution []).run Host.sample world).1.AgreesOn 1
          ((Step.call contribution []).run Host.sample other).1) ∧
      query.answer world = query.answer other := by
  intro proof first second world other contribution query
  have ejected : (world.books.records.record? 2 "a").map (·.status) = some .ejected := by
    decide +kernel
  have agrees : world.AgreesOn 1 other :=
    { books :=
        { circle := by decide +kernel
          records := by
            rw [Records.SameOf]
            decide +kernel
          protocol := by decide +kernel }
      ledger := by decide +kernel
      now := by decide +kernel
      draws := by decide +kernel
      dated := by decide +kernel }
  have others := (circles_do_not_interfere Host.sample).1 contribution [] world rfl (by simp)
  have alike := (circles_do_not_interfere Host.sample).2 1 world other agrees
  exact ⟨ejected, agrees, others, alike.1 contribution [] (by decide +kernel) (by simp),
    alike.2 query (by decide +kernel)⟩

end SavingsCircle
