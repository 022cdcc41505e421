import SavingsCircle.Proofs.Run.Course
import SavingsCircle.Proofs.Service.Opening

/-!
# How calls fail

A call fails because its checks refuse it, because what it would record cannot be dated, or because
one of its transfers is not made: an encounter makes it fail, or the ledger refuses it. What nested
calls fail of is no failure of the call itself.
-/

namespace SavingsCircle

variable {host : Host} {operation : Operation} {plan : List Encounter} {world : World}
variable {failure : Failure}

/-- A call fails of its checks, for want of a date, or of one of its transfers. -/
theorem Step.run_eq_error
    (failed : ((Step.call operation plan).run host world).2.outcome = .error failure) :
    operation.perform host world.moment world.books = .error failure ∨ failure = .undated ∨
      ∃ effect written, operation.perform host world.moment world.books = .ok effect ∧
        world.commit effect = .ok written ∧
        (settle host plan effect.transfers written).failure = some failure := by
  simp only [Step.run] at failed
  cases performed : operation.perform host world.moment world.books with
  | error other =>
      rw [performed] at failed
      obtain rfl := Except.error.inj failed
      exact .inl rfl
  | ok effect =>
      cases committed : world.commit effect with
      | error other =>
          simp only [performed, committed] at failed
          obtain rfl := Except.error.inj failed
          refine .inr (.inl ?_)
          simp only [World.commit, bind_eq_error, demandSome_eq_error] at committed
          rcases committed with ⟨_, rfl⟩ | ⟨_, _, committed⟩
          · rfl
          · simp [pure, Except.pure] at committed
      | ok written =>
          refine .inr (.inr ⟨effect, written, rfl, committed, ?_⟩)
          simp only [performed, committed, Settlement.conclude] at failed
          cases ending : (settle host plan effect.transfers written).failure with
          | none => simp [ending, Report.outcome] at failed
          | some other =>
              rw [ending] at failed
              exact congrArg some (Except.error.inj failed)

/-- A transfer that the ledger refuses is of an amount that is none, or more than its source has. -/
theorem World.carry_eq_error {transfer : Transfer}
    (refused : world.carry transfer = .error failure) :
    (∃ message, failure = .invalidAmount message) ∨
      ∃ message, failure = .circle .insufficientAllowance message := by
  simp only [carry, Ledger.transfer, bind_eq_error, demandSome_eq_error] at refused
  rcases refused with (⟨_, rfl⟩ | ⟨units, _, refused⟩) | ⟨_, _, refused⟩
  · exact .inl ⟨_, rfl⟩
  · split at refused
    · simp [pure, Except.pure] at refused
    · simp only [bind_eq_error, demand_eq_error] at refused
      rcases refused with ⟨_, rfl⟩ | ⟨_, _, refused⟩
      · exact .inr ⟨_, rfl⟩
      · simp [pure, Except.pure] at refused
  · simp [pure, Except.pure] at refused

/-- The transfers of a call fail of a fault or of what the ledger refuses. -/
theorem settle_eq_some (plan : List Encounter) (transfers : List Transfer) (world : World)
    (failed : (settle host plan transfers world).failure = some failure) :
    (∃ message, failure = .fault message) ∨ (∃ message, failure = .invalidAmount message) ∨
      ∃ message, failure = .circle .insufficientAllowance message := by
  induction transfers generalizing plan world with
  | nil => cases plan <;> simp [settle, World.carryAll] at failed
  | cons transfer transfers ih =>
      cases plan with
      | nil =>
          simp only [settle, World.carryAll] at failed
          cases made : world.carry transfer with
          | error other =>
              simp only [made, Option.some.injEq] at failed
              exact .inr (failed ▸ World.carry_eq_error made)
          | ok after =>
              simp only [made] at failed
              exact ih [] after failed
      | cons met plan =>
          obtain ⟨steps, _ | message⟩ := met
          · simp only [settle] at failed
            cases made : (runAll host steps world).1.carry transfer with
            | error other =>
                simp only [made, Option.some.injEq] at failed
                exact .inr (failed ▸ World.carry_eq_error made)
            | ok after =>
                simp only [made] at failed
                exact ih plan after failed
          · simp only [settle, Option.some.injEq] at failed
            exact .inl ⟨message, failed.symm⟩

/-- A call that fails in the service's own words, but not for want of funds in an account, is
refused by its checks. -/
theorem Step.perform_of_run_eq_error {kind : FailureKind} {message : String}
    (funded : kind ≠ .insufficientAllowance)
    (failed : ((Step.call operation plan).run host world).2.outcome =
      .error (.circle kind message)) :
    operation.perform host world.moment world.books = .error (.circle kind message) := by
  rcases Step.run_eq_error failed with refused | undated | ⟨_, _, _, _, unsettled⟩
  · exact refused
  · cases undated
  · rcases settle_eq_some _ _ _ unsettled with ⟨_, other⟩ | ⟨_, other⟩ | ⟨_, other⟩
    · cases other
    · cases other
    · cases other
      exact absurd rfl funded

end SavingsCircle
