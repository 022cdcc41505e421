import SavingsCircle.Proofs.Circle.Withdrawals
import SavingsCircle.Proofs.Number.Rounding
import SavingsCircle.Proofs.Run.Alone
import SavingsCircle.Proofs.Run.Failure
import SavingsCircle.Proofs.Run.Reentry

/-!
# The emergency lock

A call of an administrator notes the time as soon as it knows who calls, long before it is through
with its checks. Yet only those that succeed count: a refused call writes nothing, and a call that
fails later is undone. So the books show when an administrator was last active, which can be told
from the reports of a run alone (`activities`), and the emergency lock goes by just that.
-/

namespace SavingsCircle

/-- The calls by which an administrator, of the service or of a circle, shows activity. -/
def Operation.showsActivity : Operation → Bool
  | .claimProtocol .. | .setProtocolFee .. | .adminAction .. | .transferAdmin .. | .kick ..
  | .swapByAdmin .. | .eject .. | .fillVacancy .. | .finalize .. | .processPayout .. | .rollover ..
  | .coverMember .. => true
  | _ => false

def Step.showsActivity : Step → Bool
  | .call operation _ => operation.showsActivity
  | _ => false

/-- What the clock showed at each successful call by which an administrator showed activity. -/
def activities (host : Host) : List Step → World → List Number
  | [], _ => []
  | step :: steps, world =>
    let ran := step.run host world
    (if step.showsActivity && ran.2.succeeds then [world.now] else []) ++
      activities host steps ran.1

/-- A step that neither calls the service nor empties its books. -/
def Step.isOutside : Step → Bool
  | .call .. | .reset => false
  | _ => true

/-- A step that does not empty the books, and whose transfers meet no calls. -/
def Step.isUnentered : Step → Bool
  | .call _ plan => plan.all fun | .meets steps _ => steps.all (·.isOutside)
  | .reset => false
  | _ => true

section

variable {host : Host} {moment : Moment} {books : Books} {operation : Operation} {effect : Effect}
variable {plan : List Encounter} {world : World} {step : Step} {steps : List Step}

theorem Operation.showsActivity_eq {id : Number} (named : operation.circleId? = some id) :
    operation.showsActivity = operation.isAdministrative := by
  cases operation <;> first | rfl | exact nomatch named

/-- What a call makes of the time of the last activity. -/
theorem Performs.lastActiveAt (performs : Performs host moment books operation effect) :
    effect.books.lastActiveAt =
      if operation.showsActivity then moment.now else books.lastActiveAt := by
  cases performs with
  | byAdmin named _ _ administers =>
      rw [Operation.showsActivity_eq named, administers]
      rfl
  | byMember named _ _ belongs =>
      rw [Operation.showsActivity_eq named, belongs]
      rfl
  | _ => rfl

theorem Step.books_run_of_isOutside (outside : step.isOutside = true) :
    (step.run host world).1.books = world.books := by
  cases step with
  | call | reset => simp [isOutside] at outside
  | _ => exact books_run_of_not_call rfl (by simp [course, Move.isReset])

theorem books_runAll_of_isOutside (outside : steps.all (·.isOutside) = true) :
    (runAll host steps world).1.books = world.books := by
  induction steps generalizing world with
  | nil => rfl
  | cons step steps ih =>
      rw [List.all_cons, Bool.and_eq_true] at outside
      exact (ih outside.2).trans (Step.books_run_of_isOutside outside.1)

/-- Transfers that meet no calls leave the books alone. -/
theorem books_settle_of_isOutside (transfers : List Transfer)
    (outside : plan.all (fun | .meets steps _ => steps.all (·.isOutside)) = true) :
    (settle host plan transfers world).world.books = world.books := by
  induction plan generalizing transfers world with
  | nil =>
      obtain ⟨_, same⟩ := world.world_carryAll transfers
      rw [settle, same]
  | cons met plan ih =>
      obtain ⟨steps, fault⟩ := met
      rw [List.all_cons, Bool.and_eq_true] at outside
      have before : (runAll host steps world).1.books = world.books :=
        books_runAll_of_isOutside outside.1
      cases transfers with
      | nil => rfl
      | cons transfer transfers =>
          simp only [settle]
          cases fault with
          | some _ => exact before
          | none =>
              cases made : (runAll host steps world).1.carry transfer with
              | error _ => exact before
              | ok next =>
                  obtain ⟨_, _, rfl⟩ := World.carry_eq_ok made
                  exact (ih transfers outside.2).trans before

/-- A step moves the time of the last activity only if it is a call that shows activity and
succeeds, and then to what the clock showed when it began. -/
theorem Step.lastActiveAt_run (unentered : step.isUnentered = true) :
    (step.run host world).1.books.lastActiveAt =
      if step.showsActivity && (step.run host world).2.succeeds then world.now
      else world.books.lastActiveAt := by
  cases step with
  | call operation plan =>
      cases ending : ((Step.call operation plan).run host world).2.succeeds with
      | false =>
          obtain ⟨_, failed⟩ := Report.succeeds_eq_false_iff.1 ending
          rw [Step.books_of_run_eq_error failed, Bool.and_false, if_neg Bool.false_ne_true]
      | true =>
          obtain ⟨_, returned⟩ := Report.succeeds_eq_true_iff.1 ending
          obtain ⟨effect, written, performed, committed, _, isRun, _⟩ := Step.run_eq_ok returned
          -- The transfers follow what the call writes, and meet no call that writes again.
          have kept : (settle host plan effect.transfers written).world.books = written.books :=
            books_settle_of_isOutside _ unentered
          rw [isRun, Bool.and_true]
          change (settle host plan effect.transfers written).world.books.lastActiveAt = _
          rw [kept, World.books_commit committed, (performs_of_perform performed).lastActiveAt]
          rfl
  | reset => simp [isUnentered] at unentered
  | _ => exact congrArg Books.lastActiveAt (books_run_of_isOutside rfl)

/-- The time of the last activity after steps. -/
theorem lastActiveAt_runAll (unentered : ∀ step ∈ steps, step.isUnentered = true) :
    (runAll host steps world).1.books.lastActiveAt =
      (activities host steps world).getLast?.getD world.books.lastActiveAt := by
  induction steps generalizing world with
  | nil => rfl
  | cons step steps ih =>
      rw [List.forall_mem_cons] at unentered
      rw [runAll, ih unentered.2, activities, Step.lastActiveAt_run unentered.1]
      simp only [List.getLast?_append]
      cases (activities host steps (step.run host world).1).getLast? with
      | some _ => rfl
      | none =>
          cases step.showsActivity && (step.run host world).2.succeeds <;> rfl

/-- A valid proof fails at the lock just while the lock is on. -/
theorem emergencyWithdraw_fails_locked_iff {proof : Option Proof} {user : Address} {asset : Asset}
    (caller : host.authorize proof = .ok user) :
    ((Step.call (.emergencyWithdraw proof asset) plan).run host world).2.outcome =
        .error (.ofKind .emergencyWithdrawalNotAvailable) ↔
      world.books.isUnlocked world.now = false := by
  have opened : (Operation.emergencyWithdraw proof asset).perform host world.moment world.books =
      .error (.ofKind .emergencyWithdrawalNotAvailable) ↔
        world.books.isUnlocked world.now = false := by
    rw [Operation.perform, Books.emergencyWithdraw, caller, World.moment]
    cases world.books.isUnlocked world.now <;>
      simp [demand, bind, Except.bind, pure, Except.pure]
  rw [← opened]
  constructor
  · exact Step.perform_of_run_eq_error (by decide)
  · intro refused
    rw [Step.run_of_refused refused]
    rfl

end

/-- In a run whose calls are not re-entered, the books show what the clock showed at the last
successful call by which an administrator showed activity, or what it showed in the beginning. No
other step moves that, and no call that fails. An emergency withdrawal with a valid proof gets past
the lock just if the clock shows more than seven days after it, as sums are computed, and for whole
seconds exactly so. -/
theorem lock_follows_activity {host : Host} {now clock : Number} {nonce : String} {draws : Draws}
    {steps : List Step} {world : World} {last : Number}
    (unentered : ∀ step ∈ steps, step.isUnentered = true)
    (isWorld : world = (runAll host steps (.opened now clock nonce draws)).1)
    (isLast : last = (activities host steps (.opened now clock nonce draws)).getLast?.getD now) :
    world.books.lastActiveAt = last ∧
      (∀ step : Step, step.isUnentered = true →
        step.showsActivity = false ∨ (step.run host world).2.succeeds = false →
          (step.run host world).1.books.lastActiveAt = last) ∧
      ∀ proof user asset plan, host.authorize proof = .ok user →
        ∀ outcome,
          outcome =
            ((Step.call (.emergencyWithdraw proof asset) plan).run host world).2.outcome →
          (outcome ≠ .error (.ofKind .emergencyWithdrawalNotAvailable) ↔
            (last.add (.ofNat 604800)).lt world.now = true) ∧
          ∀ active present : Int, last = .ofInt active → world.now = .ofInt present →
            active.natAbs ≤ Number.maxSafe → present.natAbs ≤ Number.maxSafe →
              (outcome ≠ .error (.ofKind .emergencyWithdrawalNotAvailable) ↔
                active + 604800 < present) := by
  have shown : world.books.lastActiveAt = last := by
    rw [isWorld, isLast, lastActiveAt_runAll unentered]
    rfl
  refine ⟨shown, ?_, ?_⟩
  · intro step alone passive
    have inactive : (step.showsActivity && (step.run host world).2.succeeds) = false := by
      rwa [Bool.and_eq_false_iff]
    rw [Step.lastActiveAt_run alone, inactive, if_neg Bool.false_ne_true, shown]
  · rintro proof user asset plan caller outcome rfl
    have passes :
        ((Step.call (.emergencyWithdraw proof asset) plan).run host world).2.outcome ≠
            .error (.ofKind .emergencyWithdrawalNotAvailable) ↔
          (last.add (.ofNat 604800)).lt world.now = true := by
      rw [Ne, emergencyWithdraw_fails_locked_iff caller, Bool.not_eq_false, Books.isUnlocked, shown]
      rfl
    refine ⟨passes, fun active present isActive isPresent small isSafe => ?_⟩
    rw [passes, isActive, isPresent, Number.add_ofNat_lt_iff 604800 small isSafe]
    rfl

/-- A fee that is too high is refused, after its setter was known. The lock goes by the time at
which the service was claimed all the same, and opens a second after seven days from then. -/
theorem lock_ignores_refusal :
    let steps : List Step :=
      [.mint "USDC" "a" (.ofNat 10),
        .call (.deposit (Host.sample.proofOf "a") "USDC" (.ofNat 10))
          [.meets [.advance (.ofNat 9)] none],
        .setClock (.ofNat 1700000100), .call (.claimProtocol (Host.sample.proofOf "root")) [],
        .setClock (.ofNat 1700000200),
        .call (.setProtocolFee (Host.sample.proofOf "root") (.ofNat 10001) (some "t")) [],
        .setClock (.ofNat 1700604901)]
    let world := (runAll Host.sample steps World.sample).1
    let withdrawal : Step := .call (.emergencyWithdraw (Host.sample.proofOf "a") "USDC") []
    (runAll Host.sample steps World.sample).2.map (·.succeeds) =
        [true, true, true, true, true, false, true] ∧
      world.books.lastActiveAt = .ofNat 1700000100 ∧
      (withdrawal.run Host.sample world).2.outcome ≠
        .error (.ofKind .emergencyWithdrawalNotAvailable) := by
  intro steps world withdrawal
  have unentered : ∀ step ∈ steps, step.isUnentered = true := by decide
  have outcomes : (runAll Host.sample steps World.sample).2.map (·.succeeds) =
      [true, true, true, true, true, false, true] := by decide +kernel
  have isLast : (.ofNat 1700000100 : Number) =
      (activities Host.sample steps World.sample).getLast?.getD (.ofNat 1700000000) := by
    decide +kernel
  have caller : Host.sample.authorize (Host.sample.proofOf "a") = .ok "a" := by decide +kernel
  have present : world.now = .ofInt 1700604901 := by decide +kernel
  have isWorld : world = (runAll Host.sample steps World.sample).1 := rfl
  clear_value world
  obtain ⟨shown, _, lock⟩ := lock_follows_activity unentered isWorld isLast
  have passes := (lock _ _ "USDC" [] caller _ rfl).2 1700000100 1700604901 rfl present
    (by decide) (by decide)
  exact ⟨outcomes, shown, passes.2 (by decide)⟩

end SavingsCircle
