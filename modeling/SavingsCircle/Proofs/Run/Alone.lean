import SavingsCircle.Proofs.Custody.Payment
import SavingsCircle.Proofs.Run.Answer

/-!
# Calls that are not re-entered

When nothing is done while the transfers of a call are made, they are a matter of the ledger alone
(`Ledger.settle`). Such a call either leaves the books as they were or has the effect that was
decided on them, and its answer is what its receipt reads from the books as it wrote them.
-/

namespace SavingsCircle

def Encounter.fault : Encounter → Option String
  | .meets _ fault => fault

/-- Makes transfers up to the first that fails. A plan says which are made to fail. -/
def Ledger.settle (ledger : Ledger) : List Encounter → List Transfer → Ledger × Option Failure
  | _, [] => (ledger, none)
  | plan, transfer :: transfers =>
    match plan.head?.bind (·.fault) with
    | some message => (ledger, some (.fault message))
    | none =>
      match ledger.transfer transfer.asset transfer.source transfer.target transfer.amount with
      | .ok next => next.settle plan.tail transfers
      | .error failure => (ledger, some failure)

section

variable {host : Host} {operation : Operation} {plan : List Encounter} {world written : World}
variable {effect : Effect}

theorem World.carry_eq (world : World) (transfer : Transfer) :
    world.carry transfer = (world.ledger.transfer transfer.asset transfer.source transfer.target
      transfer.amount).map fun ledger => { world with ledger } := by
  rw [carry]
  cases world.ledger.transfer transfer.asset transfer.source transfer.target transfer.amount <;> rfl

/-- Transfers that meet nothing touch the ledger only. -/
theorem settle_of_idle (idle : ∀ met ∈ plan, met.isIdle = true) (transfers : List Transfer)
    (world : World) :
    settle host plan transfers world =
      ⟨{ world with ledger := (world.ledger.settle plan transfers).1 }, [],
        (world.ledger.settle plan transfers).2⟩ := by
  induction transfers generalizing plan world with
  | nil => cases plan <;> rfl
  | cons transfer transfers ih =>
      cases plan with
      | nil =>
          simp only [settle, World.carryAll, World.carry_eq, Ledger.settle, List.head?_nil,
            Option.bind_none, List.tail_nil]
          cases world.ledger.transfer transfer.asset transfer.source transfer.target
              transfer.amount with
          | error _ => rfl
          | ok next =>
              have alone : ∀ met ∈ ([] : List Encounter), met.isIdle = true := by simp
              have rest := ih alone { world with ledger := next }
              rwa [settle] at rest
      | cons met plan =>
          rw [List.forall_mem_cons] at idle
          obtain ⟨_ | _, fault⟩ := met
          · simp only [settle, runAll, World.carry_eq, Ledger.settle, List.head?_cons,
              Option.bind_some, Encounter.fault, List.tail_cons]
            cases fault with
            | some _ => rfl
            | none =>
                simp only
                cases world.ledger.transfer transfer.asset transfer.source transfer.target
                    transfer.amount with
                | error _ => rfl
                | ok next =>
                    simp only [Except.map, ih idle.2, Settlement.after, List.nil_append]
          · simp [Encounter.isIdle] at idle

theorem Step.run_of_idle (idle : ∀ met ∈ plan, met.isIdle = true)
    (performed : operation.perform host world.moment world.books = .ok effect)
    (committed : world.commit effect = .ok written) :
    (Step.call operation plan).run host world =
      Settlement.conclude
        ⟨{ written with ledger := (world.ledger.settle plan effect.transfers).1 }, [],
          (world.ledger.settle plan effect.transfers).2⟩ host world := by
  simp only [Step.run, performed, committed, settle_of_idle idle, World.ledger_commit committed]

theorem Step.run_of_refused {failure : Failure}
    (refused : operation.perform host world.moment world.books = .error failure) :
    (Step.call operation plan).run host world = (world.detached, .of (.error failure) []) := by
  simp only [Step.run, refused]

theorem Step.run_of_unrecorded {failure : Failure}
    (performed : operation.perform host world.moment world.books = .ok effect)
    (undated : world.commit effect = .error failure) :
    (Step.call operation plan).run host world =
      (world.unrecorded effect, .of (.error failure) []) := by
  simp only [Step.run, performed, undated]

/-- What is left of a call that was decided on. -/
inductive Effect.Ends (effect : Effect) (plan : List Encounter) (world : World) :
    World × Report → Prop where
  /-- It is undone, with its transfers. -/
  | undone {ran} (books : ran.1.books = world.books) (ledger : ran.1.ledger = world.ledger) :
      Ends effect plan world ran
  /-- It is undone, but not the transfers that it had made. -/
  | paid {ran failure} (books : ran.1.books = world.books)
      (settled : world.ledger.settle plan effect.transfers = (ran.1.ledger, some failure)) :
      Ends effect plan world ran
  /-- It returns what its receipt reads. -/
  | returned {ran} (books : ran.1.books = effect.books)
      (settled : world.ledger.settle plan effect.transfers = (ran.1.ledger, none))
      (outcome : ran.2.outcome = .ok ((effect.receipt.read? effect.books).getD .nothing)) :
      Ends effect plan world ran

/-- A call that is not re-entered and not refused ends in one of three ways. -/
theorem Step.ends_of_idle (idle : ∀ met ∈ plan, met.isIdle = true)
    (performed : operation.perform host world.moment world.books = .ok effect) :
    effect.Ends plan world ((Step.call operation plan).run host world) := by
  cases committed : world.commit effect with
  | error failure =>
      rw [Step.run_of_unrecorded performed committed]
      exact .undone rfl rfl
  | ok written =>
      rw [Step.run_of_idle idle performed committed, Settlement.conclude]
      obtain ⟨trail, -, rfl⟩ := World.commit_eq_ok committed
      cases settled : world.ledger.settle plan effect.transfers with
      | mk ledger ending =>
          cases ending with
          | none => exact .returned rfl settled rfl
          | some failure =>
              by_cases restores : host.restoresLedger = true
              · exact .undone rfl (by simp [World.undone, restores])
              · exact .paid rfl (by simp [World.undone, restores, settled]; rfl)

end

end SavingsCircle
