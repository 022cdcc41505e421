import SavingsCircle.Service.Conduct

/-!
# The order of a call

A call goes through three phases. At first it may write, take draws and refuse to go on. Once it has
taken draws or published an event it may still write and publish, but no longer refuse. And once it
has made a transfer it makes transfers only: it neither looks at what the service keeps nor writes,
so that it does not matter what the transfer has set off. `Procedure.IsOrderly` says that a
procedure keeps to this, and the procedures of all operations do (`Operation.isOrderly_procedure`).
-/

namespace SavingsCircle

inductive Phase where
  | deciding | recording | paying
  deriving DecidableEq

namespace Procedure

variable {α β : Type}

/-- A procedure that goes on from a phase does nothing that is too late by then, and leaves a phase
and a value from which its goal is met. -/
def IsOrderly : Procedure α → Phase → (Phase → α → Prop) → Prop
  | .done value, phase, goal => goal phase value
  | .refuse _, phase, _ => phase = .deciding
  | .look next, phase, goal =>
    phase ≠ .paying ∧ ∀ binder moment, (next binder moment).IsOrderly phase goal
  | .write _ rest, phase, goal => phase ≠ .paying ∧ rest.IsOrderly phase goal
  | .draw _ rest, phase, goal => phase = .deciding ∧ rest.IsOrderly .recording goal
  | .publish _ rest, phase, goal => phase ≠ .paying ∧ rest.IsOrderly .recording goal
  | .pay _ rest, _, goal => rest.IsOrderly .paying goal

section

variable {phase : Phase} {goal : Phase → α → Prop}

/-- One thing after the other is in order if what comes next is, from where the first leads. -/
@[simp] theorem isOrderly_bind {goal : Phase → β → Prop} (procedure : Procedure α)
    (next : α → Procedure β) :
    (procedure >>= next).IsOrderly phase goal ↔
      procedure.IsOrderly phase fun phase value => (next value).IsOrderly phase goal := by
  change (procedure.bind next).IsOrderly phase goal ↔ _
  induction procedure generalizing phase with
  | done | refuse => rfl
  | look _ ih => exact and_congr_right fun _ => forall₂_congr fun _ _ => ih ..
  | write _ _ ih | draw _ _ ih | publish _ _ ih => exact and_congr_right fun _ => ih
  | pay _ _ ih => exact ih

@[simp] theorem isOrderly_pure (value : α) :
    (pure value : Procedure α).IsOrderly phase goal ↔ goal phase value := .rfl

@[simp] theorem isOrderly_lift (given : Except Failure α) :
    (liftM given : Procedure α).IsOrderly .deciding goal ↔
      ∀ value, given = .ok value → goal .deciding value := by
  cases given with
  | error _ =>
      simp only [reduceCtorEq, false_imp_iff, implies_true, iff_true]
      rfl
  | ok value =>
      simp only [Except.ok.injEq, forall_eq']
      rfl

@[simp] theorem isOrderly_binder {goal : Phase → Binder → Prop} :
    binder.IsOrderly phase goal ↔ phase ≠ .paying ∧ ∀ binder, Moment → goal phase binder := .rfl

@[simp] theorem isOrderly_moment {goal : Phase → Moment → Prop} :
    moment.IsOrderly phase goal ↔ phase ≠ .paying ∧ (Binder → ∀ moment, goal phase moment) := .rfl

@[simp] theorem isOrderly_alter {goal : Phase → Unit → Prop} (change : Binder → Binder) :
    (alter change).IsOrderly phase goal ↔ phase ≠ .paying ∧ goal phase () := .rfl

@[simp] theorem isOrderly_keep {goal : Phase → Unit → Prop} (sheet : Sheet) :
    (keep sheet).IsOrderly phase goal ↔ phase ≠ .paying ∧ goal phase () := .rfl

@[simp] theorem isOrderly_revise {goal : Phase → Unit → Prop} (change : Records → Records) :
    (revise change).IsOrderly phase goal ↔ phase ≠ .paying ∧ goal phase () := .rfl

@[simp] theorem isOrderly_leave {goal : Phase → Unit → Prop} (draws : Draws) :
    (leave draws).IsOrderly phase goal ↔ phase = .deciding ∧ goal .recording () := .rfl

@[simp] theorem isOrderly_announce {goal : Phase → Unit → Prop} (event : Event) :
    (announce event).IsOrderly phase goal ↔ phase ≠ .paying ∧ goal .recording () := .rfl

@[simp] theorem isOrderly_payAll {goal : Phase → Unit → Prop} (met : ∀ phase, goal phase ())
    (transfers : List Transfer) : (payAll transfers).IsOrderly phase goal := by
  induction transfers generalizing phase with
  | nil => exact met phase
  | cons _ _ ih => exact ih

@[simp] theorem isOrderly_ite {condition : Prop} [Decidable condition]
    (first second : Procedure α) :
    (if condition then first else second).IsOrderly phase goal ↔
      (condition → first.IsOrderly phase goal) ∧ (¬condition → second.IsOrderly phase goal) := by
  split <;> simp [*]

end

/-! ## Parts -/

@[simp] theorem isOrderly_touch {goal : Phase → Unit → Prop} :
    touch.IsOrderly .deciding goal ↔ (Binder → Moment → goal .deciding ()) := by
  simp [touch]

theorem isOrderly_settleDissolution {goal : Phase → Sheet → Prop}
    (met : ∀ sheet, goal .deciding sheet ∧ goal .recording sheet) (sheet : Sheet) (voters : Nat) :
    (settleVotes.settleDissolution sheet voters).IsOrderly .deciding goal := by
  simp [settleVotes.settleDissolution, met]

theorem isOrderly_settleProposal {phase : Phase} {goal : Phase → Sheet → Prop}
    (early : phase ≠ .paying) (met : ∀ sheet, goal phase sheet)
    (recorded : ∀ sheet, goal .recording sheet) (sheet : Sheet) (voters : Nat) :
    (settleVotes.settleProposal sheet voters).IsOrderly phase goal := by
  rw [settleVotes.settleProposal]
  split <;> simp [early, met, recorded]

/-- Votes are settled without anything to be refused, and perhaps with something to record. -/
@[simp] theorem isOrderly_settleVotes {goal : Phase → Sheet → Prop}
    (met : ∀ sheet, goal .deciding sheet ∧ goal .recording sheet) (sheet : Sheet) :
    (settleVotes sheet).IsOrderly .deciding goal := by
  have unrecorded (sheet : Sheet) : goal .deciding sheet := (met sheet).1
  have recorded (sheet : Sheet) : goal .recording sheet := (met sheet).2
  simp only [settleVotes, isOrderly_bind, isOrderly_binder, isOrderly_keep, isOrderly_ite,
    isOrderly_pure]
  refine ⟨by decide, fun binder _ => ⟨by decide, fun _ => unrecorded _, fun _ => ?_⟩⟩
  refine isOrderly_settleDissolution (fun sheet => ⟨?_, ?_⟩) _ _
  · exact isOrderly_settleProposal (by decide) unrecorded recorded sheet _
  · exact isOrderly_settleProposal (by decide) recorded recorded sheet _

variable {host : Host}

@[simp] theorem isOrderly_requireSheet {goal : Phase → Sheet → Prop}
    (met : ∀ sheet, goal .deciding sheet) (id : Number) :
    (requireSheet id).IsOrderly .deciding goal := by
  simp [requireSheet, met]

@[simp] theorem isOrderly_requireCircleAdmin {goal : Phase → Sheet → Prop}
    (met : ∀ sheet, goal .deciding sheet) (proof : Option Proof) (id : Number) :
    (requireCircleAdmin host proof id).IsOrderly .deciding goal := by
  simp [requireCircleAdmin, met]

@[simp] theorem isOrderly_requireProtocolAdmin {goal : Phase → Protocol → Prop}
    (met : ∀ protocol, goal .deciding protocol) (proof : Option Proof) :
    (requireProtocolAdmin host proof).IsOrderly .deciding goal := by
  simp [requireProtocolAdmin, met]

@[simp] theorem isOrderly_requireVoter {goal : Phase → Address × Sheet → Prop}
    (met : ∀ voter, goal .deciding voter) (proof : Option Proof) (id : Number) :
    (requireVoter host proof id).IsOrderly .deciding goal := by
  simp [requireVoter, met]

@[simp] theorem isOrderly_swapIn {goal : Phase → Sheet → Prop}
    (met : ∀ sheet, goal .deciding sheet ∧ goal .recording sheet) (sheet : Sheet)
    (former successor : Address) : (swapIn sheet former successor).IsOrderly .deciding goal := by
  simp [swapIn, met]

end Procedure

/-- Every operation refuses to go on, if at all, before it takes draws and before it publishes
anything, and after its first transfer it makes transfers only. -/
theorem Operation.isOrderly_procedure (operation : Operation) (host : Host) :
    (operation.procedure host).IsOrderly .deciding fun _ _ => True := by
  cases operation with
  | claimProtocol => simp [Operation.procedure, Procedure.claimProtocol]
  | adminAction => simp [Operation.procedure, Procedure.adminAction]
  | setProtocolFee => simp [Operation.procedure, Procedure.setProtocolFee]
  | createCircle => simp [Operation.procedure, Procedure.createCircle]
  | transferAdmin => simp [Operation.procedure, Procedure.transferAdmin]
  | join => simp [Operation.procedure, Procedure.join]
  | kick => simp [Operation.procedure, Procedure.kick]
  | swap => simp [Operation.procedure, Procedure.swap]
  | swapByAdmin => simp [Operation.procedure, Procedure.swapByAdmin]
  | eject => simp [Operation.procedure, Procedure.eject]
  | requestExit => simp [Operation.procedure, Procedure.requestExit]
  | fillVacancy => simp [Operation.procedure, Procedure.fillVacancy]
  | finalize => simp [Operation.procedure, Procedure.finalize]
  | processPayout => simp [Operation.procedure, Procedure.processPayout]
  | rollover => simp [Operation.procedure, Procedure.rollover]
  | contribute => simp [Operation.procedure, Procedure.contribute]
  | coverMember => simp [Operation.procedure, Procedure.coverMember]
  | proposeDissolution => simp [Operation.procedure, Procedure.proposeDissolution]
  | voteDissolution => simp [Operation.procedure, Procedure.voteDissolution]
  | proposeLateFee => simp [Operation.procedure, Procedure.proposeLateFee]
  | voteLateFee => simp [Operation.procedure, Procedure.voteLateFee]
  | withdrawProRata => simp [Operation.procedure, Procedure.withdrawProRata]
  | deposit => simp [Operation.procedure, Procedure.deposit]
  | emergencyWithdraw => simp [Operation.procedure, Procedure.emergencyWithdraw]

end SavingsCircle
