import SavingsCircle.Proofs.Office.Draft
import SavingsCircle.Proofs.Office.Order
import SavingsCircle.Service.Office

/-!
# How far procedures get

An orderly procedure that is carried out in an office gets to where it comes to when it is left
alone (`Procedure.reaches_draft`): it has written and published everything by the time of its first
transfer, and what is left of it makes its transfers one after the other. If it is refused, it has
at most written by then; and if the clock shows no date, it gets to its first publication.
-/

namespace SavingsCircle

theorem World.recorded?_of_dated {world : World} {stamp : Stamp}
    (dated : world.stamp? = some stamp) (events : List Event) :
    world.recorded? events = some (world.trail.recordAll stamp events) := by
  rw [recorded?, dated]
  cases events <;> rfl

namespace Office

variable {office : Office} {stamp : Stamp}

theorem record_of_dated (dated : office.world.stamp? = some stamp) (event : Event) :
    office.record event = .ok { office with trail := office.trail.record stamp event } := by
  have read : Stamp.read? office.clock office.nonce = some stamp := dated
  rw [record, read]
  rfl

theorem record_of_undated (undated : office.world.stamp? = none) (event : Event) :
    office.record event = .error .undated := by
  have read : Stamp.read? office.clock office.nonce = none := undated
  rw [record, read]
  rfl

end Office

namespace Procedure

variable {α : Type}

def payThen (value : α) : List Transfer → Procedure α
  | [] => .done value
  | transfer :: transfers => .pay transfer (payThen value transfers)

/-- Where a procedure gets in an office if it comes to a draft, or is refused, when it is left
alone. -/
def Reaches (procedure : Procedure α) (office : Office) : Except Failure (α × Draft) → Prop
  | .error failure =>
    ∃ binder, procedure.reach office = (.refuse failure, { office with binder })
  | .ok (value, draft) =>
    match office.world.recorded? draft.events with
    | some trail => procedure.reach office = (payThen value draft.transfers,
        { office with binder := draft.binder, draws := draft.moment.draws, trail })
    | none => ∃ binder, procedure.reach office =
        (.refuse .undated, { office with binder, draws := draft.moment.draws })

theorem reaches_of_recorded {procedure : Procedure α} {office : Office} {value : α} {draft : Draft}
    {trail : Trail Event} (recorded : office.world.recorded? draft.events = some trail) :
    procedure.Reaches office (.ok (value, draft)) ↔
      procedure.reach office = (payThen value draft.transfers,
        { office with binder := draft.binder, draws := draft.moment.draws, trail }) := by
  simp only [Reaches, recorded]

/-- What is left of a procedure that is paying makes transfers and is done. -/
theorem exists_payThen {procedure : Procedure α} {goal : Phase → α → Prop}
    (orderly : procedure.IsOrderly .paying goal) :
    ∃ value transfers, procedure = payThen value transfers := by
  induction procedure with
  | done value => exact ⟨value, [], rfl⟩
  | pay transfer rest ih =>
      obtain ⟨value, transfers, rfl⟩ := ih orderly
      exact ⟨value, transfer :: transfers, rfl⟩
  | refuse => exact absurd orderly (by simp [IsOrderly])
  | look | write | draw | publish => exact absurd orderly.1 (by simp)

theorem draft_payThen (value : α) (transfers : List Transfer) (draft : Draft) :
    (payThen value transfers).draft draft =
      .ok (value, { draft with transfers := draft.transfers ++ transfers }) := by
  induction transfers generalizing draft with
  | nil => simp [payThen, Procedure.draft]
  | cons transfer transfers ih => simp [payThen, Procedure.draft, ih]

/-- A procedure that can no longer be refused comes to a draft, and gets to where it comes to. -/
theorem reaches_of_recording {procedure : Procedure α} {goal : Phase → α → Prop}
    (orderly : procedure.IsOrderly .recording goal) (office : Office) :
    ∃ value binder events transfers,
      (∀ published made, procedure.draft ⟨office.binder, office.moment, published, made⟩ =
        .ok (value, ⟨binder, office.moment, published ++ events, made ++ transfers⟩)) ∧
      procedure.Reaches office (.ok (value, ⟨binder, office.moment, events, transfers⟩)) := by
  induction procedure generalizing office with
  | done value => exact ⟨value, office.binder, [], [], by simp [Procedure.draft], rfl⟩
  | refuse => simp [IsOrderly] at orderly
  | draw => simp [IsOrderly] at orderly
  | look next ih => exact ih _ _ (orderly.2 _ _) office
  | write change rest ih =>
      exact ih orderly.2 { office with binder := change office.binder }
  | publish event rest ih =>
      cases dated : office.world.stamp? with
      | none =>
          obtain ⟨value, binder, events, transfers, drafts, -⟩ := ih orderly.2 office
          refine ⟨value, binder, event :: events, transfers, fun published made => ?_, ?_⟩
          · rw [List.append_cons]
            exact drafts (published ++ [event]) made
          · have unrecorded : office.world.recorded? (event :: events) = none := by
              rw [World.recorded?, dated]
              rfl
            simp only [Reaches, unrecorded, reach, Office.record_of_undated dated]
            exact ⟨office.binder, rfl⟩
      | some stamp =>
          obtain ⟨value, binder, events, transfers, drafts, reaches⟩ :=
            ih orderly.2 { office with trail := office.trail.record stamp event }
          refine ⟨value, binder, event :: events, transfers, fun published made => ?_, ?_⟩
          · rw [List.append_cons]
            exact drafts (published ++ [event]) made
          · let next := { office with trail := office.trail.record stamp event }
            have stillDated : next.world.stamp? = some stamp := dated
            rw [reaches_of_recorded (World.recorded?_of_dated stillDated events)] at reaches
            rw [reaches_of_recorded (World.recorded?_of_dated dated (event :: events)), reach,
              Office.record_of_dated dated]
            exact reaches
  | pay transfer rest =>
      obtain ⟨value, transfers, rfl⟩ := exists_payThen orderly
      refine ⟨value, office.binder, [], transfer :: transfers, fun published made => ?_, rfl⟩
      rw [List.append_nil]
      exact draft_payThen value (transfer :: transfers) _

/-- An orderly procedure gets to where it comes to, and is refused if it comes to a refusal. -/
theorem reaches_draft {procedure : Procedure α} {goal : Phase → α → Prop}
    (orderly : procedure.IsOrderly .deciding goal) (office : Office) :
    procedure.Reaches office (procedure.draft ⟨office.binder, office.moment, [], []⟩) := by
  induction procedure generalizing office with
  | done => exact rfl
  | refuse failure => exact ⟨office.binder, rfl⟩
  | look next ih => exact ih _ _ (orderly.2 _ _) office
  | write change rest ih =>
      have reaches := ih orderly.2 { office with binder := change office.binder }
      change rest.Reaches _ (rest.draft ⟨change office.binder, office.moment, [], []⟩) at reaches
      change Reaches _ _ (rest.draft ⟨change office.binder, office.moment, [], []⟩)
      generalize rest.draft _ = drafted at reaches ⊢
      cases drafted <;> exact reaches
  | draw draws rest =>
      obtain ⟨value, binder, events, transfers, drafts, reaches⟩ :=
        reaches_of_recording orderly.2 { office with draws }
      change Reaches _ _ (rest.draft ⟨office.binder, ⟨office.now, draws⟩, [], []⟩)
      exact (drafts [] []).symm ▸ reaches
  | publish event rest =>
      have recording : (publish event rest).IsOrderly .recording goal := ⟨by decide, orderly.2⟩
      obtain ⟨value, binder, events, transfers, drafts, reaches⟩ :=
        reaches_of_recording recording office
      rw [drafts]
      exact reaches
  | pay transfer rest =>
      have recording : (pay transfer rest).IsOrderly .recording goal := orderly
      obtain ⟨value, binder, events, transfers, drafts, reaches⟩ :=
        reaches_of_recording recording office
      rw [drafts]
      exact reaches

end Procedure

end SavingsCircle
