import SavingsCircle.Proofs.Circle.Invariant
import SavingsCircle.Proofs.Office.Sheet
import SavingsCircle.Service.Conduct

/-!
# What procedures come to

A procedure that is left alone, and whose publications and transfers all go through, comes to a
draft: a binder, the events it has published and the transfers it has made. While a call on a circle
goes on, its binder is the one that it found with one sheet and the member records replaced
(`Binder.revised`), and each thing that it does leads from one such binder to the next.
-/

namespace SavingsCircle

namespace Binder

/-- The binder with a sheet and the member records replaced. -/
def revised (binder : Binder) (sheet : Sheet) (records : Records) : Binder :=
  (binder.keep sheet).withRecords records

variable (binder : Binder)

theorem keep_revised {sheet next : Sheet} (same : sheet.id = next.id) (records : Records) :
    (binder.revised sheet records).keep next = binder.revised next records := by
  simp only [revised, withRecords, keep, List.map_map, Binder.mk.injEq, true_and, and_true]
  refine List.map_congr_left fun other _ => ?_
  by_cases here : other.id = next.id <;> simp [same, here]

end Binder

namespace Books

variable (books : Books)

theorem sheet_binder (id : Number) :
    books.binder.sheet id = (books.circle id).map Circle.sheet := by
  rw [Binder.sheet, circle]
  cases id.nat? with
  | none => rfl
  | some id =>
      have same : (fun sheet : Sheet => sheet.id == id) ∘ Circle.sheet =
          fun circle => circle.id == id := rfl
      simp only [binder, Option.bind_some, List.find?_map, circle?, same]
      cases books.circles.find? fun circle => circle.id == id <;> rfl

theorem keep_binder (circle : Circle) :
    books.binder.keep circle.sheet = (books.replaceCircle circle).binder := by
  simp only [binder, Binder.keep, replaceCircle, List.map_map, Binder.mk.injEq, true_and, and_true]
  refine List.map_congr_left fun other _ => ?_
  by_cases here : other.id = circle.id <;> simp [here]

/-- Nothing changes when a circle replaces itself. -/
theorem Numbered.revised_binder {books : Books} {circle : Circle} {id : Number}
    (numbered : books.Numbered) (found : books.circle id = .ok circle) :
    books.binder.revised circle.sheet books.records = books.binder := by
  have same : books.replaceCircle circle = books := by
    have itself : (books.circles.map fun other =>
        if other.id = circle.id then circle else other) = books.circles.map fun other => other := by
      refine List.map_congr_left fun other mem => ?_
      split
      · next here => exact (numbered.eq_of_id_eq (mem_of_circle found) mem here).symm
      · rfl
    rw [Books.replaceCircle, itself, List.map_id']
  rw [Binder.revised, keep_binder, same]
  rfl

def touched (now : Number) : Books := { books with lastActiveAt := now }

end Books

/-- What a procedure has come to at some point. -/
structure Draft where
  binder : Binder
  moment : Moment
  events : List Event
  transfers : List Transfer

def Effect.draft (effect : Effect) (now : Number) : Receipt × Draft :=
  (effect.receipt, ⟨effect.books.binder, ⟨now, effect.draws⟩, effect.events, effect.transfers⟩)

def Change.draft (change : Change) (binder : Binder) (now : Number) : Receipt × Draft :=
  (change.receipt, {
    binder := binder.revised change.circle.sheet change.records
    moment := ⟨now, change.draws⟩
    events := change.events
    transfers := change.transfers })

theorem Books.map_draft_install (books : Books) (changed : Except Failure Change) (now : Number) :
    (changed >>= fun change => return books.install change).map (·.draft now) =
      changed.map (·.draft books.binder now) := by
  cases changed with
  | error _ => rfl
  | ok change =>
      simp only [Except.map, Change.draft, Binder.revised, Books.keep_binder]
      rfl

namespace Procedure

section

variable {α β : Type}

/-- What a procedure comes to, or why it refuses to go on, if all publications and transfers go
through and nothing comes in between. -/
def draft : Procedure α → Draft → Except Failure (α × Draft)
  | .done value, draft => .ok (value, draft)
  | .refuse failure, _ => .error failure
  | .look next, draft => (next draft.binder draft.moment).draft draft
  | .write change rest, draft => rest.draft { draft with binder := change draft.binder }
  | .draw draws rest, draft => rest.draft { draft with moment := { draft.moment with draws } }
  | .publish event rest, draft => rest.draft { draft with events := draft.events ++ [event] }
  | .pay transfer rest, draft =>
    rest.draft { draft with transfers := draft.transfers ++ [transfer] }

variable {draft : Draft} {procedure : Procedure α} {next : α → Procedure β}
variable {binder : Binder} {records : Records} {now : Moment} {events : List Event}
variable {transfers : List Transfer}

theorem draft_bind (procedure : Procedure α) (next : α → Procedure β) (draft : Draft) :
    (procedure >>= next).draft draft =
      procedure.draft draft >>= fun (value, draft) => (next value).draft draft := by
  change (procedure.bind next).draft draft = _
  induction procedure generalizing draft with
  | done | refuse => rfl
  | look _ ih => exact ih ..
  | write _ _ ih | draw _ _ ih | publish _ _ ih | pay _ _ ih => exact ih ..

theorem bind_done (procedure : Procedure α) : procedure.bind .done = procedure := by
  induction procedure with
  | done | refuse => rfl
  | look _ ih => simp only [bind, ih]
  | write _ _ ih | draw _ _ ih | publish _ _ ih | pay _ _ ih => simp only [bind, ih]

theorem bind_bind {γ : Type} (procedure : Procedure α) (next : α → Procedure β)
    (last : β → Procedure γ) :
    (procedure.bind next).bind last = procedure.bind fun value => (next value).bind last := by
  induction procedure with
  | done | refuse => rfl
  | look _ ih => simp only [bind, ih]
  | write _ _ ih | draw _ _ ih | publish _ _ ih | pay _ _ ih => simp only [bind, ih]

instance : LawfulMonad Procedure := .mk' _ bind_done (fun _ _ => rfl) bind_bind

theorem lift_map_bind {γ : Type} (given : Except Failure γ) (change : γ → α)
    (next : α → Procedure β) :
    liftM (given.map change) >>= next = liftM given >>= fun value => next (change value) := by
  cases given <;> rfl

theorem draft_bind_of_ok {value : α} {reached : Draft}
    (first : procedure.draft draft = .ok (value, reached)) :
    (procedure >>= next).draft draft = (next value).draft reached := by
  rw [draft_bind, first]
  rfl

theorem draft_binder_bind (next : Binder → Procedure β) :
    (Procedure.binder >>= next).draft ⟨binder, now, events, transfers⟩ =
      (next binder).draft ⟨binder, now, events, transfers⟩ := rfl

theorem draft_moment_bind (next : Moment → Procedure β) :
    (moment >>= next).draft ⟨binder, now, events, transfers⟩ =
      (next now).draft ⟨binder, now, events, transfers⟩ := rfl

theorem draft_alter_bind (change : Binder → Binder) (next : Unit → Procedure β) :
    (alter change >>= next).draft ⟨binder, now, events, transfers⟩ =
      (next ()).draft ⟨change binder, now, events, transfers⟩ := rfl

theorem draft_keep_bind (sheet kept : Sheet) (next : Unit → Procedure β)
    (same : sheet.id = kept.id) :
    (keep kept >>= next).draft ⟨binder.revised sheet records, now, events, transfers⟩ =
      (next ()).draft ⟨binder.revised kept records, now, events, transfers⟩ := by
  rw [← binder.keep_revised same]
  rfl

theorem draft_revise_bind {sheet : Sheet} (change : Records → Records)
    (next : Unit → Procedure β) :
    (revise change >>= next).draft ⟨binder.revised sheet records, now, events, transfers⟩ =
      (next ()).draft ⟨binder.revised sheet (change records), now, events, transfers⟩ := rfl

theorem draft_leave_bind (draws : Draws) (next : Unit → Procedure β) :
    (leave draws >>= next).draft ⟨binder, now, events, transfers⟩ =
      (next ()).draft ⟨binder, { now with draws }, events, transfers⟩ := rfl

theorem draft_announce_bind (event : Event) (next : Unit → Procedure β) :
    (announce event >>= next).draft ⟨binder, now, events, transfers⟩ =
      (next ()).draft ⟨binder, now, events ++ [event], transfers⟩ := rfl

theorem draft_payAll_bind (more : List Transfer) (next : Unit → Procedure β) :
    (payAll more >>= next).draft ⟨binder, now, events, transfers⟩ =
      (next ()).draft ⟨binder, now, events, transfers ++ more⟩ := by
  suffices paid : (payAll more).draft ⟨binder, now, events, transfers⟩ =
      .ok ((), ⟨binder, now, events, transfers ++ more⟩) from draft_bind_of_ok paid
  induction more generalizing transfers with
  | nil => simp [payAll, Procedure.draft]
  | cons transfer more ih => simp [payAll, Procedure.draft, ih]

/-- A procedure and the body of an operation go on together with what both require. -/
theorem lift_congr {γ : Type} {given : Except Failure α} {body : α → Except Failure γ}
    {result : γ → β × Draft}
    (same : ∀ value, given = .ok value → (next value).draft draft = (body value).map result) :
    (liftM given >>= next).draft draft = (given >>= body).map result := by
  cases given with
  | error _ => rfl
  | ok value => exact same value rfl

end

/-! ## Votes -/

section

variable (circle : Circle) (voters : Nat) (records : Records) (binder : Binder) (now : Moment)
variable (events : List Event) (transfers : List Transfer)

theorem draft_settleDissolution :
    (settleVotes.settleDissolution circle.sheet voters).draft
        ⟨binder.revised circle.sheet records, now, events, transfers⟩ =
      .ok ((circle.settleDissolution voters).1.sheet,
        ⟨binder.revised (circle.settleDissolution voters).1.sheet records, now,
          events ++ (circle.settleDissolution voters).2, transfers⟩) := by
  rw [settleVotes.settleDissolution, Circle.settleDissolution]
  change Procedure.draft (ite ((!circle.isDissolved &&
    decide (voters < circle.dissolutionVotes.length * 2)) = true) _ _) _ = _
  split
  · let dissolved := { circle with isDissolved := true }
    exact draft_keep_bind circle.sheet dissolved.sheet _ rfl
  · rw [List.append_nil]
    rfl

theorem draft_settleProposal :
    (settleVotes.settleProposal circle.sheet voters).draft
        ⟨binder.revised circle.sheet records, now, events, transfers⟩ =
      .ok ((circle.settleProposal voters).1.sheet,
        ⟨binder.revised (circle.settleProposal voters).1.sheet records, now,
          events ++ (circle.settleProposal voters).2, transfers⟩) := by
  have proposed : circle.sheet.proposedLateFeeRate = circle.proposedLateFeeRate := rfl
  rw [settleVotes.settleProposal, Circle.settleProposal, proposed]
  cases circle.proposedLateFeeRate with
  | none =>
      rw [List.append_nil]
      rfl
  | some rate =>
      change Procedure.draft (ite (voters < circle.proposalVotes.length * 2) _ _) _ = _
      dsimp only
      split
      · let decided : Circle :=
          { circle with lateFeeRate := rate, proposedLateFeeRate := none, proposalVotes := [] }
        exact draft_keep_bind circle.sheet decided.sheet _ rfl
      · rw [List.append_nil]
        rfl

/-- What follows the votes goes on with the circle as the votes leave it. -/
theorem draft_settleVotes_bind {α : Type} (next : Sheet → Procedure α) :
    (settleVotes circle.sheet >>= next).draft
        ⟨binder.revised circle.sheet records, now, events, transfers⟩ =
      (next (circle.settle records).1.sheet).draft
        ⟨binder.revised (circle.settle records).1.sheet records, now,
          events ++ (circle.settle records).2, transfers⟩ := by
  let kept := circle.dropVotes records
  apply draft_bind_of_ok
  have dropped : (settleVotes circle.sheet).draft
        ⟨binder.revised circle.sheet records, now, events, transfers⟩ =
      Procedure.draft (if kept.voterCount records = 0 then pure kept.sheet else do
        let sheet ← settleVotes.settleDissolution kept.sheet (kept.voterCount records)
        settleVotes.settleProposal sheet (kept.voterCount records))
        ⟨binder.revised kept.sheet records, now, events, transfers⟩ := by
    rw [settleVotes, draft_binder_bind, circle_sheet, ← Circle.voterCount_sheet]
    exact draft_keep_bind circle.sheet kept.sheet _ rfl
  rw [dropped, Circle.settle]
  dsimp only
  split
  · rw [List.append_nil]
    rfl
  · rw [draft_bind_of_ok (draft_settleDissolution kept _ records binder now events transfers),
      draft_settleProposal, List.append_assoc]

end

end Procedure

end SavingsCircle
