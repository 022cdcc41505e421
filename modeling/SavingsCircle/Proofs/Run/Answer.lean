import Mathlib.Data.List.Forall2
import SavingsCircle.Proofs.Run.Rollback

/-!
# What a call returns

A call in progress keeps its answer on a slip while its transfers meet other calls, at any depth.
These refresh the slip and cut it off from the books, but an answer that was settled when the call
wrote the books stays on it. A call whose receipt is settled therefore returns just that.
-/

namespace SavingsCircle

theorem forall₂_comp {α : Type} {R S T : α → α → Prop} (comp : ∀ {a b c}, R a b → S b c → T a c)
    {front middle back : List α} (first : List.Forall₂ R front middle)
    (second : List.Forall₂ S middle back) : List.Forall₂ T front back := by
  induction first generalizing back with
  | nil =>
      cases second
      exact .nil
  | cons here _ ih =>
      cases second with
      | cons next others => exact .cons (comp here next) (ih others)

/-- A slip as it may be found later: about the same receipt, and with the answer if that was
settled. -/
structure Slip.Follows (slip later : Slip) : Prop where
  receipt : later.receipt = slip.receipt
  seen {answer} : slip.receipt = .settled answer → slip.seen = answer → later.seen = answer

namespace Slip.Follows

variable {slip : Slip}

theorem refl (slip : Slip) : slip.Follows slip := ⟨rfl, fun _ seen => seen⟩

theorem trans {a b c : Slip} (first : a.Follows b) (second : b.Follows c) : a.Follows c where
  receipt := second.receipt.trans first.receipt
  seen settled seen := second.seen (first.receipt.trans settled) (first.seen settled seen)

theorem detach (slip : Slip) : slip.Follows slip.detach := ⟨rfl, fun _ seen => seen⟩

/-- A settled answer is read from the receipt itself, whatever the books are. -/
theorem refresh (slip : Slip) (effect : Effect) : slip.Follows (slip.refresh effect) := by
  constructor
  · simp only [Slip.refresh]
    split
    · split <;> rfl
    · rfl
  · intro answer settled seen
    simp only [Slip.refresh, settled, Receipt.read?]
    split
    · rfl
    · exact seen

end Slip.Follows

/-- The slips of the calls in progress as they may be found later. -/
abbrev SlipsFollow (slips later : List Slip) : Prop := List.Forall₂ Slip.Follows slips later

namespace SlipsFollow

variable {slips : List Slip}

theorem refl (slips : List Slip) : SlipsFollow slips slips :=
  List.forall₂_same.2 fun slip _ => .refl slip

theorem trans {a b c : List Slip} (first : SlipsFollow a b) (second : SlipsFollow b c) :
    SlipsFollow a c := forall₂_comp .trans first second

theorem map {change : Slip → Slip} (follows : ∀ slip : Slip, slip.Follows (change slip))
    (slips : List Slip) : SlipsFollow slips (slips.map change) :=
  List.forall₂_map_right_iff.2 (List.forall₂_same.2 fun slip _ => follows slip)

end SlipsFollow

/-- A step that is no call at most cuts slips off from the books. -/
theorem Step.slips_run_of_not_call {step : Step} (noCall : step.isCall = false) (host : Host)
    (world : World) : SlipsFollow world.slips (step.run host world).1.slips := by
  cases step with
  | call => simp [isCall] at noCall
  | mint asset target amount =>
      simp only [Step.run, World.acted]
      split <;> exact .refl _
  | transfer asset source target amount =>
      simp only [Step.run, World.acted]
      split <;> exact .refl _
  | reset => exact .map .detach _
  | _ => exact .refl _

/-- The slip of a call goes when the call ends, and those below it are found as they may be. -/
theorem Settlement.slips_conclude {settlement : Settlement} {slips : List Slip} (host : Host)
    (start : World) (follows : SlipsFollow slips settlement.world.slips) :
    SlipsFollow (slips.drop 1) (settlement.conclude host start).1.slips := by
  simp only [conclude]
  cases settlement.failure with
  | none => exact List.forall₂_drop 1 follows
  | some _ => exact SlipsFollow.trans (List.forall₂_drop 1 follows) (.map .detach _)

mutual

/-- A step leaves the slips of the calls in progress as they may be found later. -/
theorem Step.slips_run (host : Host) :
    ∀ (step : Step) (world : World), SlipsFollow world.slips (step.run host world).1.slips
  | .call operation plan, world => by
    simp only [Step.run]
    cases operation.perform host world.moment world.books with
    | error _ => exact .map .detach _
    | ok effect =>
        simp only
        cases committed : world.commit effect with
        | error _ => exact (SlipsFollow.map (.refresh · effect) _).trans (.map .detach _)
        | ok written =>
            have made := settle_slips host plan effect.transfers written
            obtain ⟨_, _, rfl⟩ := World.commit_eq_ok committed
            exact (SlipsFollow.map (.refresh · effect) _).trans
              (Settlement.slips_conclude host world made)
  | .query _, _ | .reset, _ | .mint .., _ | .transfer .., _ | .setClock _, _ | .advance _, _
  | .setDating _, _ | .unknown, _ => Step.slips_run_of_not_call rfl host _

theorem runAll_slips (host : Host) :
    ∀ (steps : List Step) (world : World), SlipsFollow world.slips (runAll host steps world).1.slips
  | [], _ => .refl _
  | step :: steps, world => (Step.slips_run host step world).trans (runAll_slips host steps _)

theorem settle_slips (host : Host) :
    ∀ (plan : List Encounter) (transfers : List Transfer) (world : World),
      SlipsFollow world.slips (settle host plan transfers world).world.slips
  | [], transfers, world => by
    obtain ⟨_, same⟩ := world.world_carryAll transfers
    rw [settle, same]
    exact .refl _
  | _ :: _, [], _ => .refl _
  | .meets steps fault :: plan, transfer :: transfers, world => by
    have met := runAll_slips host steps world
    simp only [settle]
    cases fault with
    | some _ => exact met
    | none =>
        cases made : (runAll host steps world).1.carry transfer with
        | error _ => exact met
        | ok next =>
            have rest := settle_slips host plan transfers next
            obtain ⟨_, _, rfl⟩ := World.carry_eq_ok made
            exact met.trans rest

end

theorem length_runAll (host : Host) (steps : List Step) (world : World) :
    (runAll host steps world).2.length = steps.length := by
  induction steps generalizing world with
  | nil => rfl
  | cons step steps ih => simp [runAll, ih]

section

variable {host : Host} {operation : Operation} {plan : List Encounter} {world : World}
variable {answer : Answer}

/-- A call returns once it has written the books and all of its transfers are made. -/
theorem Step.run_eq_ok
    (returned : ((Step.call operation plan).run host world).2.outcome = .ok answer) :
    ∃ effect written, operation.perform host world.moment world.books = .ok effect ∧
      world.commit effect = .ok written ∧
      (settle host plan effect.transfers written).failure = none ∧
      (Step.call operation plan).run host world =
        ((settle host plan effect.transfers written).world.taken,
          .of (.ok answer) (settle host plan effect.transfers written).reports) ∧
      (settle host plan effect.transfers written).world.answer = answer := by
  simp only [Step.run] at returned ⊢
  cases performed : operation.perform host world.moment world.books with
  | error _ => simp [performed, Report.outcome] at returned
  | ok effect =>
      cases committed : world.commit effect with
      | error _ => simp [performed, committed, Report.outcome] at returned
      | ok written =>
          simp only [performed, committed, Settlement.conclude] at returned
          cases ending : (settle host plan effect.transfers written).failure with
          | some _ => simp [ending, Report.outcome] at returned
          | none =>
              simp only [ending, Report.outcome, Except.ok.injEq] at returned
              refine ⟨effect, written, rfl, committed, ending, ?_, returned⟩
              simp only [committed, Settlement.conclude, ending, returned]

/-- A call that makes no transfer ends when it has written the books, whatever is planned for its
transfers. -/
theorem Step.run_of_no_transfers {effect : Effect} {written : World}
    (performed : operation.perform host world.moment world.books = .ok effect)
    (committed : world.commit effect = .ok written) (nothing : effect.transfers = []) :
    (Step.call operation plan).run host world = (written.taken, .of (.ok written.answer) []) := by
  have settled : settle host plan [] written = ⟨written, [], none⟩ := by cases plan <;> rfl
  simp only [Step.run, performed, committed, nothing, settled, Settlement.conclude]

/-- A call whose answer is settled when it writes the books returns that answer. -/
theorem settle_answer {effect : Effect} {written : World}
    (committed : world.commit effect = .ok written) (settled : effect.receipt = .settled answer) :
    (settle host plan effect.transfers written).world.answer = answer := by
  have made := settle_slips host plan effect.transfers written
  obtain ⟨_, _, rfl⟩ := World.commit_eq_ok committed
  rw [World.answer]
  generalize (settle host plan effect.transfers _).world.slips = slips at made
  cases made with
  | cons follows _ =>
      have shown : (Slip.issue effect.receipt effect.books).seen = answer := by
        simp [Slip.issue, settled, Receipt.read?]
      exact follows.seen settled shown

end

end SavingsCircle
