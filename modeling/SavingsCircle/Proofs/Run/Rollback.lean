import Mathlib.Data.List.Infix
import SavingsCircle.Proofs.Run.Course

/-!
# Failed calls leave no trace

A failed call is taken back by three different means: the books are put back as they were, the
ledger too where the host keeps copies of it, and the trail is cut to the length it had. Cutting is
enough because a trail only grows while a call is in progress, whatever the calls nested in it do:
`Path.layered` carries this through every path. With it, undoing a call brings back the very books,
ledger and trail that it found (`failed_call_is_undone`), those nested calls included that had
returned already.
-/

namespace SavingsCircle

namespace World

variable {world written next : World} {effect : Effect} {transfer : Transfer}

/-- Two worlds with the same books, the same ledger and the same trail. -/
structure Agrees (world other : World) : Prop where
  books : world.books = other.books
  ledger : world.ledger = other.ledger
  trail : world.trail = other.trail

namespace Agrees

@[refl] theorem refl (world : World) : world.Agrees world := ⟨rfl, rfl, rfl⟩

theorem trans {a b c : World} (first : a.Agrees b) (second : b.Agrees c) : a.Agrees c :=
  ⟨first.books.trans second.books, first.ledger.trans second.ledger,
    first.trail.trans second.trail⟩

end Agrees

theorem detached_agrees (world : World) : world.detached.Agrees world := ⟨rfl, rfl, rfl⟩

theorem unrecorded_agrees (world : World) (effect : Effect) :
    (world.unrecorded effect).Agrees world := ⟨rfl, rfl, rfl⟩

/-- What the writing of a call does to a world. -/
theorem commit_eq_ok (committed : world.commit effect = .ok written) :
    ∃ trail, world.recorded? effect.events = some trail ∧
      written =
        { world.witnessing effect with
          books := effect.books
          trail
          slips :=
            Slip.issue effect.receipt effect.books :: world.slips.map (·.refresh effect) } := by
  rw [commit, demandSome_bind_eq_ok] at committed
  obtain ⟨trail, recorded, rest⟩ := committed
  exact ⟨trail, recorded, (Except.ok.inj rest).symm⟩

theorem books_commit (committed : world.commit effect = .ok written) :
    written.books = effect.books := by
  obtain ⟨_, _, rfl⟩ := commit_eq_ok committed
  rfl

theorem ledger_commit (committed : world.commit effect = .ok written) :
    written.ledger = world.ledger := by
  obtain ⟨_, _, rfl⟩ := commit_eq_ok committed
  rfl

/-- A call that has nothing to record leaves the trail; else its events go to the end of it. -/
theorem recorded?_eq_some {events : List Event} {trail : Trail Event}
    (recorded : world.recorded? events = some trail) :
    world.trail.entries <+: trail.entries ∧ trail.events = world.trail.events ++ events := by
  rw [recorded?] at recorded
  split at recorded
  · next none =>
    obtain rfl := Option.some.inj recorded
    rw [List.isEmpty_iff.1 none, List.append_nil]
    exact ⟨List.prefix_rfl, rfl⟩
  · obtain ⟨stamp, _, rfl⟩ := Option.map_eq_some_iff.1 recorded
    exact ⟨Trail.prefix_recordAll .., Trail.events_recordAll ..⟩

theorem events_commit (committed : world.commit effect = .ok written) :
    written.trail.events = world.trail.events ++ effect.events := by
  obtain ⟨_, recorded, rfl⟩ := commit_eq_ok committed
  exact (recorded?_eq_some recorded).2

theorem isSome_stamp?_of_commit (committed : world.commit effect = .ok written)
    (records : effect.events ≠ []) : world.stamp?.isSome := by
  obtain ⟨_, recorded, _⟩ := commit_eq_ok committed
  rw [recorded?, if_neg (by simpa using records)] at recorded
  obtain ⟨_, isStamp, _⟩ := Option.map_eq_some_iff.1 recorded
  exact Option.isSome_iff_exists.2 ⟨_, isStamp⟩

/-- A call can be written while the clock shows a date, and at any time if it records nothing. -/
theorem exists_commit (effect : Effect) (dated : effect.events ≠ [] → world.stamp?.isSome) :
    ∃ written, world.commit effect = .ok written := by
  have recorded : ∃ trail, world.recorded? effect.events = some trail := by
    rw [recorded?]
    split
    · exact ⟨_, rfl⟩
    · next some =>
      obtain ⟨stamp, isStamp⟩ := Option.isSome_iff_exists.1 (dated (by simpa using some))
      rw [isStamp]
      exact ⟨_, rfl⟩
  obtain ⟨trail, recorded⟩ := recorded
  exact ⟨_, by rw [commit, recorded]; rfl⟩

theorem entries_commit (committed : world.commit effect = .ok written) :
    world.trail.entries <+: written.trail.entries := by
  obtain ⟨_, recorded, rfl⟩ := commit_eq_ok committed
  exact (recorded?_eq_some recorded).1

theorem carry_eq_ok (made : world.carry transfer = .ok next) :
    ∃ ledger, world.ledger.transfer transfer.asset transfer.source transfer.target
      transfer.amount = .ok ledger ∧ next = { world with ledger } := by
  rw [carry] at made
  cases moved : world.ledger.transfer transfer.asset transfer.source transfer.target
      transfer.amount with
  | error _ => simp [moved, bind, Except.bind] at made
  | ok ledger =>
      refine ⟨ledger, rfl, ?_⟩
      simpa [moved, bind, Except.bind, pure, Except.pure, eq_comm] using made

/-- Transfers touch nothing but the ledger. -/
theorem world_carryAll (world : World) (transfers : List Transfer) :
    ∃ ledger, (world.carryAll transfers).world = { world with ledger } := by
  induction transfers generalizing world with
  | nil => exact ⟨world.ledger, rfl⟩
  | cons transfer transfers ih =>
      simp only [carryAll]
      cases made : world.carry transfer with
      | error _ => exact ⟨world.ledger, rfl⟩
      | ok next =>
          obtain ⟨_, _, rfl⟩ := carry_eq_ok made
          obtain ⟨ledger, same⟩ := ih _
          exact ⟨ledger, same⟩

end World

/-- A step that is no call leaves the trail alone. -/
theorem Step.trail_run_of_not_call {step : Step} (noCall : step.isCall = false) (host : Host)
    (world : World) : (step.run host world).1.trail = world.trail := by
  cases step with
  | call => simp [isCall] at noCall
  | mint asset target amount =>
      simp only [Step.run, World.acted]
      split <;> rfl
  | transfer asset source target amount =>
      simp only [Step.run, World.acted]
      split <;> rfl
  | _ => rfl

/-- Every call in progress began with a trail that the present one continues, and so did the calls
around it. -/
def Layered : List Frame → World → Prop
  | [], _ => True
  | frame :: frames, world =>
    frame.start.trail.entries <+: world.trail.entries ∧ Layered frames frame.start

namespace Layered

variable {host : Host} {frames : List Frame} {world next : World}

theorem extend (layered : Layered frames world)
    (grows : world.trail.entries <+: next.trail.entries) : Layered frames next := by
  cases frames with
  | nil => trivial
  | cons frame frames => exact ⟨layered.1.trans grows, layered.2⟩

theorem trail_undone {frame : Frame} (layered : Layered (frame :: frames) world) (host : Host) :
    (world.undone host frame.start).trail = frame.start.trail := by
  have cut := List.prefix_iff_eq_take.1 layered.1
  change Trail.mk (world.trail.entries.take frame.start.trail.entries.length) = _
  rw [← cut]

/-- Undoing the innermost call brings back what it began with. -/
theorem undone_agrees (restores : host.restoresLedger = true) {frame : Frame}
    (layered : Layered (frame :: frames) world) :
    (world.undone host frame.start).Agrees frame.start where
  books := rfl
  ledger := by simp [World.undone, restores]
  trail := layered.trail_undone host

theorem advance {a b : Config} {move : Move} (layered : Layered a.frames a.world)
    (advance : Advance host a move b) : Layered b.frames b.world := by
  cases advance with
  | refused => exact layered.extend List.prefix_rfl
  | unrecorded => exact layered.extend List.prefix_rfl
  | written performed committed => exact ⟨World.entries_commit committed, layered⟩
  | carried made =>
      obtain ⟨_, _, rfl⟩ := World.carry_eq_ok made
      exact ⟨layered.1, layered.2⟩
  | failed =>
      apply layered.2.extend
      rw [layered.trail_undone host]
  | concluded => exact layered.2.extend layered.1
  | acted noCall =>
      apply layered.extend
      rw [Step.trail_run_of_not_call noCall]

end Layered

theorem Path.layered {host : Host} {a b : Config} {passages : List Passage}
    (path : Path host a passages b) (layered : Layered a.frames a.world) :
    Layered b.frames b.world := by
  induction path with
  | nil => exact layered
  | cons first _ ih => exact ih (layered.advance first)

theorem trail_settle (host : Host) (plan : List Encounter) (transfers : List Transfer)
    (world : World) :
    world.trail.entries <+: (settle host plan transfers world).world.trail.entries := by
  obtain ⟨_, _, path⟩ := settleCourse_path host world [] plan transfers world
  exact (path.layered ⟨List.prefix_rfl, trivial⟩).1

/-- A call that fails leaves books, ledger and trail as it found them. -/
theorem Step.agrees_of_run_eq_error {host : Host} (restores : host.restoresLedger = true)
    {operation : Operation} {plan : List Encounter} {world : World} {failure : Failure}
    (failed : ((Step.call operation plan).run host world).2.outcome = .error failure) :
    ((Step.call operation plan).run host world).1.Agrees world := by
  simp only [Step.run] at failed ⊢
  cases performed : operation.perform host world.moment world.books with
  | error _ => exact world.detached_agrees
  | ok effect =>
      simp only [performed] at failed
      cases committed : world.commit effect with
      | error _ =>
          simp only [committed]
          exact world.unrecorded_agrees effect
      | ok written =>
          simp only [committed, Settlement.conclude] at failed ⊢
          cases ending : (settle host plan effect.transfers written).failure with
          | none => simp [ending, Report.outcome] at failed
          | some _ =>
              have layered :
                  Layered [⟨world, []⟩] (settle host plan effect.transfers written).world :=
                ⟨(World.entries_commit committed).trans (trail_settle ..), trivial⟩
              exact layered.undone_agrees restores

/-- A call that fails leaves the books as it found them, with the ledger or without it. -/
theorem Step.books_of_run_eq_error {host : Host} {operation : Operation} {plan : List Encounter}
    {world : World} {failure : Failure}
    (failed : ((Step.call operation plan).run host world).2.outcome = .error failure) :
    ((Step.call operation plan).run host world).1.books = world.books := by
  simp only [Step.run] at failed ⊢
  cases performed : operation.perform host world.moment world.books with
  | error _ => rfl
  | ok effect =>
      simp only [performed] at failed
      cases committed : world.commit effect with
      | error _ =>
          simp only [committed]
          rfl
      | ok written =>
          simp only [committed, Settlement.conclude] at failed ⊢
          cases ending : (settle host plan effect.transfers written).failure with
          | none => simp [ending, Report.outcome] at failed
          | some _ => rfl

/-- A call that fails, for whatever reason, leaves books, ledger and trail as they were when it
began, whatever the steps did that its transfers met. So it is at any depth: whatever calls are in
progress, the innermost one leaves behind exactly what it found when it is undone, and a call that
is refused changes nothing for the calls around it. -/
theorem failed_call_is_undone {host : Host} (restores : host.restoresLedger = true)
    (world : World) :
    (∀ operation plan failure,
      ((Step.call operation plan).run host world).2.outcome = .error failure →
        ((Step.call operation plan).run host world).1.Agrees world) ∧
    ∀ passages inside, Path host ⟨[], world⟩ passages inside →
      (∀ next, Advance host inside .fail next →
        ∃ frame, inside.frames = frame :: next.frames ∧ next.world.Agrees frame.start) ∧
      ∀ operation next, Advance host inside (.refuse operation) next →
        next.frames = inside.frames ∧ next.world.Agrees inside.world := by
  refine ⟨fun operation plan failure failed => Step.agrees_of_run_eq_error restores failed, ?_⟩
  intro passages inside path
  have layered := path.layered trivial
  constructor
  · intro next undone
    cases undone with
    | @failed frames start transfers world =>
        exact ⟨⟨start, transfers⟩, rfl, layered.undone_agrees restores⟩
  · intro operation next refused
    cases refused with
    | refused => exact ⟨rfl, World.detached_agrees _⟩
    | unrecorded => exact ⟨rfl, World.unrecorded_agrees ..⟩

/-- A deposit whose transfer meets a second deposit of the same user and then fails takes the
second one back too, although that one had succeeded. -/
theorem failed_deposit_is_undone :
    let second : Step := .call (.deposit (Host.sample.proofOf "a") "USDC" (.ofNat 3)) []
    let first : Step := .call (.deposit (Host.sample.proofOf "a") "USDC" (.ofNat 5))
      [.meets [second] (some "stopped")]
    let world := (runAll Host.sample [.mint "USDC" "a" (.ofNat 10)] World.sample).1
    (first.run Host.sample world).2 =
        .of (.error (.fault "stopped")) [.of (.ok (.amount 8)) []] ∧
      (first.run Host.sample world).1.Agrees world := by
  intro second first world
  have failed : (first.run Host.sample world).2.outcome = .error (.fault "stopped") := rfl
  exact ⟨rfl, (failed_call_is_undone rfl world).1 _ _ _ failed⟩

end SavingsCircle
