import SavingsCircle.Proofs.Checkpoints
import SavingsCircle.Proofs.Office.Conduct
import SavingsCircle.Proofs.Office.Reach
import SavingsCircle.Proofs.Run.Reentry
import SavingsCircle.Proofs.Service.Opening

/-!
# Offices and runs

What an office shows is a world of runs, and a step that is carried out in the office leads to an
office that shows where the step of the run leads (`Step.enact_shows`). So the steps of runs, in
which a call takes effect at once and a failed call gives back the ledger that it began with, are
what comes of calls that are carried out one thing after the other and of checkpoints that are gone
back to.

A call of an operation is orderly, so by its first transfer it has come to the effect of the
operation. And between a checkpoint of the ledger and its restoration only pages that were laid
aside later are turned to (`Pages.Keeps`), so the page of the checkpoint still shows the ledger as
it was.
-/

namespace SavingsCircle

mutual

def Report.verdict : Report → Verdict
  | .of outcome nested => .of (Verdict.ofOutcome outcome).failure (verdictsOf nested)

def verdictsOf : List Report → List Verdict
  | [] => []
  | report :: reports => report.verdict :: verdictsOf reports

end

theorem verdictsOf_append (reports later : List Report) :
    verdictsOf (reports ++ later) = verdictsOf reports ++ verdictsOf later := by
  induction reports with
  | nil => rfl
  | cons report reports ih => simp [verdictsOf, ih]

theorem Report.succeeds_verdict (report : Report) : report.verdict.succeeds = report.succeeds := by
  obtain ⟨_ | _, _⟩ := report <;> rfl

theorem Report.nested_verdict (report : Report) :
    report.verdict.nested = verdictsOf report.nested := by
  obtain ⟨_, _⟩ := report
  rfl

theorem succeeds_verdictsOf (reports : List Report) :
    (verdictsOf reports).map (·.succeeds) = reports.map (·.succeeds) := by
  induction reports with
  | nil => rfl
  | cons report reports ih => simp [verdictsOf, ih, report.succeeds_verdict]

/-- An office shows a world, up to the slips of the calls in progress: its sheets are those of the
circles, and its ledger is the one on the page in use. -/
structure Office.Shows (office : Office) (world : World) : Prop where
  binder : office.binder = world.books.binder
  numbered : world.books.Numbered
  isOpen : office.pages.IsOpen
  ledger : office.pages.ledger = world.ledger
  trail : office.trail = world.trail
  now : office.now = world.now
  clock : office.clock = world.clock
  nonce : office.nonce = world.nonce
  draws : office.draws = world.draws

/-- What a step comes to in an office and in the world that it shows. -/
structure Office.Follows (office : Office) (enacted : Office × Verdict) (ran : World × Report) :
    Prop where
  shows : enacted.1.Shows ran.1
  keeps : office.pages.Keeps enacted.1.pages
  verdict : enacted.2 = ran.2.verdict

namespace Office

variable {office next : Office} {world after : World} {host : Host}

namespace Shows

theorem world_eq (shows : office.Shows world) :
    world = { office.world with slips := world.slips } := by
  obtain ⟨binder, -, -, ledger, trail, now, clock, nonce, draws⟩ := shows
  simp only [Office.world, binder, books_binder, ledger, trail, now, clock, nonce, draws]

theorem moment (shows : office.Shows world) : office.moment = world.moment := by
  rw [Office.moment, shows.now, shows.draws]
  rfl

theorem write (shows : office.Shows world) (ledger : Ledger) :
    Shows { office with pages := office.pages.write ledger } { world with ledger } :=
  { shows with
    isOpen := by simpa [Pages.IsOpen, Pages.write] using shows.isOpen
    ledger := Pages.ledger_write shows.isOpen ledger }

/-- A transfer is made in both, or refused in both for the same reason. -/
theorem carry (shows : office.Shows world) (transfer : Transfer) :
    (∃ next after, office.carry transfer = .ok next ∧ world.carry transfer = .ok after ∧
      next.Shows after ∧ office.pages.Keeps next.pages) ∨
    ∃ failure, office.carry transfer = .error failure ∧ world.carry transfer = .error failure := by
  rw [Office.carry, World.carry, Pages.transfer, shows.ledger]
  cases world.ledger.transfer transfer.asset transfer.source transfer.target transfer.amount with
  | error failure => exact .inr ⟨failure, rfl, rfl⟩
  | ok ledger => exact .inl ⟨_, _, rfl, rfl, shows.write ledger, .write _ _⟩

theorem acted (shows : office.Shows world) (outcome : Except Failure Ledger) :
    office.Follows (office.acted (outcome.map office.pages.write)) (world.acted outcome) := by
  cases outcome with
  | error _ => exact ⟨shows, .refl _, rfl⟩
  | ok ledger => exact ⟨shows.write ledger, .write _ _, rfl⟩

theorem withSlips (shows : office.Shows world) (slips : List Slip) :
    office.Shows { world with slips } := { shows with }

/-- A checkpoint shows what is shown already, and brings it back when it is restored after pages
laid aside later were turned to at most. -/
theorem checkpoint (shows : office.Shows world) (host : Host) :
    (office.checkpoint host).1.Shows world ∧
    office.pages.Keeps (office.checkpoint host).1.pages ∧
    ∀ {next after}, Shows next after → (office.checkpoint host).1.pages.Keeps next.pages →
      (next.restore (office.checkpoint host).2).Shows (after.undone host world) ∧
        office.pages.Keeps (next.restore (office.checkpoint host).2).pages := by
  have cut {next : Office} {after : World} (now : next.Shows after) :
      next.trail.truncate office.trail.entries.length =
        after.trail.truncate world.trail.entries.length := by
    rw [now.trail, shows.trail]
  rw [Office.checkpoint]
  cases restores : host.restoresLedger with
  | true =>
      have opened := Pages.layers.checkpoint shows.isOpen
      refine ⟨{ shows with isOpen := opened.holds, ledger := opened.view.trans shows.ledger },
        opened.extended, fun now keeps => ?_⟩
      have restored := Pages.layers.restore shows.isOpen now.isOpen keeps
      refine ⟨⟨shows.binder, shows.numbered, restored.holds, ?_, cut now, now.now, now.clock,
        now.nonce, now.draws⟩, restored.extended⟩
      simp only [World.undone, restores, if_true]
      exact restored.view.trans shows.ledger
  | false =>
      refine ⟨shows, .refl _, fun now keeps => ⟨⟨shows.binder, shows.numbered, now.isOpen, ?_,
        cut now, now.now, now.clock, now.nonce, now.draws⟩, keeps⟩⟩
      simp only [World.undone, restores, Bool.false_eq_true, if_false]
      exact now.ledger

end Shows

/-- How the transfers of a call went in an office and in the world that it showed. -/
structure FollowsAll (office : Office) (closing : Closing) (settlement : Settlement) : Prop where
  shows : closing.office.Shows settlement.world
  keeps : office.pages.Keeps closing.office.pages
  verdicts : closing.verdicts = verdictsOf settlement.reports
  failure : closing.failure = settlement.failure

/-- A call goes back to its checkpoint where it failed, and stays where it got to else. -/
theorem FollowsAll.conclude {closing : Closing} {settlement : Settlement}
    (shows : office.Shows world)
    (follows : FollowsAll (office.checkpoint host).1 closing settlement) :
    office.Follows (closing.conclude (office.checkpoint host).2)
      (settlement.conclude host world) := by
  obtain ⟨now, keeps, verdicts, failed⟩ := follows
  obtain ⟨_, opened, restored⟩ := shows.checkpoint host
  rw [Closing.conclude, Settlement.conclude, failed, verdicts]
  cases settlement.failure with
  | none => exact ⟨{ now with }, opened.trans keeps, rfl⟩
  | some failure => exact ⟨(restored now keeps).1, (restored now keeps).2, rfl⟩

/-- Transfers that meet nothing. -/
theorem Shows.complete (shows : office.Shows world) (receipt : Receipt)
    (transfers : List Transfer) :
    office.FollowsAll ((Procedure.payThen receipt transfers).complete office)
      (world.carryAll transfers) := by
  induction transfers generalizing office world with
  | nil => exact ⟨shows, .refl _, rfl, rfl⟩
  | cons transfer transfers ih =>
      simp only [Procedure.payThen, Procedure.complete, World.carryAll]
      rcases shows.carry transfer with ⟨next, after, made, carried, now, keeps⟩ |
        ⟨failure, refused, failed⟩
      · rw [made, carried]
        have rest := ih now
        exact { rest with keeps := keeps.trans rest.keeps }
      · rw [refused, failed]
        exact ⟨shows, .refl _, rfl, rfl⟩

end Office

namespace Procedure

variable {α : Type} {host : Host}

/-- What is left of a procedure where it gets stays there. -/
theorem reach_reach (procedure : Procedure α) (office : Office) :
    (procedure.reach office).1.reach (procedure.reach office).2 = procedure.reach office := by
  induction procedure generalizing office with
  | done | refuse | pay => rfl
  | look _ ih => exact ih ..
  | write _ _ ih | draw _ _ ih => exact ih _
  | publish event rest ih =>
      simp only [reach]
      cases office.record event with
      | error _ => rfl
      | ok next => exact ih next

theorem reach_of_reach {procedure left : Procedure α} {office next : Office}
    (reached : procedure.reach office = (left, next)) : left.reach next = (left, next) := by
  have settled := procedure.reach_reach office
  rwa [reached] at settled

theorem complete_reach (procedure : Procedure α) (office : Office) :
    (procedure.reach office).1.complete (procedure.reach office).2 = procedure.complete office := by
  induction procedure generalizing office with
  | done | refuse | pay => rfl
  | look _ ih => exact ih ..
  | write _ _ ih | draw _ _ ih => exact ih _
  | publish event rest ih =>
      simp only [reach, complete]
      cases office.record event with
      | error _ => rfl
      | ok next => exact ih next

end Procedure

section

variable {host : Host} {procedure left : Procedure Receipt} {office next : Office}
variable {world : World}

/-- A procedure goes on from where it gets to. -/
theorem proceed_of_reach (plan : List Encounter) (reached : procedure.reach office = (left, next)) :
    proceed host plan procedure office = proceed host plan left next := by
  cases plan with
  | nil =>
      have completes := procedure.complete_reach office
      rw [reached] at completes
      simp only [proceed, completes]
  | cons encounter plan =>
      obtain ⟨steps, fault⟩ := encounter
      simp only [proceed, reached, Procedure.reach_of_reach reached]

theorem proceed_refuse (plan : List Encounter) (failure : Failure) (office : Office) :
    proceed host plan (.refuse failure) office = ⟨office, [], some failure⟩ := by
  cases plan with
  | nil => rfl
  | cons encounter _ =>
      obtain ⟨_, _⟩ := encounter
      rfl

theorem Books.Numbered.opened (now : Number) : (Books.opened now).Numbered :=
  ⟨List.nodup_nil, nofun⟩

theorem World.undone_eq (world : World) (draws : Draws) (host : Host) :
    World.undone { world with draws } host world =
      { world with draws, slips := world.taken.detached.slips } := by
  have whole : world.trail.truncate world.trail.entries.length = world.trail := by
    rw [Trail.truncate, List.take_length]
  simp only [World.undone, World.detached, World.taken, whole, ite_self]

/-- How far the procedure of an operation gets, and what the operation does then in the world that
is shown: either it is refused before its first transfer, or it has come to its effect and only has
its transfers to make. -/
inductive Office.Conducts (host : Host) (office : Office) (world : World) (operation : Operation) :
    Prop where
  | refused {failure binder draws} (slips : List Slip)
      (reached : (operation.procedure host).reach office =
        (.refuse failure, { office with binder, draws }))
      (refused : ∀ plan, (Step.call operation plan).run host world =
        ({ world with draws, slips }, .of (.error failure) []))
      (noEntrance : ∀ place, world.entrance? host operation place = none)
  | written {effect written next}
      (reached : (operation.procedure host).reach office =
        (.payThen effect.receipt effect.transfers, next))
      (pages : next.pages = office.pages) (shows : next.Shows written)
      (performed : operation.perform host world.moment world.books = .ok effect)
      (committed : world.commit effect = .ok written)

namespace Office.Shows

variable {operation : Operation} {effect : Effect}

/-- The procedure of an operation gets to where the effect of the operation says. -/
theorem reaches (shows : office.Shows world) (host : Host) (operation : Operation) :
    (operation.procedure host).Reaches office
      ((operation.perform host world.moment world.books).map (·.draft world.now)) := by
  have reaches := (operation.procedure host).reaches_draft (operation.isOrderly_procedure host)
    office
  rwa [shows.binder, shows.moment, operation.procedure_drafts host world.moment shows.numbered]
    at reaches

theorem recorded?_eq (shows : office.Shows world) (events : List Event) :
    office.world.recorded? events = world.recorded? events := by
  rw [shows.world_eq]
  rfl

theorem conducts_of_error (shows : office.Shows world) {failure : Failure}
    (performed : operation.perform host world.moment world.books = .error failure) :
    office.Conducts host world operation := by
  have reaches := shows.reaches host operation
  rw [performed] at reaches
  obtain ⟨binder, reached⟩ := reaches
  have undrawn : { office with binder } = { office with binder, draws := world.draws } := by
    rw [← shows.draws]
  refine .refused world.detached.slips (reached.trans (congrArg _ undrawn)) (fun plan => ?_)
    fun place => ?_
  · simp only [Step.run, performed]
    rfl
  · simp only [World.entrance?, performed]

/-- Where the clock shows no date, an operation that has something to record is refused. -/
theorem conducts_of_unrecorded (shows : office.Shows world)
    (performed : operation.perform host world.moment world.books = .ok effect)
    (recorded : world.recorded? effect.events = none) : office.Conducts host world operation := by
  have uncommitted : world.commit effect = .error .undated := by
    rw [World.commit, recorded]
    rfl
  have reaches := shows.reaches host operation
  simp only [performed, Except.map, Procedure.Reaches, Effect.draft, shows.recorded?_eq, recorded]
    at reaches
  obtain ⟨binder, reached⟩ := reaches
  refine .refused (world.unrecorded effect).slips reached (fun plan => ?_) fun place => ?_
  · simp only [Step.run, performed, uncommitted]
    rfl
  · simp only [World.entrance?, performed, uncommitted]

theorem conducts_of_recorded (shows : office.Shows world)
    (performed : operation.perform host world.moment world.books = .ok effect)
    {trail : Trail Event} (recorded : world.recorded? effect.events = some trail) :
    office.Conducts host world operation := by
  let written : World :=
    { world.witnessing effect with
      books := effect.books
      trail
      slips := Slip.issue effect.receipt effect.books :: (world.witnessing effect).slips }
  have committed : world.commit effect = .ok written := by
    rw [World.commit, recorded]
    rfl
  have numbered := (performs_of_perform performed).touches.numbered shows.numbered
  let next : Office :=
    { office with binder := effect.books.binder, draws := effect.draws, trail }
  have now : next.Shows written :=
    { shows with binder := rfl, numbered, trail := rfl, draws := rfl }
  have reaches := shows.reaches host operation
  simp only [performed, Except.map, Procedure.Reaches, Effect.draft, shows.recorded?_eq, recorded]
    at reaches
  exact .written reaches rfl now performed committed

/-- Procedures get as far as their order and what they come to say. -/
theorem conducts (shows : office.Shows world) (host : Host) (operation : Operation) :
    office.Conducts host world operation := by
  cases performed : operation.perform host world.moment world.books with
  | error _ => exact shows.conducts_of_error performed
  | ok effect =>
      cases recorded : world.recorded? effect.events with
      | none => exact shows.conducts_of_unrecorded performed recorded
      | some _ => exact shows.conducts_of_recorded performed recorded

end Office.Shows

/-- A call of an operation leads to an office that shows where the call leads, if its transfers
do. -/
theorem Office.Shows.call (shows : office.Shows world) (operation : Operation)
    {plan : List Encounter}
    (settles : ∀ (receipt : Receipt) (transfers : List Transfer) {office : Office} {world : World},
      office.Shows world →
        office.FollowsAll (proceed host plan (.payThen receipt transfers) office)
          (settle host plan transfers world)) :
    office.Follows ((Step.call operation plan).enact host office)
      ((Step.call operation plan).run host world) := by
  obtain ⟨opened, keeps, restored⟩ := shows.checkpoint host
  change office.Follows ((proceed host plan (operation.procedure host)
    (office.checkpoint host).1).conclude (office.checkpoint host).2) _
  cases opened.conducts host operation with
  | @refused _ _ draws slips reached refused =>
      -- Writings are undone, and only the draws that were taken are gone.
      have drawn : Shows { (office.checkpoint host).1 with draws } { world with draws } :=
        { opened with draws := rfl }
      obtain ⟨back, kept⟩ := restored drawn (.refl _)
      rw [World.undone_eq] at back
      rw [refused, proceed_of_reach plan reached, proceed_refuse]
      exact ⟨back.withSlips slips, kept, rfl⟩
  | @written effect _ _ reached pages now performed committed =>
      have settled := settles effect.receipt effect.transfers now
      simp only [Step.run, performed, committed, proceed_of_reach plan reached]
      exact Office.FollowsAll.conclude shows { settled with keeps := pages ▸ settled.keeps }

end

mutual

/-- A step that is carried out in an office leads to an office that shows where the step leads in
the world that the office showed. -/
theorem Step.enact_shows (host : Host) :
    ∀ (step : Step) {office : Office} {world : World}, office.Shows world →
      office.Follows (step.enact host office) (step.run host world)
  | .call operation plan, _, _, shows =>
    shows.call operation fun receipt transfers => proceed_shows host receipt plan transfers
  | .query query, office, world, shows => by
    have same : query.answer office.world = query.answer world := by
      rw [shows.world_eq]
      cases query <;> rfl
    refine ⟨shows, .refl _, ?_⟩
    simp only [Step.enact, Step.run, same]
    cases query.answer world <;> rfl
  | .reset, office, world, shows =>
    ⟨{ shows with
        binder := congrArg (fun now => (Books.opened now).binder) shows.now
        numbered := .opened _ }, .refl _, rfl⟩
  | .mint asset target amount, office, world, shows => by
    have same : office.pages.mint asset target amount =
        (world.ledger.mint asset target amount).map office.pages.write :=
      shows.ledger ▸ office.pages.grant_eq (.mint asset target amount)
    simp only [Step.enact, same]
    exact shows.acted _
  | .transfer asset source target amount, office, world, shows => by
    have same : office.pages.transfer asset source target amount =
        (world.ledger.transfer asset source target amount).map office.pages.write :=
      shows.ledger ▸ office.pages.grant_eq (.transfer asset source target amount)
    simp only [Step.enact, same]
    exact shows.acted _
  | .setClock now, office, world, shows => ⟨{ shows with now := rfl }, .refl _, rfl⟩
  | .advance seconds, office, world, shows =>
    ⟨{ shows with now := congrArg (·.add seconds) shows.now }, .refl _, rfl⟩
  | .setDating clock, office, world, shows => ⟨{ shows with clock := rfl }, .refl _, rfl⟩
  | .unknown, office, world, shows => ⟨shows, .refl _, rfl⟩

theorem enactAll_shows (host : Host) :
    ∀ (steps : List Step) {office : Office} {world : World}, office.Shows world →
      (enactAll host steps office).1.Shows (runAll host steps world).1 ∧
        office.pages.Keeps (enactAll host steps office).1.pages ∧
        (enactAll host steps office).2 = verdictsOf (runAll host steps world).2
  | [], office, world, shows => ⟨shows, .refl _, rfl⟩
  | step :: steps, office, world, shows => by
    obtain ⟨now, keeps, verdict⟩ := Step.enact_shows host step shows
    obtain ⟨last, keepsOn, verdicts⟩ := enactAll_shows host steps now
    exact ⟨last, keeps.trans keepsOn, congr (congrArg _ verdict) verdicts⟩

theorem proceed_shows (host : Host) (receipt : Receipt) :
    ∀ (plan : List Encounter) (transfers : List Transfer) {office : Office} {world : World},
      office.Shows world →
        office.FollowsAll (proceed host plan (.payThen receipt transfers) office)
          (settle host plan transfers world)
  | [], transfers, office, world, shows => shows.complete receipt transfers
  | .meets _ _ :: _, [], office, world, shows => ⟨shows, .refl _, rfl, rfl⟩
  | .meets steps fault :: plan, transfer :: transfers, office, world, shows => by
    obtain ⟨met, keeps, verdicts⟩ := enactAll_shows host steps shows
    simp only [Procedure.payThen, proceed, Procedure.reach, settle]
    cases fault with
    | some _ => exact ⟨met, keeps, verdicts, rfl⟩
    | none =>
        rcases met.carry transfer with ⟨next, after, made, carried, now, kept⟩ |
          ⟨failure, refused, failed⟩
        · have rest := proceed_shows host receipt plan transfers now
          simp only [made, carried]
          refine ⟨rest.shows, keeps.trans (kept.trans rest.keeps), ?_, rest.failure⟩
          simp only [Closing.after, Settlement.after, verdictsOf_append, verdicts, rest.verdicts]
        · simp only [refused, failed]
          exact ⟨met, keeps, verdicts, rfl⟩

end

namespace Office

/-- The offices that steps lead to from one without any history. -/
inductive Reached (host : Host) : Office → Prop where
  | opened (now clock : Number) (nonce : String) (draws : Draws) :
      Reached host (opened now clock nonce draws)
  | enact {office} (reached : Reached host office) (step : Step) :
      Reached host (step.enact host office).1

theorem shows_opened (now clock : Number) (nonce : String) (draws : Draws) :
    (opened now clock nonce draws).Shows (.opened now clock nonce draws) :=
  ⟨rfl, .opened now, Nat.zero_lt_one, rfl, rfl, rfl, rfl, rfl, rfl⟩

variable {host : Host} {office : Office} {world : World}

theorem Shows.self (shows : office.Shows world) : office.Shows office.world := by
  have seen := shows.withSlips []
  rw [shows.world_eq] at seen
  exact seen

namespace Reached

theorem enactAll (reached : office.Reached host) (steps : List Step) :
    (enactAll host steps office).1.Reached host := by
  induction steps generalizing office with
  | nil => exact reached
  | cons step steps ih => exact ih (reached.enact step)

/-- An office that steps lead to shows what can be seen of it. -/
theorem shows (reached : office.Reached host) : office.Shows office.world := by
  induction reached with
  | opened now clock nonce draws => exact (shows_opened now clock nonce draws).self
  | enact _ step ih => exact (step.enact_shows host ih).shows.self

/-- In every sheet the four lists are equally long, whatever was done before. -/
theorem isParallel (reached : office.Reached host) : office.binder.IsParallel :=
  reached.shows.binder ▸ isParallel_binder _

/-- A call that fails is undone by going back to its checkpoint: the binder, the trail and the page
in use show what they showed when it began, whatever the steps did that its transfers met. -/
theorem restored (reached : office.Reached host) (restores : host.restoresLedger = true)
    {operation : Operation} {plan : List Encounter} {after : Office × Verdict}
    (isAfter : after = (Step.call operation plan).enact host office)
    (failed : after.2.succeeds = false) :
    after.1.binder = office.binder ∧ after.1.trail = office.trail ∧
      after.1.pages.ledger = office.pages.ledger := by
  have shows := reached.shows
  obtain ⟨now, -, verdict⟩ := (Step.call operation plan).enact_shows host shows
  rw [← isAfter] at now verdict
  rw [verdict, Report.succeeds_verdict] at failed
  obtain ⟨_, outcome⟩ := Report.succeeds_eq_false_iff.1 failed
  have agrees := Step.agrees_of_run_eq_error restores outcome
  refine ⟨?_, ?_, ?_⟩
  · rw [now.binder, agrees.books, shows.binder]
  · rw [now.trail, agrees.trail, shows.trail]
  · rw [now.ledger, agrees.ledger, shows.ledger]

end Reached

end Office

end SavingsCircle
