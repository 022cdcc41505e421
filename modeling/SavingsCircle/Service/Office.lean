import SavingsCircle.Ledger.Pages
import SavingsCircle.Service.Conduct
import SavingsCircle.Service.Run

/-!
# The office

Calls as they are carried out. An office keeps a binder of sheets, the audit trail and the pages of
a ledger, and an operation is conducted there one thing after the other: its writings, publications
and transfers happen where its procedure has them, and the steps that a transfer meets find the
binder and the trail as they are at that moment. Before a call begins, a copy of the binder is set
aside, the length of the trail is noted, and the ledger takes a checkpoint where the host says so.
When the call fails, these are gone back to.

Steps and plans are those of runs. What became of a step is told without the answer of a call.
-/

namespace SavingsCircle

/-- The service and its collaborators, as they are kept. -/
structure Office where
  binder : Binder
  pages : Pages
  trail : Trail Event
  /-- The clock that deadlines and locks go by, in seconds. -/
  now : Number
  /-- The clock that dates audit entries, in milliseconds. -/
  clock : Number
  nonce : String
  draws : Draws

/-- What a call that fails goes back to. -/
structure Checkpoint where
  binder : Binder
  trailLength : Nat
  /-- The page of the ledger's checkpoint, if it took one. -/
  page : Option Nat

/-- Whether a step failed, and why, with what became of the steps that its transfers met. -/
inductive Verdict where
  | of (failure : Option Failure) (nested : List Verdict)

namespace Verdict

def failure : Verdict → Option Failure
  | .of failure _ => failure

def nested : Verdict → List Verdict
  | .of _ nested => nested

def succeeds (verdict : Verdict) : Bool := verdict.failure.isNone

def ofOutcome {α : Type} : Except Failure α → Verdict
  | .ok _ => .of none []
  | .error failure => .of (some failure) []

end Verdict

/-- How a call went that was carried out up to its end, or up to where it failed. -/
structure Closing where
  office : Office
  verdicts : List Verdict
  failure : Option Failure

namespace Office

def opened (now clock : Number) (nonce : String) (draws : Draws) : Office where
  binder := (Books.opened now).binder
  pages := .empty
  trail := .empty
  now
  clock
  nonce
  draws

/-- What can be seen of an office from outside. -/
def world (office : Office) : World where
  books := office.binder.books
  ledger := office.pages.ledger
  trail := office.trail
  now := office.now
  clock := office.clock
  nonce := office.nonce
  draws := office.draws
  slips := []

def moment (office : Office) : Moment := ⟨office.now, office.draws⟩

def record (office : Office) (event : Event) : Except Failure Office := do
  let stamp ← demandSome (Stamp.read? office.clock office.nonce) .undated
  return { office with trail := office.trail.record stamp event }

def carry (office : Office) (transfer : Transfer) : Except Failure Office := do
  let pages ← office.pages.transfer transfer.asset transfer.source transfer.target transfer.amount
  return { office with pages }

/-- Takes a checkpoint of everything that a call can change. -/
def checkpoint (office : Office) (host : Host) : Office × Checkpoint :=
  let length := office.trail.entries.length
  if host.restoresLedger then
    let (pages, page) := office.pages.checkpoint
    ({ office with pages }, ⟨office.binder, length, some page⟩)
  else (office, ⟨office.binder, length, none⟩)

def restore (office : Office) (checkpoint : Checkpoint) : Office :=
  { office with
    binder := checkpoint.binder
    trail := office.trail.truncate checkpoint.trailLength
    pages := checkpoint.page.elim office.pages office.pages.restore }

def withFreshBinder (office : Office) : Office :=
  { office with binder := (Books.opened office.now).binder }

def acted (office : Office) (outcome : Except Failure Pages) : Office × Verdict :=
  match outcome with
  | .ok pages => ({ office with pages }, .ofOutcome outcome)
  | .error _ => (office, .ofOutcome outcome)

end Office

namespace Procedure

variable {α : Type}

/-- Carries a procedure out until it is done, refuses to go on, or is about to make a transfer. What
is then left of it comes with the office. -/
def reach : Procedure α → Office → Procedure α × Office
  | .done value, office => (.done value, office)
  | .refuse failure, office => (.refuse failure, office)
  | .look next, office => (next office.binder office.moment).reach office
  | .write change rest, office => rest.reach { office with binder := change office.binder }
  | .draw draws rest, office => rest.reach { office with draws }
  | .publish event rest, office =>
    match office.record event with
    | .ok office => rest.reach office
    | .error failure => (.refuse failure, office)
  | .pay transfer rest, office => (.pay transfer rest, office)

/-- Carries a procedure out to its end, with transfers that meet nothing. -/
def complete : Procedure α → Office → Closing
  | .done _, office => ⟨office, [], none⟩
  | .refuse failure, office => ⟨office, [], some failure⟩
  | .look next, office => (next office.binder office.moment).complete office
  | .write change rest, office => rest.complete { office with binder := change office.binder }
  | .draw draws rest, office => rest.complete { office with draws }
  | .publish event rest, office =>
    match office.record event with
    | .ok office => rest.complete office
    | .error failure => ⟨office, [], some failure⟩
  | .pay transfer rest, office =>
    match office.carry transfer with
    | .ok office => rest.complete office
    | .error failure => ⟨office, [], some failure⟩

end Procedure

namespace Closing

def conclude (closing : Closing) (checkpoint : Checkpoint) : Office × Verdict :=
  match closing.failure with
  | none => (closing.office, .of none closing.verdicts)
  | some failure => (closing.office.restore checkpoint, .of (some failure) closing.verdicts)

def after (closing : Closing) (verdicts : List Verdict) : Closing :=
  { closing with verdicts := verdicts ++ closing.verdicts }

end Closing

mutual

/-- Carries out one step. -/
def Step.enact (host : Host) : Step → Office → Office × Verdict
  | .call operation plan, office =>
    let (opened, checkpoint) := office.checkpoint host
    (proceed host plan (operation.procedure host) opened).conclude checkpoint
  | .query query, office => (office, .ofOutcome (query.answer office.world))
  | .reset, office => (office.withFreshBinder, .of none [])
  | .mint asset target amount, office => office.acted (office.pages.mint asset target amount)
  | .transfer asset source target amount, office =>
    office.acted (office.pages.transfer asset source target amount)
  | .setClock now, office => ({ office with now }, .of none [])
  | .advance seconds, office => ({ office with now := office.now.add seconds }, .of none [])
  | .setDating clock, office => ({ office with clock }, .of none [])
  | .unknown, office => (office, .of (some .unknown) [])

def enactAll (host : Host) : List Step → Office → Office × List Verdict
  | [], office => (office, [])
  | step :: steps, office =>
    let (office, verdict) := step.enact host office
    let (office, verdicts) := enactAll host steps office
    (office, verdict :: verdicts)

/-- Carries a procedure out, each of its transfers with its encounter, to its end or to where it
fails. -/
def proceed (host : Host) : List Encounter → Procedure Receipt → Office → Closing
  | [], procedure, office => procedure.complete office
  | .meets steps fault :: plan, procedure, office =>
    match procedure.reach office with
    | (.pay transfer rest, office) =>
      let (office, verdicts) := enactAll host steps office
      match fault with
      | some message => ⟨office, verdicts, some (.fault message)⟩
      | none =>
        match office.carry transfer with
        | .ok office => (proceed host plan rest office).after verdicts
        | .error failure => ⟨office, verdicts, some failure⟩
    | (procedure, office) => procedure.complete office

end

end SavingsCircle
