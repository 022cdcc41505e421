import SavingsCircle.Service.Query

/-!
# Runs of the service

A run is a list of steps: calls, queries, direct actions on the ledger, and moves of the clocks. A
call comes with a plan of encounters, one for each of its transfers in turn. Just before the
transfer takes effect the steps of its encounter are run, which may call the service again, and
the encounter may then make the transfer fail.

Runs are data and `runAll` is total: every re-entry is part of the plan.
-/

namespace SavingsCircle

mutual

/-- One step of a run. -/
inductive Step where
  | call (operation : Operation) (plan : List Encounter)
  | query (query : Query)
  /-- Replaces the books by empty ones. -/
  | reset
  | mint (asset : Asset) (target : Address) (amount : Number)
  | transfer (asset : Asset) (source target : Address) (amount : Number)
  | setClock (now : Number)
  | advance (seconds : Number)
  /-- Sets the clock that dates audit entries. -/
  | setDating (clock : Number)
  /-- A step that asks for nothing that exists. -/
  | unknown

/-- What a transfer meets just before it takes effect: steps that are run, and possibly a fault
that makes it fail. -/
inductive Encounter where
  | meets (steps : List Step) (fault : Option String)

end

/-- What became of a step, with the reports of the steps that its transfers met. -/
inductive Report where
  | of (outcome : Except Failure Answer) (nested : List Report)

namespace Report

def outcome : Report → Except Failure Answer
  | .of outcome _ => outcome

def nested : Report → List Report
  | .of _ nested => nested

end Report

/-- How the transfers of a call went: the world after them, the reports of the steps that they
met, and the failure that ended them early. -/
structure Settlement where
  world : World
  reports : List Report
  failure : Option Failure

namespace World

/-- Makes transfers that meet nothing, up to the first that fails. -/
def carryAll (world : World) : List Transfer → Settlement
  | [] => ⟨world, [], none⟩
  | transfer :: transfers =>
    match world.carry transfer with
    | .ok world => world.carryAll transfers
    | .error failure => ⟨world, [], some failure⟩

def acted (world : World) (outcome : Except Failure Ledger) : World × Report :=
  match outcome with
  | .ok ledger => ({ world with ledger }, .of (.ok .nothing) [])
  | .error failure => (world, .of (.error failure) [])

end World

namespace Settlement

def conclude (settlement : Settlement) (host : Host) (start : World) : World × Report :=
  match settlement.failure with
  | none => (settlement.world.taken, .of (.ok settlement.world.answer) settlement.reports)
  | some failure =>
    (settlement.world.undone host start, .of (.error failure) settlement.reports)

def after (settlement : Settlement) (reports : List Report) : Settlement :=
  { settlement with reports := reports ++ settlement.reports }

end Settlement

mutual

/-- Runs one step. -/
def Step.run (host : Host) : Step → World → World × Report
  | .call operation plan, world =>
    match operation.perform host world.moment world.books with
    | .error failure => (world.detached, .of (.error failure) [])
    | .ok effect =>
      match world.commit effect with
      | .error failure => (world.unrecorded effect, .of (.error failure) [])
      | .ok written => (settle host plan effect.transfers written).conclude host world
  | .query query, world => (world, .of (query.answer world) [])
  | .reset, world => (world.withFreshBooks, .of (.ok .nothing) [])
  | .mint asset target amount, world => world.acted (world.ledger.mint asset target amount)
  | .transfer asset source target amount, world =>
    world.acted (world.ledger.transfer asset source target amount)
  | .setClock now, world => ({ world with now }, .of (.ok .nothing) [])
  | .advance seconds, world =>
    ({ world with now := world.now.add seconds }, .of (.ok .nothing) [])
  | .setDating clock, world => ({ world with clock }, .of (.ok .nothing) [])
  | .unknown, world => (world, .of (.error .unknown) [])

def runAll (host : Host) : List Step → World → World × List Report
  | [], world => (world, [])
  | step :: steps, world =>
    let (world, report) := step.run host world
    let (world, reports) := runAll host steps world
    (world, report :: reports)

/-- Makes the transfers of a call, each with its encounter, up to the first that fails. -/
def settle (host : Host) : List Encounter → List Transfer → World → Settlement
  | [], transfers, world => world.carryAll transfers
  | _ :: _, [], world => ⟨world, [], none⟩
  | .meets steps fault :: plan, transfer :: transfers, world =>
    let (world, reports) := runAll host steps world
    match fault with
    | some message => ⟨world, reports, some (.fault message)⟩
    | none =>
      match world.carry transfer with
      | .ok world => (settle host plan transfers world).after reports
      | .error failure => ⟨world, reports, some failure⟩

end

end SavingsCircle
