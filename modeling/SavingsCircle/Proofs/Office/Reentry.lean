import SavingsCircle.Proofs.Custody.Deferral
import SavingsCircle.Proofs.Office.Simulation

/-!
# Re-entry into an office

A transfer may meet steps that call the service again, while the call that makes the transfer is
still going on and has to be carried out to its end. Because every operation is in order, such steps
find the binder and the trail as the call leaves them, and nothing that is left to be done of the
call touches what they do. They can as well be carried out after the call
(`nested_calls_are_deferred`).
-/

namespace SavingsCircle

/-- The office in which a procedure is about to make its transfer at a place, if it gets there and
the transfers before meet nothing. -/
def Procedure.meeting? {α : Type} : Nat → Procedure α → Office → Option Office
  | 0, procedure, office =>
    match procedure.reach office with
    | (.pay _ _, office) => some office
    | _ => none
  | place + 1, procedure, office =>
    match procedure.reach office with
    | (.pay transfer rest, office) =>
      match office.carry transfer with
      | .ok office => rest.meeting? place office
      | .error _ => none
    | _ => none

/-- The office that an operation leaves to what its transfer at a place meets, if it gets there. -/
def Office.entrance? (office : Office) (host : Host) (operation : Operation) (place : Nat) :
    Option Office :=
  (operation.procedure host).meeting? place (office.checkpoint host).1

namespace Office

variable {host : Host} {office inner : Office} {world : World}

theorem meeting?_of_reach {procedure left : Procedure Receipt} {next : Office}
    (reached : procedure.reach office = (left, next)) (place : Nat) :
    procedure.meeting? place office = left.meeting? place next := by
  cases place <;> simp only [Procedure.meeting?, reached, Procedure.reach_of_reach reached]

/-- Transfers get equally far in an office and in the world that it shows. -/
theorem Shows.meeting? (shows : office.Shows world) (receipt : Receipt) (place : Nat)
    (transfers : List Transfer) :
    Option.Rel Office.Shows ((Procedure.payThen receipt transfers).meeting? place office)
      ((world.reaching? place transfers).map (·.1)) := by
  induction place generalizing office world transfers with
  | zero =>
      cases transfers with
      | nil => exact .none
      | cons transfer transfers => exact .some shows
  | succ place ih =>
      cases transfers with
      | nil => exact .none
      | cons transfer transfers =>
          simp only [Procedure.payThen, Procedure.meeting?, Procedure.reach, World.reaching?]
          rcases shows.carry transfer with ⟨next, after, made, carried, now, -⟩ |
            ⟨failure, refused, failed⟩
          · simp only [made, carried]
            exact ih now transfers
          · simp only [refused, failed]
            exact .none

/-- What a transfer of a call meets in an office shows what it meets in the world that the office
shows. -/
theorem Shows.entrance? (shows : office.Shows world) (host : Host) (operation : Operation)
    (place : Nat) :
    Option.Rel Office.Shows (office.entrance? host operation place)
      (world.entrance? host operation place) := by
  obtain ⟨opened, -, -⟩ := shows.checkpoint host
  rw [Office.entrance?]
  cases opened.conducts host operation with
  | refused _ reached _ noEntrance =>
      rw [noEntrance, meeting?_of_reach reached]
      cases place <;> exact .none
  | @written effect _ _ reached _ now performed committed =>
      rw [meeting?_of_reach reached]
      simp only [World.entrance?, performed, committed]
      exact now.meeting? effect.receipt place effect.transfers

variable {operation : Operation} {place : Nat}

theorem Shows.entrance?_eq_some (shows : office.Shows world)
    (entrance : office.entrance? host operation place = some inner) :
    ∃ met, world.entrance? host operation place = some met ∧ inner.Shows met := by
  have entrances := shows.entrance? host operation place
  rw [entrance] at entrances
  generalize world.entrance? host operation place = met at entrances
  cases entrances with
  | some now => exact ⟨_, rfl, now⟩

theorem Shows.entrance?_eq_none (shows : office.Shows world)
    (missed : office.entrance? host operation place = none) :
    world.entrance? host operation place = none := by
  have entrances := shows.entrance? host operation place
  rw [missed] at entrances
  generalize world.entrance? host operation place = met at entrances
  cases entrances with
  | none => rfl

/-- Whatever the pages are, a call that meets nothing leaves the binder and the trail as it leaves
them to what its transfers meet. -/
theorem Shows.entrance_agrees (shows : office.Shows world)
    (entrance : office.entrance? host operation place = some inner) {pages : Pages}
    (isOpen : pages.IsOpen) {alone : Office × Verdict}
    (isAlone : alone = (Step.call operation []).enact host { office with pages })
    (returned : alone.2.succeeds = true) :
    inner.binder = alone.1.binder ∧ inner.trail = alone.1.trail := by
  obtain ⟨met, entrance, now⟩ := shows.entrance?_eq_some entrance
  have elsewhere : Shows { office with pages } { world with ledger := pages.ledger } :=
    { shows with isOpen, ledger := rfl }
  have follows := (Step.call operation []).enact_shows host elsewhere
  rw [← isAlone] at follows
  obtain ⟨ended, -, verdict⟩ := follows
  rw [verdict, Report.succeeds_verdict] at returned
  obtain ⟨books, trail⟩ := World.entrance_agrees entrance rfl returned
  exact ⟨by rw [now.binder, ended.binder, books], by rw [now.trail, ended.trail, trail]⟩

end Office

/-- Steps that a transfer of a call meets can as well be carried out after the call. They start from
the very binder and trail that the call leaves when its transfers meet nothing and are all made, on
whatever pages of the ledger. And if the call succeeds, and just those steps succeed that succeed
when they are carried out after it, then both ways end with the same binder and the same trail, and
with the same balances if no account ever holds more than is exact. -/
theorem nested_calls_are_deferred {host : Host} {office : Office} (reached : office.Reached host)
    {operation : Operation} {place : Nat} {steps : List Step} {reentered : Office × Verdict}
    (isReentered : reentered = (Step.call operation (planAt place steps)).enact host office) :
    (∀ inner, office.entrance? host operation place = some inner →
      reentered.2.nested = (enactAll host steps inner).2 ∧
      ∀ pages alone, pages.IsOpen →
        alone = (Step.call operation []).enact host { office with pages } →
          alone.2.succeeds = true →
            inner.binder = alone.1.binder ∧ inner.trail = alone.1.trail) ∧
    (office.entrance? host operation place = none → reentered.2.nested = []) ∧
    ((∀ step ∈ steps, step.isPlain = true) → reentered.2.succeeds = true →
      ∀ deferred, deferred = enactAll host (.call operation [] :: steps) office →
        (reentered.2 :: reentered.2.nested).map (·.succeeds) =
          deferred.2.map (·.succeeds) →
        reentered.1.binder = deferred.1.binder ∧ reentered.1.trail = deferred.1.trail ∧
          (host.restoresLedger = true →
            office.world.StaysSafe host [.call operation (planAt place steps)] →
            office.world.StaysSafe host (.call operation [] :: steps) →
            ∀ asset holder, reentered.1.pages.ledger.balance asset holder =
              deferred.1.pages.ledger.balance asset holder)) := by
  have shows := reached.shows
  have follows := (Step.call operation (planAt place steps)).enact_shows host shows
  generalize isRan : (Step.call operation (planAt place steps)).run host office.world = ran
    at follows
  obtain ⟨starts, missed, ends⟩ := reentry_is_deferred isRan.symm
  rw [← isReentered] at follows
  obtain ⟨isEnd, -, verdict⟩ := follows
  refine ⟨fun inner entrance => ⟨?_, fun pages alone isOpen isAlone returned =>
    shows.entrance_agrees entrance isOpen isAlone returned⟩, fun entrance => ?_, ?_⟩
  · obtain ⟨met, entrance, now⟩ := shows.entrance?_eq_some entrance
    obtain ⟨-, -, verdicts⟩ := enactAll_shows host steps now
    rw [verdict, Report.nested_verdict, (starts met entrance).1, verdicts]
  · rw [verdict, Report.nested_verdict, missed (shows.entrance?_eq_none entrance), verdictsOf]
  · rintro plain returned _ rfl agree
    obtain ⟨isLast, -, verdicts⟩ := enactAll_shows host (.call operation [] :: steps) shows
    rw [verdict, Report.succeeds_verdict] at returned
    rw [verdicts, succeeds_verdictsOf, verdict, Report.nested_verdict, List.map_cons,
      Report.succeeds_verdict, succeeds_verdictsOf] at agree
    obtain ⟨books, trail, balances⟩ := ends plain returned _ rfl agree
    refine ⟨by rw [isEnd.binder, isLast.binder, books], by rw [isEnd.trail, isLast.trail, trail],
      ?_⟩
    intro restores safe safeAfter asset holder
    rw [isEnd.ledger, isLast.ledger, balances restores safe safeAfter]

def Office.sample : Office :=
  .opened (.ofNat 1700000000) (.ofNat 1700000000000) "0" (.ofValues [])

/-- A member is removed. The penalty is about to be paid, and the refund has been, when a cover is
refused, another member contributes and a third one deposits. -/
theorem nested_calls_are_deferred_of_kick :
    let proof := Host.sample.proofOf
    let id := Number.ofNat 1
    let steps : List Step :=
      [.mint "USDC" "a" (.ofNat 110), .mint "USDC" "b" (.ofNat 100), .mint "USDC" "c" (.ofNat 30),
        .call (.createCircle (proof "a") .sample) [], .call (.join (proof "a") id) [],
        .call (.join (proof "b") id) [], .call (.join (proof "c") id) [],
        .call (.contribute (proof "b") id) [], .call (.claimProtocol (proof "a")) [],
        .call (.setProtocolFee (proof "a") (.ofNat 0) (some "t")) []]
    let kick : Operation := .kick (proof "a") id "b" (.ofNat 20)
    let met : List Step :=
      [.call (.coverMember (proof "a") id "c") [], .call (.contribute (proof "a") id) [],
        .call (.deposit (proof "c") "USDC" (.ofNat 30)) []]
    let office := (enactAll Host.sample steps Office.sample).1
    let reentered := (Step.call kick (planAt 1 met)).enact Host.sample office
    let deferred := enactAll Host.sample (.call kick [] :: met) office
    (reentered.2 :: reentered.2.nested).map (·.succeeds) = [true, false, true, true] ∧
      (∃ inner, office.entrance? Host.sample kick 1 = some inner ∧
        inner.pages.ledger.balance "USDC" "b" = 80 ∧ inner.pages.ledger.balance "USDC" "t" = 0 ∧
        inner.binder = ((Step.call kick []).enact Host.sample office).1.binder) ∧
      reentered.1.binder = deferred.1.binder ∧ reentered.1.trail = deferred.1.trail ∧
      ∀ asset holder, reentered.1.pages.ledger.balance asset holder =
        deferred.1.pages.ledger.balance asset holder := by
  intro proof id steps kick met office reentered deferred
  have outcomes : (reentered.2 :: reentered.2.nested).map (·.succeeds) =
      [true, false, true, true] := by
    decide +kernel
  have same : deferred.2.map (·.succeeds) = [true, false, true, true] := by
    decide +kernel
  have balances : (office.entrance? Host.sample kick 1).map (fun inner =>
      (inner.pages.ledger.balance "USDC" "b", inner.pages.ledger.balance "USDC" "t")) =
        some (80, 0) := by
    decide +kernel
  have safe : office.world.StaysSafe Host.sample [.call kick (planAt 1 met)] := by
    decide +kernel
  have safeAfter : office.world.StaysSafe Host.sample (.call kick [] :: met) := by
    decide +kernel
  have alone : ((Step.call kick []).enact Host.sample office).2.succeeds = true := by
    decide +kernel
  have plain : ∀ step ∈ met, step.isPlain = true := by decide
  have reached : office.Reached Host.sample :=
    Office.Reached.enactAll (.opened (.ofNat 1700000000) (.ofNat 1700000000000) "0" (.ofValues []))
      steps
  have isOpen : office.pages.IsOpen := reached.shows.isOpen
  have isReentered : reentered = (Step.call kick (planAt 1 met)).enact Host.sample office := rfl
  have isDeferred : deferred = enactAll Host.sample (.call kick [] :: met) office := rfl
  clear_value deferred reentered office
  obtain ⟨starts, _, ends⟩ := nested_calls_are_deferred reached isReentered
  obtain ⟨inner, entrance, facts⟩ := Option.map_eq_some_iff.1 balances
  simp only [Prod.mk.injEq] at facts
  have binder := ((starts inner entrance).2 office.pages _ isOpen rfl alone).1
  have returned : reentered.2.succeeds = true := (List.cons.inj outcomes).1
  obtain ⟨isBinder, isTrail, isLedger⟩ :=
    ends plain returned deferred isDeferred (outcomes.trans same.symm)
  exact ⟨outcomes, ⟨inner, entrance, facts.1, facts.2, binder⟩, isBinder, isTrail,
    isLedger rfl safe safeAfter⟩

end SavingsCircle
