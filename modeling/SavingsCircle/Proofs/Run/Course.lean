import SavingsCircle.Service.Run

/-!
# The course of a run

`Step.run` tells where a step ends. Its course lists every move on the way, each with the world
right after it: the writing of a call, the transfers that take effect, the return or the undoing of
the call, and all moves of the steps that its transfers meet, at any depth.

The same moves make up a machine. A configuration of it is a world together with the calls in
progress, each of which remembers the world it began in and the transfers it still has to make.
`Step.path` says that the course of a step is a path of this machine that comes back to the calls
in progress it started from. What every single move keeps therefore holds all along a run.
-/

namespace SavingsCircle

/-- One move of a run. -/
inductive Move where
  /-- A call is refused, or what it would record cannot be dated. -/
  | refuse (operation : Operation)
  /-- A call writes the books and the trail. -/
  | write (operation : Operation)
  /-- A transfer of the innermost call in progress takes effect. -/
  | carry (transfer : Transfer)
  /-- The innermost call in progress fails and is undone. -/
  | fail
  /-- The innermost call in progress returns. -/
  | conclude
  /-- A step is done that is no call. -/
  | act (step : Step)

structure Passage where
  move : Move
  world : World

/-- A host for examples, which takes an address and a dot for a token. -/
def Host.sample : Host where
  authority := ⟨fun _ => ""⟩
  custody := "vault"
  defaultCycleDuration := .ofNat 604800
  shuffle members draws := (members, draws)
  restoresLedger := true

def Host.proofOf (host : Host) (address : Address) : Option Proof :=
  some (host.authority.proofOf address)

theorem Host.eq_proofOf_of_authorize {host : Host} {proof : Option Proof} {caller : Address}
    (accepted : host.authorize proof = .ok caller) : proof = host.proofOf caller := by
  rw [authorize, demandSome_bind_eq_ok] at accepted
  obtain ⟨⟨principal, token⟩, rfl, accepted⟩ := accepted
  rw [demand_bind_eq_ok, Authority.verify_eq_true_iff] at accepted
  obtain ⟨issued, ⟨⟩⟩ := accepted
  dsimp only at issued
  rw [proofOf, Authority.proofOf, issued]

def World.sample : World :=
  .opened (.ofNat 1700000000) (.ofNat 1700000000000) "0" (.ofValues [])

def CircleTerms.sample : CircleTerms where
  contribution := .ofNat 100
  asset := some "USDC"
  isRandomQueue := false
  cycleDuration := none
  lateFeeRate := none
  insuranceFeeRate := none

def Step.isCall : Step → Bool
  | .call .. => true
  | _ => false

/-- The move that ends a call whose transfers went so. -/
def Settlement.lastMove (settlement : Settlement) : Move :=
  if settlement.failure.isNone then .conclude else .fail

/-- The transfers that take effect when none of them meets anything. -/
def carryCourse : List Transfer → World → List Passage
  | [], _ => []
  | transfer :: transfers, world =>
    match world.carry transfer with
    | .ok next => ⟨.carry transfer, next⟩ :: carryCourse transfers next
    | .error _ => []

mutual

/-- The moves that a step makes. -/
def Step.course (host : Host) : Step → World → List Passage
  | .call operation plan, world =>
    match operation.perform host world.moment world.books with
    | .error _ => [⟨.refuse operation, world.detached⟩]
    | .ok effect =>
      match world.commit effect with
      | .error _ => [⟨.refuse operation, world.unrecorded effect⟩]
      | .ok written =>
        let settlement := settle host plan effect.transfers written
        ⟨.write operation, written⟩ :: settleCourse host plan effect.transfers written ++
          [⟨settlement.lastMove, (settlement.conclude host world).1⟩]
  | step, world => [⟨.act step, (step.run host world).1⟩]

def runCourse (host : Host) : List Step → World → List Passage
  | [], _ => []
  | step :: steps, world =>
    step.course host world ++ runCourse host steps (step.run host world).1

/-- The moves made while the transfers of a call are carried out. -/
def settleCourse (host : Host) : List Encounter → List Transfer → World → List Passage
  | [], transfers, world => carryCourse transfers world
  | _ :: _, [], _ => []
  | .meets steps fault :: plan, transfer :: transfers, world =>
    runCourse host steps world ++
      match fault with
      | some _ => []
      | none =>
        match (runAll host steps world).1.carry transfer with
        | .ok next => ⟨.carry transfer, next⟩ :: settleCourse host plan transfers next
        | .error _ => []

end

theorem runCourse_append (host : Host) (steps more : List Step) (world : World) :
    runCourse host (steps ++ more) world =
      runCourse host steps world ++ runCourse host more (runAll host steps world).1 := by
  induction steps generalizing world with
  | nil => rfl
  | cons step steps ih => simp [runCourse, runAll, ih]

/-- A call in progress: the world it began in, and the transfers it still has to make. -/
structure Frame where
  start : World
  pending : List Transfer

/-- A world and the calls in progress in it, the innermost first. -/
structure Config where
  frames : List Frame
  world : World

/-- What a single move can do. -/
inductive Advance (host : Host) : Config → Move → Config → Prop where
  | refused {frames world operation failure}
      (refusal : operation.perform host world.moment world.books = .error failure) :
      Advance host ⟨frames, world⟩ (.refuse operation) ⟨frames, world.detached⟩
  | unrecorded {frames world operation effect failure}
      (performed : operation.perform host world.moment world.books = .ok effect)
      (undated : world.commit effect = .error failure) :
      Advance host ⟨frames, world⟩ (.refuse operation) ⟨frames, world.unrecorded effect⟩
  | written {frames world written operation effect}
      (performed : operation.perform host world.moment world.books = .ok effect)
      (committed : world.commit effect = .ok written) :
      Advance host ⟨frames, world⟩ (.write operation)
        ⟨⟨world, effect.transfers⟩ :: frames, written⟩
  | carried {frames start transfers world next transfer}
      (made : world.carry transfer = .ok next) :
      Advance host ⟨⟨start, transfer :: transfers⟩ :: frames, world⟩ (.carry transfer)
        ⟨⟨start, transfers⟩ :: frames, next⟩
  | failed {frames start transfers world} :
      Advance host ⟨⟨start, transfers⟩ :: frames, world⟩ .fail ⟨frames, world.undone host start⟩
  | concluded {frames start world} :
      Advance host ⟨⟨start, []⟩ :: frames, world⟩ .conclude ⟨frames, world.taken⟩
  | acted {frames world step} (noCall : step.isCall = false) :
      Advance host ⟨frames, world⟩ (.act step) ⟨frames, (step.run host world).1⟩

inductive Path (host : Host) : Config → List Passage → Config → Prop where
  | nil {c} : Path host c [] c
  | cons {a b c move rest} (first : Advance host a move b) (others : Path host b rest c) :
      Path host a (⟨move, b.world⟩ :: rest) c

namespace Path

variable {host : Host}

theorem single {a b : Config} {move : Move} (only : Advance host a move b) :
    Path host a [⟨move, b.world⟩] b := .cons only .nil

theorem append {a b c : Config} {front back : List Passage} (first : Path host a front b)
    (second : Path host b back c) : Path host a (front ++ back) c := by
  induction first with
  | nil => exact second
  | cons move _ ih => exact .cons move (ih second)

/-- Every move of a path leads on from the world that the move before it led to. -/
theorem exists_advance {a b : Config} {passages front back : List Passage}
    {first second : Passage} (path : Path host a passages b)
    (parts : passages = front ++ first :: second :: back) :
    ∃ c d, Advance host c second.move d ∧ c.world = first.world ∧ d.world = second.world := by
  induction path generalizing front with
  | nil => simp at parts
  | @cons a c _ _ rest start others ih =>
      cases front with
      | nil =>
          obtain ⟨rfl, rfl⟩ := List.cons.inj parts
          cases others with
          | cons next => exact ⟨c, _, next, rfl, rfl⟩
      | cons _ front => exact ih (List.cons.inj parts).2

end Path

/-- Transfers that meet nothing lead to the end of their settlement. -/
theorem carryCourse_path (host : Host) (start : World) (frames : List Frame)
    (transfers : List Transfer) (world : World) :
    ∃ rest, ((world.carryAll transfers).failure = none → rest = []) ∧
      Path host ⟨⟨start, transfers⟩ :: frames, world⟩ (carryCourse transfers world)
        ⟨⟨start, rest⟩ :: frames, (world.carryAll transfers).world⟩ := by
  induction transfers generalizing world with
  | nil => exact ⟨[], fun _ => rfl, .nil⟩
  | cons transfer transfers ih =>
      simp only [carryCourse, World.carryAll]
      cases made : world.carry transfer with
      | error _ => exact ⟨transfer :: transfers, by simp, .nil⟩
      | ok next =>
          obtain ⟨rest, none, path⟩ := ih next
          exact ⟨rest, none, .cons (.carried made) path⟩

/-- A call in progress that is settled ends with the last move of its settlement. -/
theorem Settlement.advance_conclude {settlement : Settlement} {rest : List Transfer}
    (done : settlement.failure = none → rest = []) (host : Host) (start : World)
    (frames : List Frame) :
    Advance host ⟨⟨start, rest⟩ :: frames, settlement.world⟩ settlement.lastMove
      ⟨frames, (settlement.conclude host start).1⟩ := by
  simp only [lastMove, conclude]
  cases failure : settlement.failure with
  | some _ => exact .failed
  | none =>
      obtain rfl := done failure
      exact .concluded

mutual

/-- The course of a step is a path that comes back to the calls in progress. -/
theorem Step.path (host : Host) (frames : List Frame) :
    ∀ (step : Step) (world : World),
      Path host ⟨frames, world⟩ (step.course host world) ⟨frames, (step.run host world).1⟩
  | .call operation plan, world => by
    simp only [Step.course, Step.run]
    cases performed : operation.perform host world.moment world.books with
    | error _ => exact .single (.refused performed)
    | ok effect =>
        cases committed : world.commit effect with
        | error _ => simpa only [committed] using .single (.unrecorded performed committed)
        | ok written =>
            obtain ⟨rest, done, path⟩ :=
              settleCourse_path host world frames plan effect.transfers written
            simp only [committed]
            exact .cons (.written performed committed)
              (path.append (.single (Settlement.advance_conclude done host world frames)))
  | .query _, _ | .reset, _ | .mint .., _ | .transfer .., _ | .setClock _, _ | .advance _, _
  | .setDating _, _ | .unknown, _ => .single (.acted rfl)

/-- The course of steps is a path that comes back to the calls in progress. -/
theorem runCourse_path (host : Host) (frames : List Frame) :
    ∀ (steps : List Step) (world : World),
      Path host ⟨frames, world⟩ (runCourse host steps world) ⟨frames, (runAll host steps world).1⟩
  | [], _ => .nil
  | step :: steps, world =>
    (Step.path host frames step world).append
      (runCourse_path host frames steps (step.run host world).1)

/-- While the transfers of a call are carried out, the call stays in progress. When all of them
are made none is outstanding. -/
theorem settleCourse_path (host : Host) (start : World) (frames : List Frame) :
    ∀ (plan : List Encounter) (transfers : List Transfer) (world : World),
      ∃ rest, ((settle host plan transfers world).failure = none → rest = []) ∧
        Path host ⟨⟨start, transfers⟩ :: frames, world⟩ (settleCourse host plan transfers world)
          ⟨⟨start, rest⟩ :: frames, (settle host plan transfers world).world⟩
  | [], transfers, world => carryCourse_path host start frames transfers world
  | _ :: _, [], _ => ⟨[], fun _ => rfl, .nil⟩
  | .meets steps fault :: plan, transfer :: transfers, world => by
    have met := runCourse_path host (⟨start, transfer :: transfers⟩ :: frames) steps world
    simp only [settleCourse, settle]
    cases fault with
    | some message => exact ⟨transfer :: transfers, by simp, by simpa using met⟩
    | none =>
        cases made : (runAll host steps world).1.carry transfer with
        | error _ => exact ⟨transfer :: transfers, by simp, by simpa [made] using met⟩
        | ok next =>
            obtain ⟨rest, done, path⟩ := settleCourse_path host start frames plan transfers next
            exact ⟨rest, done, met.append (.cons (.carried made) path)⟩

end

end SavingsCircle
