import SavingsCircle.Proofs.Circle.Seating
import SavingsCircle.Proofs.Run.Alone

/-!
# The check of a drawn queue

A random queue comes from a shuffler that the host supplies, and nothing but `isPermutation` stands
between what the shuffler gives and the payouts. The check puts both lists in order and compares
them. No two texts share a place in the order, so a list put in order depends only on what it holds
how often (`Text.sorted_eq_of_perm`), and the check lets through exactly the reorderings of the
roster. A finalization that is not refused before it shuffles is therefore decided by what the
shuffler gives (`drawn_queues_are_permutations`).
-/

namespace SavingsCircle

/-- The check is exact. -/
theorem isPermutation_iff_perm {candidate roster : List Address} :
    isPermutation candidate roster = true ↔ candidate.Perm roster := by
  constructor
  · exact perm_of_isPermutation
  · intro permuted
    rw [isPermutation, Text.sorted_eq_of_perm permuted]
    exact beq_self_eq_true _

theorem isPermutation_iff_count {candidate roster : List Address} :
    isPermutation candidate roster = true ↔
      ∀ address, candidate.count address = roster.count address :=
  isPermutation_iff_perm.trans List.perm_iff_count

namespace Circle

def draw (circle : Circle) (records : Records) (queue : List Address) (draws : Draws) : Change where
  circle := { circle with payoutQueue := queue }
  records
  draws
  events := [.queueFinalized circle.id queue]
  transfers := []
  receipt := .settled (.addresses queue)

/-- A circle whose queue is still to be drawn at random: it is open, it has members, and none of
them is queued. -/
structure AwaitsDraw (circle : Circle) : Prop where
  isOpen : circle.isDissolved = false
  isRandom : circle.isRandomQueue = true
  unqueued : circle.payoutQueue = []
  seated : circle.seats ≠ []

end Circle

section

variable {host : Host} {world : World} {circle : Circle} {id : Number} {proof : Option Proof}
variable {moment : Moment} {books : Books} {plan : List Encounter} {queue : List Address}
variable {draws : Draws}

def Failure.unpermuted : Failure :=
  .circle .invalidCircleState "Shuffled queue is not a permutation."

/-- What the administrator's call comes to once a queue is drawn. -/
theorem Books.finalize_of_drawn (found : books.circle id = .ok circle)
    (authorized : host.authorize proof = .ok circle.admin) (awaits : circle.AwaitsDraw)
    (drawn : host.shuffle circle.members moment.draws = (queue, draws)) :
    books.finalize host moment proof id =
      if isPermutation queue circle.members then
        .ok ({ books with lastActiveAt := moment.now }.install
          (circle.draw books.records queue draws))
      else .error .unpermuted := by
  have opened : circle.demandOpen = .ok () := demandOpen_eq_ok.2 awaits.isOpen
  have unqueued : (!circle.payoutQueue.isEmpty) = false := by simp [awaits.unqueued]
  have seated : (!circle.seats.isEmpty) = true := by simp [awaits.seated]
  rw [finalize, byAdmin, found, authorized]
  simp only [bind, Except.bind, pure, Except.pure, demand, opened, unqueued, seated,
    if_pos awaits.isRandom, drawn, if_true, Bool.false_eq_true, if_false]
  by_cases permuted : isPermutation queue circle.members = true
  · simp only [if_pos permuted]
    rfl
  · simp only [if_neg permuted]
    rfl

/-- A queue that is no reordering of the roster is refused, and nothing is written. -/
theorem Step.run_finalize_of_unpermuted (plan : List Encounter)
    (found : world.books.circle id = .ok circle)
    (authorized : host.authorize proof = .ok circle.admin) (awaits : circle.AwaitsDraw)
    (drawn : host.shuffle circle.members world.draws = (queue, draws))
    (unpermuted : ¬isPermutation queue circle.members = true) :
    (Step.call (.finalize proof id) plan).run host world =
      (world.detached, .of (.error .unpermuted) []) := by
  apply Step.run_of_refused
  exact (Books.finalize_of_drawn found authorized awaits drawn).trans (if_neg unpermuted)

/-- A queue that is a reordering of the roster becomes the queue of the circle, if there is a date
to record it under. -/
theorem Step.run_finalize_of_permuted (plan : List Encounter)
    (found : world.books.circle id = .ok circle)
    (authorized : host.authorize proof = .ok circle.admin) (awaits : circle.AwaitsDraw)
    (drawn : host.shuffle circle.members world.draws = (queue, draws))
    (permuted : isPermutation queue circle.members = true) :
    let ran := (Step.call (.finalize proof id) plan).run host world
    (world.stamp?.isSome = true ∧ ran.2.outcome = .ok (.addresses queue) ∧
        ran.1.books.circle id = .ok { circle with payoutQueue := queue }) ∨
      (world.stamp?.isSome = false ∧ ran.2.outcome = .error .undated) := by
  obtain ⟨effect, performed, isEffect⟩ :
      ∃ effect, (Operation.finalize proof id).perform host world.moment world.books = .ok effect ∧
        effect = { world.books with lastActiveAt := world.moment.now }.install
          (circle.draw world.books.records queue draws) :=
    ⟨_, (Books.finalize_of_drawn found authorized awaits drawn).trans (if_pos permuted), rfl⟩
  have receipt : effect.receipt = .settled (.addresses queue) := by rw [isEffect]; rfl
  have nothing : effect.transfers = [] := by rw [isEffect]; rfl
  cases dated : world.stamp? with
  | some stamp =>
      left
      obtain ⟨written, committed⟩ := World.exists_commit effect fun _ => by rw [dated]; rfl
      have answered : (settle host [] effect.transfers written).world.answer = .addresses queue :=
        settle_answer committed receipt
      rw [nothing] at answered
      change written.answer = _ at answered
      rw [Step.run_of_no_transfers performed committed nothing, answered]
      refine ⟨rfl, rfl, ?_⟩
      change written.books.circle id = _
      rw [World.books_commit committed, isEffect]
      exact Books.circle_replaceCircle found rfl
  | none =>
      right
      have undated : world.commit effect = .error .undated := by
        rw [World.commit, World.recorded?, dated, isEffect]
        rfl
      rw [Step.run_of_unrecorded performed undated]
      exact ⟨rfl, rfl⟩

end

/-- The check lets through exactly the lists that hold every address as often as the roster does. So
the administrator's finalization of an open circle with members whose queue is to be drawn at random
is refused for its queue exactly if the shuffler's output is no reordering of the roster, and it
succeeds exactly if it is one, while the clock shows a date. The output is then the queue, and
otherwise the circle is left as it was, with an empty queue. -/
theorem drawn_queues_are_permutations :
    (∀ candidate roster : List Address, isPermutation candidate roster = true ↔
      ∀ address, candidate.count address = roster.count address) ∧
    ∀ (host : Host) (world : World) (id : Number) (circle : Circle) (proof : Option Proof)
      (plan : List Encounter), world.books.circle id = .ok circle →
      host.authorize proof = .ok circle.admin → circle.AwaitsDraw →
      let drawn := (host.shuffle circle.members world.draws).1
      let permutes := ∀ address, drawn.count address = circle.members.count address
      let ran := (Step.call (.finalize proof id) plan).run host world
      (ran.2.outcome = .error .unpermuted ↔ ¬permutes) ∧
      ((∃ answer, ran.2.outcome = .ok answer) ↔ permutes ∧ world.stamp?.isSome = true) ∧
      (∀ answer, ran.2.outcome = .ok answer → answer = .addresses drawn ∧
        ran.1.books.circle id = .ok { circle with payoutQueue := drawn }) ∧
      ∀ failure, ran.2.outcome = .error failure →
        ran.1.books.circle id = .ok circle ∧ circle.payoutQueue = [] := by
  refine ⟨fun _ _ => isPermutation_iff_count, ?_⟩
  intro host world id circle proof plan found authorized awaits drawn permutes ran
  have kept : ∀ failure, ran.2.outcome = .error failure →
      ran.1.books.circle id = .ok circle ∧ circle.payoutQueue = [] := by
    intro failure failed
    exact ⟨(congrArg (·.circle id) (Step.books_of_run_eq_error failed)).trans found,
      awaits.unqueued⟩
  by_cases permuted : isPermutation drawn circle.members = true
  · have holds : permutes := isPermutation_iff_count.1 permuted
    have outcome :=
      Step.run_finalize_of_permuted plan found authorized awaits rfl permuted
    change (_ ∧ ran.2.outcome = _ ∧ ran.1.books.circle id = _) ∨ _ ∧ ran.2.outcome = _ at outcome
    rcases outcome with ⟨dated, outcome, isDrawn⟩ | ⟨undated, outcome⟩
    · refine ⟨by simp [outcome, holds], by simp [outcome, holds, dated], ?_, kept⟩
      intro answer returned
      exact ⟨Except.ok.inj (returned.symm.trans outcome), isDrawn⟩
    · refine ⟨by simp [outcome, holds, Failure.unpermuted], by simp [outcome, undated], ?_, kept⟩
      intro answer returned
      exact absurd (outcome.symm.trans returned) nofun
  · have fails : ¬permutes := fun holds => permuted (isPermutation_iff_count.2 holds)
    have outcome : ran.2.outcome = .error .unpermuted := congrArg (·.2.outcome)
      (Step.run_finalize_of_unpermuted plan found authorized awaits rfl permuted)
    refine ⟨by simp [outcome, fails], by simp [outcome, fails], ?_, kept⟩
    intro answer returned
    exact absurd (outcome.symm.trans returned) nofun

/-- A shuffler that repeats the first address of a roster in the place of the second is found out,
and the identity is let through. -/
theorem drawn_queues_are_permutations_of_two_shufflers :
    let faulty : Host :=
      { Host.sample with shuffle := fun roster draws => (roster.map fun _ => "a", draws) }
    let proof := Host.sample.proofOf
    let id := Number.ofNat 1
    let steps : List Step :=
      [.call (.createCircle (proof "a") { CircleTerms.sample with isRandomQueue := true }) [],
        .call (.join (proof "a") id) [], .call (.join (proof "b") id) []]
    let world := (runAll Host.sample steps World.sample).1
    let finalize : Step := .call (.finalize (proof "a") id) []
    (finalize.run faulty world).2.outcome = .error .unpermuted ∧
      ∃ answer, (finalize.run Host.sample world).2.outcome = .ok answer := by
  intro faulty proof id steps world finalize
  have isCircle : (world.books.circle id).toOption.map (fun circle =>
      ((circle.admin, circle.members), (circle.isDissolved, circle.isRandomQueue),
        circle.payoutQueue)) = some (("a", ["a", "b"]), (false, true), []) := by
    decide +kernel
  have dated : world.stamp?.isSome = true := by decide +kernel
  clear_value world
  obtain ⟨circle, found, facts⟩ := exists_ok_of_map_toOption isCircle
  simp only [Prod.mk.injEq] at facts
  obtain ⟨⟨admin, members⟩, ⟨isOpen, isRandom⟩, unqueued⟩ := facts
  have awaits : circle.AwaitsDraw := by
    refine ⟨isOpen, isRandom, unqueued, fun nobody => ?_⟩
    simp [Circle.members, nobody] at members
  obtain ⟨refused, -⟩ := drawn_queues_are_permutations.2 faulty world id circle (proof "a") []
    found (by rw [admin]; rfl) awaits
  obtain ⟨-, returned, -⟩ := drawn_queues_are_permutations.2 Host.sample world id circle
    (proof "a") [] found (by rw [admin]; rfl) awaits
  refine ⟨refused.2 fun permutes => ?_, returned.2 ⟨fun _ => rfl, dated⟩⟩
  have counted := permutes "b"
  simp [faulty, members] at counted

end SavingsCircle
