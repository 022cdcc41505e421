import Mathlib.Algebra.Order.Ring.Nat
import SavingsCircle.Proofs.Circle.Round

/-!
# The announcement of completed cycles

A cycle can end in two ways. A payout after which no turn is waited for is recorded together with
the completion of the cycle and with what the payouts of the cycle come to. The last turn can also
end with a removal, and that is recorded as a removal only; the rollover that follows finds a cycle
which was never announced. So a cycle that is rolled over was announced once or not at all, and the
turns on the trail tell which (`rolled_over_cycles_are_announced_iff`). Only two seats under one
address, which the reserved one can have, let a cycle be completed twice.
-/

namespace SavingsCircle

/-- What a payout comes to before the fee is taken off. -/
def Event.gross : Event → Amount
  | .payoutProcessed _ _ gross _ _ => gross
  | _ => 0

/-- What the payouts among some events come to. -/
def grossOf (events : List Event) : Amount := (events.map Event.gross).sum

def Event.distribute (total : Amount) : Event → Amount
  | .payoutProcessed _ _ gross _ _ => Amount.add total gross
  | _ => total

/-- What the payouts among some events come to when one is added after the other. -/
def distributed (events : List Event) : Amount := events.foldl Event.distribute 0

/-- The completion of the running cycle is on the trail once if a payout closed the cycle and not at
all otherwise, and it tells what the payouts have been added up to. -/
structure Announced (past : List Event) : Prop where
  count : (sinceRollover past).countP Event.isCompletion = (roundOf past).isClosed.toNat
  volume {circle volume} : .cycleCompleted circle volume ∈ sinceRollover past →
    volume = distributed (sinceRollover past)

/-- A cycle that was rolled over has no turn to wait for and is announced accordingly. -/
structure Concluded (past : List Event) : Prop extends Announced past where
  done : (roundOf past).turns.all Turn.isDone = true

def AllConcluded (past : List Event) : Prop :=
  ∀ front rollover, front ++ [rollover] <+: past → rollover.isRollover = true → Concluded front

section

variable {past recent : List Event} {event : Event}

theorem AllConcluded.concat (all : AllConcluded past)
    (concluded : event.isRollover = true → Concluded past) : AllConcluded (past ++ [event]) :=
  forall_concat_prefix all concluded

theorem AllConcluded.append (all : AllConcluded past)
    (running : ∀ event ∈ recent, event.isRollover = false) : AllConcluded (past ++ recent) :=
  forall_concat_prefix_append all fun _ event mem rollover => by
    simp [running event mem] at rollover

theorem distributed_concat (past : List Event) (event : Event) :
    distributed (past ++ [event]) = event.distribute (distributed past) := by
  simp [distributed]

/-- Nothing is rounded while the payouts come to an exact amount. -/
theorem distributed_eq_grossOf (small : grossOf past ≤ Number.maxSafe) :
    distributed past = grossOf past := by
  induction past using List.reverseRecOn with
  | nil => rfl
  | append_singleton past event ih =>
      have total : grossOf (past ++ [event]) = grossOf past + event.gross := by simp [grossOf]
      rw [total] at small ⊢
      rw [distributed_concat, ih (Nat.le_trans (Nat.le_add_right ..) small)]
      cases event with
      | payoutProcessed => exact Amount.add_eq small
      | _ => rfl

theorem distributed_append_still (past : List Event) (still : ∀ event ∈ recent, event.IsStill) :
    distributed (past ++ recent) = distributed past := by
  induction recent using List.reverseRecOn with
  | nil => rw [List.append_nil]
  | append_singleton recent event ih =>
      rw [List.forall_mem_append, List.forall_mem_singleton] at still
      rw [← List.append_assoc, distributed_concat, ih still.1]
      cases event with
      | payoutProcessed => cases still.2.payout
      | _ => rfl

/-- What comes after the announcement of a cycle and before its rollover leaves it alone. -/
theorem Announced.append (announced : Announced past) (still : ∀ event ∈ recent, event.IsStill) :
    Announced (past ++ recent) := by
  have since := sinceRollover_append past fun event mem => (still event mem).rollover
  have none : recent.countP Event.isCompletion = 0 := by
    simpa using fun event mem => (still event mem).completion
  constructor
  · rw [since, List.countP_append, none, isClosed_roundOf_append still, announced.count]
    rfl
  · intro circle volume mem
    rw [since] at mem
    rw [since, distributed_append_still _ still]
    rcases List.mem_append.1 mem with mem | isNew
    · exact announced.volume mem
    · cases (still _ isNew).completion

end

section

variable {past : List Event} {circle : Nat} {recipient : Address} {gross total : Amount}
variable {net : Int} {fee : Amount} {isComplete : Bool}

/-- A payout, with the announcement of the cycle if that is complete. -/
def payoutEvents (circle : Nat) (recipient : Address) (gross : Amount) (net : Int) (fee : Amount)
    (isComplete : Bool) (total : Amount) : List Event :=
  .payoutProcessed circle recipient gross net fee ::
    if isComplete then [.cycleCompleted circle total] else []

theorem roundOf_payout :
    roundOf (past ++ payoutEvents circle recipient gross net fee isComplete total) =
      (roundOf past).after (.payoutProcessed circle recipient gross net fee) := by
  rw [roundOf, List.foldl_append, ← roundOf]
  exact Event.foldl_payout (fun _ => rfl) ..

theorem isRollover_of_mem_payoutEvents :
    ∀ event ∈ payoutEvents circle recipient gross net fee isComplete total,
      event.isRollover = false := by
  cases isComplete
  · exact List.forall_mem_singleton.2 rfl
  · exact List.forall_mem_cons.2 ⟨rfl, List.forall_mem_singleton.2 rfl⟩

theorem sinceRollover_payout :
    sinceRollover (past ++ payoutEvents circle recipient gross net fee isComplete total) =
      sinceRollover past ++ payoutEvents circle recipient gross net fee isComplete total :=
  sinceRollover_append past isRollover_of_mem_payoutEvents

theorem distributed_payout :
    distributed (sinceRollover
      (past ++ payoutEvents circle recipient gross net fee isComplete total)) =
        Amount.add (distributed (sinceRollover past)) gross := by
  rw [sinceRollover_payout, distributed, List.foldl_append, ← distributed]
  exact Event.foldl_payout (fun _ => rfl) ..

/-- A payout in an open cycle is followed by the announcement if it closes the cycle. -/
theorem Announced.payout (announced : Announced past) (isOpen : (roundOf past).isClosed = false)
    (closes : (turnsAfter (roundOf past).turns
      (.payoutProcessed circle recipient gross net fee)).all Turn.isDone = isComplete)
    (tells : total = Amount.add (distributed (sinceRollover past)) gross) :
    Announced (past ++ payoutEvents circle recipient gross net fee isComplete total) := by
  have count := announced.count
  rw [isOpen, Bool.toNat_false] at count
  constructor
  · rw [sinceRollover_payout, roundOf_payout, List.countP_append, count]
    change _ = ((turnsAfter _ _).all Turn.isDone).toNat
    rw [closes]
    cases isComplete <;> rfl
  · intro number volume mem
    rw [distributed_payout]
    rw [sinceRollover_payout, List.mem_append, payoutEvents, List.mem_cons] at mem
    rcases mem with earlier | payout | completion
    · exact absurd rfl (List.countP_eq_zero.1 count _ earlier)
    · cases payout
    · split at completion
      · obtain ⟨rfl, rfl⟩ := Event.cycleCompleted.inj (List.mem_singleton.1 completion)
        exact tells
      · cases completion

end

namespace Circle

/-- The trail tells whose turn is still to come in a circle and which cycles were announced. -/
structure Heralded (circle : Circle) (records : Records) (past : List Event) : Prop where
  announced : Announced past
  earlier : AllConcluded past
  turns : (roundOf past).turns = circle.turns records
  /-- Once a payout has closed the cycle, it stays closed until the rollover. -/
  closed : (roundOf past).isClosed = true →
    (circle.turns records).all Turn.isDone = true ∧ (circle.turns records).any Turn.isPaidOut = true
  /-- Nobody is let in while somebody is paid out. -/
  queued : (circle.turns records).any Turn.isPaidOut = true → circle.payoutQueue ≠ []
  volume : circle.volume = distributed (sinceRollover past)

namespace Heralded

variable {circle next : Circle} {records others : Records} {past recent : List Event}
variable {position : Nat} {seat : Seat}

/-- A call that neither pays out nor rolls over leaves a closed cycle closed. -/
theorem keep (heralded : circle.Heralded records past) (still : ∀ event ∈ recent, event.IsStill)
    (volume : next.volume = circle.volume)
    (turns : next.turns others = recent.foldl turnsAfter (circle.turns records))
    (paid : (next.turns others).any Turn.isPaidOut = (circle.turns records).any Turn.isPaidOut)
    (done : (circle.turns records).any Turn.isPaidOut = true →
      (circle.turns records).all Turn.isDone = true → (next.turns others).all Turn.isDone = true)
    (queued : (circle.turns records).any Turn.isPaidOut = true → circle.payoutQueue ≠ [] →
      next.payoutQueue ≠ []) :
    next.Heralded others (past ++ recent) where
  announced := heralded.announced.append still
  earlier := heralded.earlier.append fun event mem => (still event mem).rollover
  turns := by rw [turns_roundOf_append, heralded.turns, turns]
  closed := by
    rw [isClosed_roundOf_append still, paid]
    intro closed
    obtain ⟨finished, begun⟩ := heralded.closed closed
    exact ⟨done begun finished, begun⟩
  queued := by
    rw [paid]
    exact fun begun => queued begun (heralded.queued begun)
  volume := by
    rw [sinceRollover_append past fun event mem => (still event mem).rollover,
      distributed_append_still _ still, volume, heralded.volume]

/-- A call that has no bearing on the turns. -/
theorem aside (heralded : circle.Heralded records past) (still : ∀ event ∈ recent, event.IsStill)
    (volume : next.volume = circle.volume) (queue : next.payoutQueue = circle.payoutQueue)
    (turns : next.turns others = recent.foldl turnsAfter (circle.turns records))
    (same : recent.foldl turnsAfter (circle.turns records) = circle.turns records) :
    next.Heralded others (past ++ recent) := by
  rw [same] at turns
  refine heralded.keep still volume (turns.trans same.symm) (by rw [turns]) ?_ ?_
  · rw [turns]
    exact fun _ done => done
  · rw [queue]
    exact fun _ queued => queued

/-- An event that changes turns, but lets nobody in and removes nobody who is paid out. -/
theorem turned (heralded : circle.Heralded records past) (still : ∀ event ∈ recent, event.IsStill)
    {event : Event} (isStill : event.IsStill) (noArrival : event.isArrival = false)
    (volume : next.volume = circle.volume)
    (reads : recent.foldl turnsAfter (circle.turns records) =
      turnsAfter (circle.turns records) event)
    (turns : next.turns others = recent.foldl turnsAfter (circle.turns records))
    (unpaid : ∀ number member refund penalty, event = .kicked number member refund penalty →
      ∀ turn ∈ circle.turns records, turn.member = member → turn.isPaidOut = false)
    (queued : (circle.turns records).any Turn.isPaidOut = true → circle.payoutQueue ≠ [] →
      next.payoutQueue ≠ []) :
    next.Heralded others (past ++ recent) := by
  refine heralded.keep still volume turns ?_ (fun _ done => ?_) queued
  · rw [turns, reads, any_isPaidOut_after isStill unpaid]
  · rw [turns, reads]
    exact all_isDone_after isStill.rollover noArrival done

/-- The same for an event that is followed by decisions of the voters. -/
theorem decided (heralded : circle.Heralded records past) {kept : Circle} {voters : Records}
    {event : Event} (isStill : event.IsStill) (noArrival : event.isArrival = false)
    (volume : kept.volume = circle.volume)
    (turns : (kept.settle voters).1.turns others =
      ((kept.settle voters).2 ++ [event]).foldl turnsAfter (circle.turns records))
    (unpaid : ∀ number member refund penalty, event = .kicked number member refund penalty →
      ∀ turn ∈ circle.turns records, turn.member = member → turn.isPaidOut = false)
    (queued : (circle.turns records).any Turn.isPaidOut = true → circle.payoutQueue ≠ [] →
      kept.payoutQueue ≠ []) :
    (kept.settle voters).1.Heralded others (past ++ ((kept.settle voters).2 ++ [event])) := by
  refine heralded.turned (Event.isStill_of_decisions isStill) isStill noArrival ?_
    (turnsAfter_decisions _ _) turns unpaid ?_
  · rw [settle_keeps (·.volume) fun _ _ _ _ _ _ => rfl, volume]
  · rw [payoutQueue_settle]
    exact queued

/-- Decisions of the voters alone. -/
theorem settle (heralded : circle.Heralded records past) {kept : Circle} {voters : Records}
    (volume : kept.volume = circle.volume) (queue : kept.payoutQueue = circle.payoutQueue)
    (turns : (kept.settle voters).1.turns others =
      (kept.settle voters).2.foldl turnsAfter (circle.turns records)) :
    (kept.settle voters).1.Heralded others (past ++ (kept.settle voters).2) := by
  refine heralded.aside (fun event mem => ?_) ?_ ?_ turns ?_
  · exact (isDecision_of_mem_settle _ _ mem).isStill
  · rw [settle_keeps (·.volume) fun _ _ _ _ _ _ => rfl, volume]
  · rw [payoutQueue_settle, queue]
  · rw [← List.append_nil (kept.settle voters).2, turnsAfter_decisions]
    rfl

/-- A cycle in which a member is still to be paid out is not closed. -/
theorem isOpen (heralded : circle.Heralded records past) (mem : seat ∈ circle.seats)
    (active : circle.isEjected records seat.holder = false) (unpaid : seat.isPaidOut = false) :
    (roundOf past).isClosed = false := by
  rw [Bool.eq_false_iff]
  intro closed
  have done := List.all_eq_true.1 (heralded.closed closed).1 _ (List.mem_map_of_mem mem)
  simp [Turn.isDone, active, unpaid] at done

/-- A seat is paid out. -/
theorem paySeat (heralded : circle.Heralded records past)
    (here : circle.seats[position]? = some seat)
    (active : circle.isEjected records seat.holder = false) (unpaid : seat.isPaidOut = false)
    (queued : circle.payoutQueue ≠ []) {net : Int} {fee : Amount} {isComplete : Bool}
    (completes : isComplete = (circle.paySeat position).isCycleComplete records)
    (turns : (circle.paySeat position).turns records = turnsAfter (circle.turns records)
      (.payoutProcessed circle.id seat.holder circle.contribution net fee)) :
    (circle.paySeat position).Heralded records (past ++ payoutEvents circle.id seat.holder
      circle.contribution net fee isComplete (circle.paySeat position).volume) := by
  have mem := List.mem_of_getElem? here
  have isOpen := heralded.isOpen mem active unpaid
  have seated : (circle.paySeat position).seats.isEmpty = false :=
    List.isEmpty_eq_false_iff_exists_mem.2 ⟨_, mem_modify here _⟩
  rw [isCycleComplete_eq, seated, Bool.not_false, Bool.true_and, turns] at completes
  have volume : (circle.paySeat position).volume =
      Amount.add (distributed (sinceRollover past)) circle.contribution := by
    rw [← heralded.volume]
    rfl
  constructor
  · exact heralded.announced.payout isOpen (by rw [heralded.turns, completes]) volume
  · exact heralded.earlier.append isRollover_of_mem_payoutEvents
  · rw [roundOf_payout, turns, ← heralded.turns]
    rfl
  · rw [roundOf_payout]
    change (turnsAfter _ _).all Turn.isDone = true → _
    rw [heralded.turns, ← turns]
    exact fun done =>
      ⟨done, List.any_eq_true.2 ⟨_, List.mem_map_of_mem (mem_modify here _), rfl⟩⟩
  · exact fun _ => queued
  · rw [distributed_payout, volume]

/-- The next cycle begins. -/
theorem rollOver (heralded : circle.Heralded records past)
    (complete : circle.isCycleComplete records = true)
    (turns : circle.rollOver.turns records = turnsAfter (circle.turns records)
      (.groupRollover circle.id circle.rollOver.cycle)) :
    circle.rollOver.Heralded records
      (past ++ [.groupRollover circle.id circle.rollOver.cycle]) := by
  have since : sinceRollover (past ++ [.groupRollover circle.id circle.rollOver.cycle]) = [] :=
    sinceRollover_rollover rfl
  rw [isCycleComplete_eq, Bool.and_eq_true, ← heralded.turns] at complete
  have nobody : (circle.rollOver.turns records).any Turn.isPaidOut = false := by
    rw [turns, turnsAfter, List.any_map]
    simp
  constructor
  · constructor
    · rw [since, roundOf_concat]
      rfl
    · rw [since]
      exact fun mem => absurd mem List.not_mem_nil
  · exact heralded.earlier.concat fun _ => ⟨heralded.announced, complete.2⟩
  · rw [roundOf_concat, turns, ← heralded.turns]
    rfl
  · rw [roundOf_concat]
    exact fun closed => absurd closed Bool.false_ne_true
  · rw [nobody]
    exact fun begun => absurd begun Bool.false_ne_true
  · rw [since]
    rfl

end Heralded

end Circle

section

variable {host : Host} {moment : Moment} {books : Books} {circle : Circle} {caller : Address}
variable {operation : Operation} {change : Change} {past : List Event}

theorem Swapping.heralded {former successor : Address}
    (heralded : circle.Heralded books.records past)
    (turned : change.circle.turns change.records =
      change.events.foldl turnsAfter (circle.turns books.records))
    (swapping : Swapping moment books circle former successor change) :
    change.circle.Heralded change.records (past ++ change.events) := by
  cases swapping with
  | same => exact heralded.aside (List.forall_mem_nil _) rfl rfl turned rfl
  | renamed _ _ _ _ _ isRenamed =>
      subst isRenamed
      have still : (Event.memberSwapped circle.id former successor).IsStill := ⟨rfl, rfl, rfl⟩
      refine heralded.turned (List.forall_mem_singleton.2 still) still rfl rfl rfl turned nofun ?_
      intro _ queued
      simpa [Circle.renameMember, Circle.reindexed] using queued

/-- Every call keeps what the trail tells of whose turn it is and of announcements. -/
theorem Deed.heralded (sound : circle.Sound) (unreserved : Directory.reserved ∉ circle.members)
    (rostered : circle.Rostered books.records) (heralded : circle.Heralded books.records past)
    (named : Directory.reserved ∉ change.circle.members)
    (deed : Deed host moment books circle caller operation change) :
    change.circle.Heralded change.records (past ++ change.events) := by
  have turned := deed.turns sound unreserved rostered named
  cases deed with
  | handOver | finalizeAgain | withdrawNothing =>
      exact heralded.aside (List.forall_mem_nil _) rfl rfl turned rfl
  | swap _ swapping | swapByAdmin swapping => exact swapping.heralded heralded turned
  | requestExit | contribute | withdrawProRata =>
      exact heralded.aside (List.forall_mem_singleton.2 ⟨rfl, rfl, rfl⟩) rfl rfl turned rfl
  | coverMember _ _ _ _ _ isCovered =>
      subst isCovered
      exact heralded.aside (List.forall_mem_singleton.2 ⟨rfl, rfl, rfl⟩) rfl rfl turned rfl
  | finalize _ unqueued =>
      refine heralded.keep (List.forall_mem_singleton.2 ⟨rfl, rfl, rfl⟩) rfl turned rfl
        (fun _ done => done) fun _ queued => absurd unqueued queued
  | join _ _ _ unqueued =>
      refine heralded.keep (List.forall_mem_singleton.2 ⟨rfl, rfl, rfl⟩) rfl turned ?_ ?_
        fun _ queued => queued
      · rw [turned]
        simp [turnsAfter]
      · exact fun begun => absurd unqueued (heralded.queued begun)
  | kick _ _ seated _ unpaid _ _ _ _ isRemoved _ isKept =>
      obtain ⟨here, rfl⟩ := sound.indexed.holder_of_seat? seated
      subst isKept isRemoved
      refine heralded.decided ⟨rfl, rfl, rfl⟩ rfl rfl turned ?_ fun begun queued => ?_
      · rintro _ member _ _ ⟨⟩ turn isTurn isMember
        obtain ⟨other, mem, rfl⟩ := List.mem_map.1 isTurn
        have seated := List.mem_of_getElem? here
        obtain rfl := List.inj_on_of_nodup_map rostered.nodup mem seated isMember
        exact unpaid
      · obtain ⟨turn, isTurn, paidOut⟩ := List.any_eq_true.1 begun
        obtain ⟨other, mem, rfl⟩ := List.mem_map.1 isTurn
        exact rostered.queued_removeSeat here unpaid mem paidOut queued
  | eject =>
      refine heralded.decided ⟨rfl, rfl, rfl⟩ rfl rfl turned ?_ fun _ queued => queued
      rintro _ _ _ _ ⟨⟩
  | fillVacancy _ _ _ _ _ _ _ _ isVacated _ isKept =>
      subst isKept isVacated
      refine heralded.decided ⟨rfl, rfl, rfl⟩ rfl rfl turned ?_ fun _ queued => ?_
      · rintro _ _ _ _ ⟨⟩
      · simpa [Circle.vacateSeat, Circle.reindexed] using queued
  | proposeDissolution | voteDissolution | proposeLateFee | voteLateFee =>
      exact heralded.settle rfl rfl turned
  | processPayout _ queued active unpaid _ _ _ _ isPaid completes =>
      obtain ⟨takesPart, seated⟩ := Circle.seat?_of_activeSeat? active
      obtain ⟨here, rfl⟩ := sound.indexed.holder_of_seat? seated
      subst isPaid
      rw [Event.foldl_payout fun _ => rfl] at turned
      exact heralded.paySeat here takesPart unpaid queued completes turned
  | rollover _ complete => exact heralded.rollOver complete turned

end

/-- What the trail tells of turns and announcements is kept for as long as nobody sits under the
reserved address. -/
theorem circleInvariant_heralded (host : Host) :
    CircleInvariant host (fun circle => Directory.reserved ∉ circle.members)
      fun circle records past =>
        (circle.Sound ∧ Directory.reserved ∉ circle.members ∧ circle.Rostered records) ∧
          circle.Heralded records past where
  congr := by
    rintro circle records others past ⟨seated, heralded⟩ same
    refine ⟨@(circleInvariant_rostered host).congr _ _ _ past seated same, ?_⟩
    have turns : circle.turns others = circle.turns records :=
      Circle.turns_congr rfl fun seat _ => Circle.isEjected_congr rfl (by rw [same])
    rw [← List.append_nil past]
    exact heralded.aside (List.forall_mem_nil _) rfl rfl turns rfl
  founded := by
    intro circle records isNew
    refine ⟨(circleInvariant_rostered host).founded isNew, ?_⟩
    have turns : circle.turns records = [] := by rw [Circle.turns, isNew.seats, List.map_nil]
    constructor
    · exact ⟨rfl, fun mem => absurd mem List.not_mem_nil⟩
    · intro front rollover isPrefix
      simp at isPrefix
    · exact turns.symm
    · exact fun closed => absurd closed Bool.false_ne_true
    · rw [turns]
      exact fun begun => absurd begun Bool.false_ne_true
    · exact isNew.volume
  deed := by
    rintro moment books circle caller operation change past ⟨seated, heralded⟩ deed named
    refine ⟨@(circleInvariant_rostered host).deed _ _ _ _ _ _ past seated deed named, ?_⟩
    exact deed.heralded seated.1 seated.2.1 seated.2.2 heralded named

/-- In every run in which no member goes by the reserved address, each cycle that is rolled over
ends with no turn to wait for. Since the last rollover, or the founding of the circle, it was
announced once if its last payout left no turn to wait for, with what its payouts come to if that
is exact. It was not announced otherwise, and then it saw no payout, or after the last one somebody
was put out or removed. -/
theorem rolled_over_cycles_are_announced_iff {host : Host} {now clock : Number} {nonce : String}
    {draws : Draws} {steps : List Step}
    (unreserved : ∀ passage ∈ runCourse host steps (.opened now clock nonce draws),
      ∀ circle ∈ passage.world.books.circles, Directory.reserved ∉ circle.members) :
    ∀ world, Visits host (.opened now clock nonce draws) steps world →
      ∀ circle ∈ world.books.circles, ∀ front rollover,
        front ++ [rollover] <+: history circle.id world.trail.events →
        rollover.isRollover = true → ∀ cycle, cycle = sinceRollover front →
          (roundOf front).turns.all Turn.isDone = true ∧
          cycle.countP Event.isCompletion = (if (roundOf front).isClosed then 1 else 0) ∧
          (∀ number volume, .cycleCompleted number volume ∈ cycle →
            volume = distributed cycle ∧
              (grossOf cycle ≤ Number.maxSafe → volume = grossOf cycle)) ∧
          ((roundOf front).isClosed = false →
            (∀ event ∈ cycle, event.isPayout = false) ∨
              ∃ before removal later, cycle = before ++ removal :: later ∧
                removal.isRemoval = true ∧ ∀ event ∈ later, event.isPayout = false) := by
  rintro world visits circle mem front rollover isPrefix isRollover cycle rfl
  obtain ⟨_, heralded⟩ := (circleInvariant_heralded host).holds unreserved visits mem
  obtain ⟨⟨count, volume⟩, done⟩ := heralded.earlier front rollover isPrefix isRollover
  refine ⟨done, ?_, fun number total isTold => ?_, fun isOpen => exists_removal isOpen done⟩
  · rw [count]
    cases (roundOf front).isClosed <;> rfl
  · have told := volume isTold
    exact ⟨told, fun small => told.trans (distributed_eq_grossOf small)⟩

/-- Both members are paid out in the first cycle. In the second one only the first member is, and
the other is put out. -/
theorem rolled_over_cycles_are_announced_of_two_cycles :
    let proof := Host.sample.proofOf
    let id := Number.ofNat 1
    let steps : List Step :=
      [.mint "USDC" "a" (.ofNat 200), .mint "USDC" "b" (.ofNat 100),
        .call (.createCircle (proof "a") .sample) [], .call (.join (proof "a") id) [],
        .call (.join (proof "b") id) [], .call (.finalize (proof "a") id) [],
        .call (.contribute (proof "a") id) [], .call (.contribute (proof "b") id) [],
        .call (.processPayout (proof "a") id "b") [], .call (.processPayout (proof "a") id "a") [],
        .call (.rollover (proof "a") id) [], .call (.contribute (proof "a") id) [],
        .call (.processPayout (proof "a") id "a") [], .call (.eject (proof "a") id "b") [],
        .call (.rollover (proof "a") id) []]
    let world := (runAll Host.sample steps World.sample).1
    let past := history 1 world.trail.events
    let first := past.take 8
    let second := past.take 12
    first ++ [.groupRollover 1 2] <+: past ∧ second ++ [.groupRollover 1 3] <+: past ∧
      (sinceRollover first).countP Event.isCompletion = 1 ∧
      (∀ number volume, .cycleCompleted number volume ∈ sinceRollover first → volume = 200) ∧
      (sinceRollover second).countP Event.isCompletion = 0 ∧
      ∃ removal ∈ sinceRollover second, removal.isRemoval = true := by
  intro proof id steps world past first second
  have unreserved : ∀ passage ∈ runCourse Host.sample steps World.sample,
      ∀ circle ∈ passage.world.books.circles, Directory.reserved ∉ circle.members := by
    decide +kernel
  have isCircle : world.books.circles.map (·.id) = [1] := by decide +kernel
  obtain ⟨circle, mem, isOne⟩ : ∃ circle ∈ world.books.circles, circle.id = 1 :=
    List.mem_map.1 (isCircle ▸ List.mem_singleton_self 1)
  have isFirst : first ++ [.groupRollover 1 2] <+: past := by decide +kernel
  have isSecond : second ++ [.groupRollover 1 3] <+: past := by decide +kernel
  have announced := rolled_over_cycles_are_announced_iff unreserved world (.inl rfl) circle mem
  rw [isOne] at announced
  obtain ⟨_, once, volume, _⟩ := announced first _ isFirst rfl _ rfl
  obtain ⟨_, never, _, removed⟩ := announced second _ isSecond rfl _ rfl
  have isClosed : (roundOf first).isClosed = true := by decide +kernel
  have isOpen : (roundOf second).isClosed = false := by decide +kernel
  have small : grossOf (sinceRollover first) = 200 := by decide +kernel
  have begun : ¬∀ event ∈ sinceRollover second, event.isPayout = false := by decide +kernel
  rw [isClosed] at once
  rw [isOpen] at never
  refine ⟨isFirst, isSecond, once, fun number total mem => ?_, never, ?_⟩
  · rw [(volume number total mem).2 (by rw [small]; decide), small]
  · obtain ⟨_, removal, _, parts, isRemoval, _⟩ := (removed isOpen).resolve_left begun
    exact ⟨removal, by simp [parts], isRemoval⟩

def AllAnnouncedOnce (past : List Event) : Prop :=
  ∀ front rollover, front ++ [rollover] <+: past → rollover.isRollover = true →
    (sinceRollover front).countP Event.isCompletion = 1

def AllAnnouncedExactly (past : List Event) : Prop :=
  ∀ front rollover, front ++ [rollover] <+: past → rollover.isRollover = true →
    ∀ number volume, .cycleCompleted number volume ∈ sinceRollover front →
      volume = grossOf (sinceRollover front)

/-- A member who has not been paid is put out. The cycle is complete and can be rolled over, and its
completion is nowhere on the trail. Another cycle is reported complete twice: the reserved address
has two seats there, and only one of them is removed when it is put out and removed. And a cycle in
which the same units go round, from one member to the next, is announced with a volume that is one
short, as the sum of its payouts is odd and too large to be exact. -/
theorem cycles_are_announced_never_twice_and_rounded :
    let proof := Host.sample.proofOf
    let id := Number.ofNat 1
    let never : List Step :=
      [.mint "USDC" "a" (.ofNat 100), .call (.createCircle (proof "a") .sample) [],
        .call (.join (proof "a") id) [], .call (.join (proof "m") id) [],
        .call (.finalize (proof "a") id) [], .call (.contribute (proof "a") id) [],
        .call (.processPayout (proof "a") id "a") [], .call (.eject (proof "a") id "m") [],
        .call (.rollover (proof "a") id) []]
    let twice : List Step :=
      [.mint "USDC" "b" (.ofNat 100), .mint "USDC" Directory.reserved (.ofNat 100),
        .call (.createCircle (proof "a") .sample) [],
        .call (.join (proof Directory.reserved) id) [], .call (.join (proof "m") id) [],
        .call (.join (proof "b") id) [],
        .call (.swapByAdmin (proof "a") id "m" Directory.reserved) [],
        .call (.finalize (proof "a") id) [], .call (.contribute (proof "b") id) [],
        .call (.contribute (proof Directory.reserved) id) [],
        .call (.eject (proof "a") id Directory.reserved) [],
        .call (.processPayout (proof "a") id "b") [],
        .call (.kick (proof "a") id Directory.reserved (.ofNat 100)) [],
        .call (.processPayout (proof "a") id Directory.reserved) [],
        .call (.rollover (proof "a") id) []]
    let largest := Number.ofNat Number.maxSafe
    let rounded : List Step :=
      [.mint "USDC" "a" largest,
        .call (.createCircle (proof "a") { CircleTerms.sample with contribution := largest }) [],
        .call (.join (proof "a") id) [], .call (.join (proof "b") id) [],
        .call (.join (proof "c") id) [], .call (.finalize (proof "a") id) [],
        .call (.contribute (proof "a") id) [], .call (.processPayout (proof "a") id "b") [],
        .call (.contribute (proof "b") id) [], .call (.processPayout (proof "a") id "c") [],
        .call (.contribute (proof "c") id) [], .call (.processPayout (proof "a") id "a") [],
        .call (.rollover (proof "a") id) []]
    let past (steps : List Step) : List Event :=
      history 1 (runAll Host.sample steps World.sample).1.trail.events
    ¬AllAnnouncedOnce (past never) ∧ ¬AllAnnouncedOnce (past twice) ∧
      ¬AllAnnouncedExactly (past rounded) := by
  intro proof id never twice largest rounded past
  refine ⟨?_, ?_, ?_⟩
  · intro announced
    have isLast : (past never).take 6 ++ [.groupRollover 1 2] <+: past never := by decide +kernel
    have once := announced _ _ isLast rfl
    have count : (sinceRollover ((past never).take 6)).countP Event.isCompletion = 0 := by
      decide +kernel
    exact absurd (count.symm.trans once) (by decide)
  · intro announced
    have isLast : (past twice).take 13 ++ [.groupRollover 1 2] <+: past twice := by decide +kernel
    have once := announced _ _ isLast rfl
    have count : (sinceRollover ((past twice).take 13)).countP Event.isCompletion = 2 := by
      decide +kernel
    exact absurd (count.symm.trans once) (by decide)
  · intro announced
    have isLast : (past rounded).take 11 ++ [.groupRollover 1 2] <+: past rounded := by
      decide +kernel
    have told : .cycleCompleted 1 27021597764222972 ∈
        sinceRollover ((past rounded).take 11) := by
      decide +kernel
    have sum : grossOf (sinceRollover ((past rounded).take 11)) = 27021597764222973 := by
      decide +kernel
    have exactly := announced _ _ isLast rfl _ _ told
    exact absurd (exactly.trans sum) (by decide)

end SavingsCircle
