import Mathlib.Data.List.DropRight
import SavingsCircle.Proofs.Circle.Seating
import SavingsCircle.Proofs.Circle.Status
import SavingsCircle.Proofs.Circle.Tally

/-!
# The running cycle of a circle

A circle counts the payouts of the running cycle and adds up what they come to. Both agree with the
seats that are paid out and with the payouts recorded since the last rollover.

A cycle is reported complete by the payout that completes it. No other payout follows before the
rollover: a payout goes to a seat that is not paid out and whose holder takes part, and after the
completion there is none. Nobody who was put out comes back into the seat, a seat that is paid out
is not removed, and nobody joins, because a payout needs the queue and the seats paid out keep their
places in it.
-/

namespace SavingsCircle

namespace Event

def isPayout : Event → Bool
  | .payoutProcessed .. => true
  | _ => false

def isCompletion : Event → Bool
  | .cycleCompleted .. => true
  | _ => false

def isRollover : Event → Bool
  | .groupRollover .. => true
  | _ => false

theorem isRollover_of_isCompletion {event : Event} (isCompletion : event.isCompletion = true) :
    event.isRollover = false := by
  cases event with
  | cycleCompleted => rfl
  | _ => simp [Event.isCompletion] at isCompletion

/-- Whether an event leaves it alone where a circle stands in its cycles. -/
structure IsStill (event : Event) : Prop where
  payout : event.isPayout = false
  completion : event.isCompletion = false
  rollover : event.isRollover = false

theorem IsDecision.isStill {id : Nat} {event : Event} (decision : event.IsDecision id) :
    event.IsStill := by
  cases decision <;> exact ⟨rfl, rfl, rfl⟩

theorem isStill_of_decisions {kept : Circle} {records : Records} {done : Event}
    (still : done.IsStill) : ∀ event ∈ (kept.settle records).2 ++ [done], event.IsStill :=
  kept.forall_mem_decided records (fun _ decision => decision.isStill) still

end Event

def sinceRollover (past : List Event) : List Event := past.rtakeWhile fun event => !event.isRollover

/-- Whether the running cycle was reported complete. -/
def isCompleted (past : List Event) : Bool := (sinceRollover past).any Event.isCompletion

/-- No payout is recorded in a cycle that was reported complete. -/
def IsQuiet (past : List Event) : Prop :=
  ∀ front payout, front ++ [payout] <+: past → payout.isPayout = true → isCompleted front = false

section

variable {past recent : List Event}

theorem sinceRollover_append (past : List Event)
    (running : ∀ event ∈ recent, event.isRollover = false) :
    sinceRollover (past ++ recent) = sinceRollover past ++ recent := by
  induction recent using List.reverseRecOn with
  | nil => simp
  | append_singleton recent event ih =>
      rw [List.forall_mem_append, List.forall_mem_singleton] at running
      rw [← List.append_assoc, sinceRollover,
        List.rtakeWhile_concat_pos _ _ _ (by simp [running.2]), ← sinceRollover, ih running.1,
        List.append_assoc]

theorem sinceRollover_rollover {event : Event} (rollover : event.isRollover = true) :
    sinceRollover (past ++ [event]) = [] :=
  List.rtakeWhile_concat_neg _ _ _ (by simp [rollover])

theorem forall_concat_prefix {P : List Event → Event → Prop} {last : Event}
    (holds : ∀ front event, front ++ [event] <+: past → P front event) (isLast : P past last) :
    ∀ front event, front ++ [event] <+: past ++ [last] → P front event := by
  intro front event isPrefix
  rcases List.prefix_concat_iff.1 isPrefix with whole | earlier
  · obtain ⟨rfl, same⟩ := List.append_inj' whole rfl
    obtain rfl := List.singleton_inj.1 same
    exact isLast
  · exact holds front event earlier

/-- The same for further events of which it holds whatever came before. -/
theorem forall_concat_prefix_append {P : List Event → Event → Prop}
    (holds : ∀ front event, front ++ [event] <+: past → P front event)
    (others : ∀ front, ∀ event ∈ recent, P front event) :
    ∀ front event, front ++ [event] <+: past ++ recent → P front event := by
  induction recent using List.reverseRecOn with
  | nil => simpa using holds
  | append_singleton recent event ih =>
      rw [← List.append_assoc]
      apply forall_concat_prefix
      · exact ih fun front other mem => others front other (List.mem_append_left _ mem)
      · exact others _ event (List.mem_append_right _ (List.mem_singleton_self event))

theorem IsQuiet.concat (quiet : IsQuiet past) {event : Event}
    (allowed : event.isPayout = true → isCompleted past = false) : IsQuiet (past ++ [event]) :=
  forall_concat_prefix quiet allowed

theorem IsQuiet.append (quiet : IsQuiet past)
    (noPayout : ∀ event ∈ recent, event.isPayout = false) : IsQuiet (past ++ recent) :=
  forall_concat_prefix_append quiet fun _ event mem isPayout => by
    simp [noPayout event mem] at isPayout

/-- Between the report that a cycle is complete and a payout there is a rollover. -/
theorem IsQuiet.exists_rollover (quiet : IsQuiet past) {front middle back : List Event}
    {completion payout : Event} (parts : past = front ++ completion :: middle ++ payout :: back)
    (isCompletion : completion.isCompletion = true) (isPayout : payout.isPayout = true) :
    ∃ event ∈ middle, event.isRollover = true := by
  by_contra! running
  have still : ∀ event ∈ completion :: middle, event.isRollover = false :=
    List.forall_mem_cons.2 ⟨Event.isRollover_of_isCompletion isCompletion, fun event mem => by
      simpa using running event mem⟩
  have isPrefix : (front ++ completion :: middle) ++ [payout] <+: past :=
    ⟨back, by rw [parts, List.append_assoc]; rfl⟩
  have completed : isCompleted (front ++ completion :: middle) = true := by
    rw [isCompleted, sinceRollover_append front still, List.any_append, List.any_cons, isCompletion]
    simp
  rw [quiet _ payout isPrefix isPayout] at completed
  simp at completed

end

section

variable {α : Type} {xs : List α} {i : Nat} {x : α} {change : α → α}

theorem countP_eraseIdx (here : xs[i]? = some x) (p : α → Bool) :
    xs.countP p = (xs.eraseIdx i).countP p + if p x then 1 else 0 := by
  rw [(perm_cons_eraseIdx here).countP_eq, List.countP_cons]

theorem countP_modify (here : xs[i]? = some x) (p : α → Bool) :
    (xs.modify i change).countP p = (xs.eraseIdx i).countP p + if p (change x) then 1 else 0 := by
  rw [(modify_perm_cons_eraseIdx here change).countP_eq, List.countP_cons]

end

/-- A seat as the running cycle leaves it. One contribution may be paid in, but not for a member who
takes part and has not contributed; once the cycle is complete the seat is paid out or its holder
put out. -/
structure Seat.Paced (contribution : Amount) (isEjected isCompleted : Bool) (seat : Seat) :
    Prop where
  entry : seat.paidIn = 0 ∨
    seat.paidIn = contribution ∧ (seat.hasContributed = true ∨ isEjected = true)
  done : isCompleted = true → seat.isPaidOut = true ∨ isEjected = true

namespace Seat.Paced

variable {contribution : Amount} {isEjected isCompleted : Bool} {seat : Seat}

theorem mono (paced : seat.Paced contribution isEjected isCompleted) {put : Bool}
    (putOut : isEjected = true → put = true) : seat.Paced contribution put isCompleted where
  entry := paced.entry.imp_right fun ⟨paid, for_⟩ => ⟨paid, for_.imp_right putOut⟩
  done completed := (paced.done completed).imp_right putOut

theorem paidIn_eq_zero (paced : seat.Paced contribution isEjected isCompleted)
    (active : isEjected = false) (idle : seat.hasContributed = false) : seat.paidIn = 0 := by
  refine paced.entry.resolve_right fun ⟨_, reason⟩ => ?_
  simp [active, idle] at reason

/-- In the next cycle only somebody who was put out can have something paid in. -/
theorem rollOver (paced : seat.Paced contribution isEjected isCompleted)
    (done : seat.isPaidOut = true ∨ isEjected = true) (safe : contribution ≤ Number.maxSafe) :
    Seat.Paced contribution isEjected false
      { seat with
        isPaidOut := false
        hasContributed := false
        paidIn := if seat.isPaidOut then Amount.sub seat.paidIn contribution
          else seat.paidIn } where
  entry := by
    cases paidOut : seat.isPaidOut with
    | true =>
        left
        rcases paced.entry with nothing | ⟨whole, _⟩
        · simp [nothing, Amount.sub_eq]
        · simp [whole, Amount.sub_eq safe]
    | false =>
        have out : isEjected = true := done.resolve_left (by simp [paidOut])
        exact paced.entry.imp_right fun ⟨whole, _⟩ => ⟨whole, .inr out⟩
  done := nofun

end Seat.Paced

namespace Circle

/-- What only payouts and rollovers change. -/
def pace (circle : Circle) : Nat × Amount × Nat × Amount × Nat :=
  (circle.id, circle.contribution, circle.payouts, circle.volume, circle.cycle)

/-- The seats, the counters and the history of a circle tell the same about its cycles. -/
structure Paced (circle : Circle) (records : Records) (past : List Event) : Prop where
  seats : ∀ seat ∈ circle.seats, seat.Paced circle.contribution
    (circle.isEjected records seat.holder) (isCompleted past)
  count : circle.payouts = circle.seats.countP (·.isPaidOut)
  recorded : circle.payouts = (sinceRollover past).countP Event.isPayout
  volume : circle.volume = circle.payouts * circle.contribution
  cycle : circle.cycle = 1 + past.countP Event.isRollover
  /-- Somebody is paid out only once there is a queue. -/
  queued : 0 < circle.payouts → circle.payoutQueue ≠ []
  /-- A cycle is completed by a payout. -/
  begun : isCompleted past = true → 0 < circle.payouts
  quiet : IsQuiet past

theorem mem_seats_of_mem_eraseIdx {circle : Circle} {position : Nat} {seat other : Seat}
    (nodup : circle.members.Nodup) (here : circle.seats[position]? = some seat)
    (mem : other ∈ circle.seats.eraseIdx position) :
    other ∈ circle.seats ∧ other.holder ≠ seat.holder := by
  refine ⟨List.mem_of_mem_eraseIdx mem, fun same => ?_⟩
  have others := ((perm_cons_eraseIdx here).map Seat.holder).nodup_iff.1 nodup
  rw [List.map_cons, List.nodup_cons] at others
  exact others.1 (List.mem_map.2 ⟨other, mem, same⟩)

/-- A seat that is paid out keeps its place in the queue when another is removed. -/
theorem Rostered.queued_removeSeat {circle : Circle} {records : Records} {position : Nat}
    {seat other : Seat} (rostered : circle.Rostered records)
    (here : circle.seats[position]? = some seat) (unpaid : seat.isPaidOut = false)
    (mem : other ∈ circle.seats) (paidOut : other.isPaidOut = true)
    (queued : circle.payoutQueue ≠ []) : (circle.removeSeat position).payoutQueue ≠ [] := by
  have remains : other ∈ circle.seats.eraseIdx position := by
    rcases List.mem_cons.1 ((perm_cons_eraseIdx here).mem_iff.1 mem) with rfl | remains
    · simp [unpaid] at paidOut
    · exact remains
  have differ := (mem_seats_of_mem_eraseIdx rostered.nodup here remains).2
  have inQueue : other.holder ∈ circle.payoutQueue :=
    (rostered.queue.resolve_left queued).mem_iff.2 (List.mem_map_of_mem mem)
  apply List.ne_nil_of_mem
  refine List.mem_filter.2 ⟨inQueue, ?_⟩
  simpa [here] using differ

namespace Paced

variable {circle next : Circle} {records others : Records} {past recent : List Event}
variable {position : Nat} {seat : Seat}

/-- A call that neither pays out nor rolls over leaves a circle where it stands in its cycles. -/
theorem keep (paced : circle.Paced records past) (still : ∀ event ∈ recent, event.IsStill)
    (same : next.pace = circle.pace)
    (count : next.seats.countP (·.isPaidOut) = circle.seats.countP (·.isPaidOut))
    (queued : 0 < circle.payouts → circle.payoutQueue ≠ [] → next.payoutQueue ≠ [])
    (seats : ∀ seat ∈ next.seats, seat.Paced circle.contribution
      (circle.isEjected others seat.holder) (isCompleted past)) :
    next.Paced others (past ++ recent) := by
  obtain ⟨id, contribution, payouts, volume, cycle⟩ : next.id = circle.id ∧
      next.contribution = circle.contribution ∧ next.payouts = circle.payouts ∧
      next.volume = circle.volume ∧ next.cycle = circle.cycle := by
    simpa [pace] using same
  have since : sinceRollover (past ++ recent) = sinceRollover past ++ recent :=
    sinceRollover_append past fun event mem => (still event mem).rollover
  have completed : isCompleted (past ++ recent) = isCompleted past := by
    have none : recent.any Event.isCompletion = false := by
      simpa using fun event mem => (still event mem).completion
    rw [isCompleted, since, List.any_append, none, Bool.or_false, isCompleted]
  constructor
  · intro seat mem
    rw [contribution, completed, isEjected_congr id rfl]
    exact seats seat mem
  · rw [payouts, count, paced.count]
  · have none : recent.countP Event.isPayout = 0 := by
      simpa using fun event mem => (still event mem).payout
    rw [payouts, since, List.countP_append, none, paced.recorded, Nat.add_zero]
  · rw [volume, payouts, contribution, paced.volume]
  · have none : recent.countP Event.isRollover = 0 := by
      simpa using fun event mem => (still event mem).rollover
    rw [cycle, List.countP_append, none, paced.cycle, Nat.add_zero]
  · rw [payouts]
    exact fun begun => queued begun (paced.queued begun)
  · rw [completed, payouts]
    exact paced.begun
  · exact paced.quiet.append fun event mem => (still event mem).payout

/-- A seat is changed that stays paid out or unpaid. -/
theorem change (paced : circle.Paced records past) (still : ∀ event ∈ recent, event.IsStill)
    (same : next.pace = circle.pace) (queue : next.payoutQueue = circle.payoutQueue)
    (here : circle.seats[position]? = some seat) {change : Seat → Seat}
    (seats : next.seats = circle.seats.modify position change)
    (paidOut : (change seat).isPaidOut = seat.isPaidOut)
    (all : ∀ other ∈ circle.seats, other.Paced circle.contribution
      (circle.isEjected others other.holder) (isCompleted past))
    (changed : (change seat).Paced circle.contribution
      (circle.isEjected others (change seat).holder) (isCompleted past)) :
    next.Paced others (past ++ recent) := by
  apply paced.keep still same
  · rw [seats, countP_modify here, paidOut, ← countP_eraseIdx here]
  · intro _ queued
    rwa [queue]
  · rw [seats]
    exact forall_mem_modify here all changed

theorem settle (paced : circle.Paced records past) {voters : Records} :
    (circle.settle voters).1.Paced records past := by
  obtain ⟨_, _, _, _, _, settled⟩ := circle.settle_eq voters
  rw [settled]
  exact ⟨paced.seats, paced.count, paced.recorded, paced.volume, paced.cycle, paced.queued,
    paced.begun, paced.quiet⟩

theorem queued_removeSeat (paced : circle.Paced records past) (rostered : circle.Rostered records)
    (here : circle.seats[position]? = some seat) (unpaid : seat.isPaidOut = false)
    (begun : 0 < circle.payouts) (queued : circle.payoutQueue ≠ []) :
    (circle.removeSeat position).payoutQueue ≠ [] := by
  rw [paced.count, List.countP_pos_iff] at begun
  obtain ⟨other, mem, paidOut⟩ := begun
  exact rostered.queued_removeSeat here unpaid mem paidOut queued

theorem isCompleted_eq_false (paced : circle.Paced records past) (mem : seat ∈ circle.seats)
    (active : circle.isEjected records seat.holder = false) (unpaid : seat.isPaidOut = false) :
    isCompleted past = false := by
  rw [Bool.eq_false_iff]
  intro completed
  rcases (paced.seats seat mem).done completed with paidOut | out
  · simp [unpaid] at paidOut
  · simp [active] at out

/-- A seat is paid out. -/
theorem paySeat (paced : circle.Paced records past) (here : circle.seats[position]? = some seat)
    (active : circle.isEjected records seat.holder = false) (unpaid : seat.isPaidOut = false)
    (queued : circle.payoutQueue ≠ []) (safe : (circle.paySeat position).volume ≤ Number.maxSafe)
    (recipient : Address) (net : Int) (fee : Amount) :
    (circle.paySeat position).Paced records
      (past ++ [.payoutProcessed circle.id recipient circle.contribution net fee]) := by
  have running := paced.isCompleted_eq_false (List.mem_of_getElem? here) active unpaid
  have since := sinceRollover_append past (List.forall_mem_singleton.2 (show
    (Event.payoutProcessed circle.id recipient circle.contribution net fee).isRollover = false
      from rfl))
  have still : isCompleted (past ++ [.payoutProcessed circle.id recipient circle.contribution net
      fee]) = false := by
    rw [isCompleted, since, List.any_append, ← isCompleted, running]
    rfl
  constructor
  · rw [still]
    refine forall_mem_modify here (fun other mem => ⟨(paced.seats other mem).entry, nofun⟩) ?_
    exact ⟨(paced.seats seat (List.mem_of_getElem? here)).entry, nofun⟩
  · show circle.payouts + 1 = (circle.seats.modify position _).countP _
    rw [paced.count, countP_modify here, countP_eraseIdx here, unpaid]
    rfl
  · show circle.payouts + 1 = _
    rw [since, List.countP_append, ← paced.recorded]
    rfl
  · show Amount.add circle.volume circle.contribution = (circle.payouts + 1) * circle.contribution
    rw [Amount.add_eq_of_le safe, paced.volume, Nat.succ_mul]
  · rw [List.countP_append]
    exact paced.cycle
  · exact fun _ => queued
  · rw [still]
    nofun
  · exact paced.quiet.concat fun _ => running

/-- A payout that completes the cycle is reported to do so. -/
theorem complete (paced : circle.Paced records past) (begun : 0 < circle.payouts)
    (complete : circle.isCycleComplete records = true) {volume : Amount} :
    circle.Paced records (past ++ [.cycleCompleted circle.id volume]) := by
  have since := sinceRollover_append past (List.forall_mem_singleton.2 (show
    (Event.cycleCompleted circle.id volume).isRollover = false from rfl))
  rw [isCycleComplete, Bool.and_eq_true, List.all_eq_true] at complete
  constructor
  · intro seat mem
    refine ⟨(paced.seats seat mem).entry, fun _ => ?_⟩
    simpa using complete.2 seat mem
  · exact paced.count
  · rw [since, List.countP_append]
    exact paced.recorded
  · exact paced.volume
  · rw [List.countP_append]
    exact paced.cycle
  · exact paced.queued
  · exact fun _ => begun
  · exact paced.quiet.concat nofun

/-- The next cycle begins. A seat that is not paid out has a holder who was put out. -/
theorem rollOver (paced : circle.Paced records past)
    (complete : circle.isCycleComplete records = true)
    (safe : circle.contribution ≤ Number.maxSafe) :
    circle.rollOver.Paced records (past ++ [.groupRollover circle.id circle.rollOver.cycle]) := by
  have since : sinceRollover (past ++ [.groupRollover circle.id circle.rollOver.cycle]) = [] :=
    sinceRollover_rollover rfl
  rw [isCycleComplete, Bool.and_eq_true, List.all_eq_true] at complete
  have renewed :
      isCompleted (past ++ [.groupRollover circle.id circle.rollOver.cycle]) = false := by
    rw [isCompleted, since]
    rfl
  constructor
  · intro seat isSeat
    obtain ⟨seat, mem, rfl⟩ := List.mem_map.1 isSeat
    rw [renewed]
    exact (paced.seats seat mem).rollOver (by simpa using complete.2 seat mem) safe
  · show 0 = (circle.seats.map _).countP _
    rw [List.countP_map, eq_comm, List.countP_eq_zero]
    exact fun _ _ => Bool.false_ne_true
  · rw [since]
    rfl
  · exact (Nat.zero_mul _).symm
  · show circle.cycle + 1 = _
    rw [List.countP_append, paced.cycle, Nat.add_assoc]
    rfl
  · exact fun begun => absurd begun (Nat.lt_irrefl 0)
  · rw [renewed]
    nofun
  · exact paced.quiet.concat nofun

end Paced

end Circle

section

variable {host : Host} {moment : Moment} {books : Books} {circle : Circle} {caller : Address}
variable {operation : Operation} {change : Change} {past : List Event}

theorem Swapping.paced {former successor : Address} (sound : circle.Sound)
    (paced : circle.Paced books.records past)
    (named : Directory.reserved ∉ change.circle.members)
    (swapping : Swapping moment books circle former successor change) :
    change.circle.Paced change.records (past ++ change.events) := by
  cases swapping with
  | same => exact paced.keep nofun rfl rfl (fun _ queued => queued) paced.seats
  | @renamed position _ _ _ _ seated _ absent recorded isRenamed areRecords =>
      subst isRenamed areRecords
      have mem := sound.indexed.mem_of_position? seated
      have isNew := sound.indexed.isNew absent (circle.mem_members_renameMember mem) named
      refine paced.keep (List.forall_mem_singleton.2 ⟨rfl, rfl, rfl⟩) rfl ?_ ?_ ?_
      · show (circle.seats.map _).countP _ = _
        rw [List.countP_map]
        rfl
      · intro _ queued
        simpa [Circle.renameMember, Circle.reindexed] using queued
      · intro seat isSeat
        obtain ⟨seat, mem, rfl⟩ := List.mem_map.1 isSeat
        have apart : seat.holder ≠ successor := fun same => isNew (List.mem_map.2 ⟨seat, mem, same⟩)
        have handed := Circle.statusOf_renameMember position moment.now
          (circle.renameMember former successor).directory recorded apart
        have was := paced.seats seat mem
        rw [Circle.isEjected, ← handed] at was
        exact ⟨was.entry, was.done⟩

/-- Every call keeps what the seats, the counters and the history tell about the cycles. -/
theorem Deed.paced (sound : circle.Sound) (unreserved : Directory.reserved ∉ circle.members)
    (rostered : circle.Rostered books.records) (paced : circle.Paced books.records past)
    (named : Directory.reserved ∉ change.circle.members)
    (safe : change.circle.volume ≤ Number.maxSafe)
    (deed : Deed host moment books circle caller operation change) :
    change.circle.Paced change.records (past ++ change.events) := by
  have stays {seat : Seat} (mem : seat ∈ circle.seats)
      (unmoved : ∀ event ∈ change.events, event.moves seat.holder = false) :
      seat.Paced circle.contribution (circle.isEjected change.records seat.holder)
        (isCompleted past) := by
    have found := sound.indexed.isSome_position? (List.mem_map_of_mem mem) unreserved
    exact (paced.seats seat mem).mono (deed.isEjected found unmoved)
  cases deed with
  | handOver | finalizeAgain | withdrawNothing =>
      exact paced.keep nofun rfl rfl (fun _ queued => queued) fun seat mem => stays mem nofun
  | finalize _ unqueued =>
      refine paced.keep (List.forall_mem_singleton.2 ⟨rfl, rfl, rfl⟩) rfl rfl ?_ ?_
      · exact fun _ queued => absurd unqueued queued
      · exact fun seat mem => stays mem (List.forall_mem_singleton.2 rfl)
  | join _ absent _ unqueued =>
      refine paced.keep (List.forall_mem_singleton.2 ⟨rfl, rfl, rfl⟩) rfl ?_
        (fun _ queued => queued) ?_
      · simp [Circle.addSeat, Seat.fresh]
      · intro seat mem
        rcases List.mem_append.1 mem with mem | isNew
        · exact stays mem (List.forall_mem_singleton.2 rfl)
        · obtain rfl := List.mem_singleton.1 isNew
          -- Nobody was paid out so far, since there is no queue.
          exact ⟨.inl rfl, fun completed => absurd unqueued (paced.queued (paced.begun completed))⟩
  | kick _ _ seated _ unpaid _ _ _ _ isRemoved areRecords isKept =>
      obtain ⟨here, rfl⟩ := sound.indexed.holder_of_seat? seated
      subst isKept isRemoved
      apply Circle.Paced.settle
      refine paced.keep (Event.isStill_of_decisions ⟨rfl, rfl, rfl⟩) rfl ?_ ?_ ?_
      · show (circle.seats.eraseIdx _).countP _ = _
        rw [countP_eraseIdx here, unpaid]
        rfl
      · exact fun begun queued => paced.queued_removeSeat rostered here unpaid begun queued
      · intro seat mem
        obtain ⟨isSeat, differ⟩ := Circle.mem_seats_of_mem_eraseIdx rostered.nodup here mem
        exact stays isSeat (Event.unmoved_of_decisions (Event.moves_kicked.2 differ.symm))
  | swap _ swapping | swapByAdmin swapping => exact swapping.paced sound paced named
  | eject =>
      apply Circle.Paced.settle
      refine paced.keep (Event.isStill_of_decisions ⟨rfl, rfl, rfl⟩) rfl rfl
        (fun _ queued => queued) ?_
      exact fun seat mem => stays mem (Event.unmoved_of_decisions rfl)
  | requestExit =>
      refine paced.keep (List.forall_mem_singleton.2 ⟨rfl, rfl, rfl⟩) rfl rfl
        (fun _ queued => queued) ?_
      exact fun seat mem => stays mem (List.forall_mem_singleton.2 rfl)
  | fillVacancy _ _ seated recorded waiting absent _ _ isVacated areRecords isKept =>
      obtain ⟨here, rfl⟩ := sound.indexed.holder_of_seat? seated
      subst isKept isVacated
      rw [Circle.members_settle] at named
      have isNew := sound.indexed.isNew absent
        (circle.mem_members_vacateSeat (sound.indexed.stands_of_seat? seated)) named
      apply Circle.Paced.settle
      refine paced.keep (Event.isStill_of_decisions ⟨rfl, rfl, rfl⟩) rfl ?_ ?_ ?_
      · show (circle.seats.modify _ _).countP _ = _
        rw [countP_modify here, ← countP_eraseIdx here]
      · intro _ queued
        simpa [Circle.vacateSeat, Circle.reindexed] using queued
      · intro other mem
        rcases List.mem_cons.1 ((modify_perm_cons_eraseIdx here _).mem_iff.1 mem) with rfl | mem
        · refine ⟨.inl rfl, fun completed => .inl ?_⟩
          -- Whoever waits for a replacement takes part, so the seat is paid out.
          refine ((paced.seats _ (List.mem_of_getElem? here)).done completed).resolve_right ?_
          simp [Circle.isEjected_iff, recorded, waiting]
        · obtain ⟨isSeat, differ⟩ := Circle.mem_seats_of_mem_eraseIdx rostered.nodup here mem
          have apart : other.holder ≠ _ := fun same => isNew (List.mem_map.2 ⟨other, isSeat, same⟩)
          exact stays isSeat (Event.unmoved_of_decisions
            (Event.moves_vacancyFilled.2 ⟨differ.symm, apart.symm⟩))
  | @processPayout _ _ _ _ seat fee net _ _ _ queued active unpaid _ _ _ _ isPaid completes =>
      obtain ⟨takesPart, seated⟩ := Circle.seat?_of_activeSeat? active
      obtain ⟨here, rfl⟩ := sound.indexed.holder_of_seat? seated
      subst isPaid completes
      have paid := paced.paySeat here takesPart unpaid queued safe seat.holder net fee
      split
      · next complete =>
        rw [List.append_cons]
        exact paid.complete (Nat.succ_pos _) complete
      · exact paid
  | rollover _ complete => exact paced.rollOver complete sound.safe
  | contribute _ active idle =>
      obtain ⟨takesPart, seated⟩ := Circle.seat?_of_activeSeat? active
      obtain ⟨here, rfl⟩ := sound.indexed.holder_of_seat? seated
      have mem := List.mem_of_getElem? here
      have nothing := (paced.seats _ mem).paidIn_eq_zero takesPart idle
      have all := fun other mem => @stays other mem (List.forall_mem_singleton.2 rfl)
      refine paced.change (List.forall_mem_singleton.2 ⟨rfl, rfl, rfl⟩) rfl rfl here rfl rfl all ?_
      refine ⟨.inr ⟨?_, .inl rfl⟩, (all _ mem).done⟩
      show Amount.add _ _ = _
      rw [nothing, Amount.add_eq (by simpa using sound.safe), Nat.zero_add]
  | coverMember _ active _ idle _ isCovered =>
      obtain ⟨takesPart, seated⟩ := Circle.seat?_of_activeSeat? active
      obtain ⟨here, rfl⟩ := sound.indexed.holder_of_seat? seated
      have mem := List.mem_of_getElem? here
      have nothing := (paced.seats _ mem).paidIn_eq_zero takesPart idle
      have all := fun other mem => @stays other mem (List.forall_mem_singleton.2 rfl)
      subst isCovered
      refine paced.change (List.forall_mem_singleton.2 ⟨rfl, rfl, rfl⟩) rfl rfl here rfl rfl all ?_
      exact ⟨.inl nothing, (all _ mem).done⟩
  | proposeDissolution | voteDissolution | proposeLateFee | voteLateFee =>
      apply Circle.Paced.settle
      refine paced.keep (fun event mem => ?_) rfl rfl (fun _ queued => queued) paced.seats
      exact (Circle.isDecision_of_mem_settle _ _ mem).isStill
  | withdrawProRata _ seated =>
      obtain ⟨here, rfl⟩ := sound.indexed.holder_of_seat? seated
      have all := fun other mem => @stays other mem (List.forall_mem_singleton.2 rfl)
      refine paced.change (List.forall_mem_singleton.2 ⟨rfl, rfl, rfl⟩) rfl rfl here rfl rfl all ?_
      exact ⟨.inl rfl, (all _ (List.mem_of_getElem? here)).done⟩

end

/-- Where circles stand in their cycles is kept for as long as nobody sits under the reserved
address and the volumes are exact. -/
theorem circleInvariant_paced (host : Host) :
    CircleInvariant host
      (fun circle => Directory.reserved ∉ circle.members ∧ circle.volume ≤ Number.maxSafe)
      fun circle records past =>
        (circle.Sound ∧ Directory.reserved ∉ circle.members ∧ circle.Rostered records) ∧
          circle.Paced records past where
  congr := by
    rintro circle records others past ⟨seated, paced⟩ same
    refine ⟨@(circleInvariant_rostered host).congr _ _ _ past seated same, ?_⟩
    have ejected (address : Address) :
        circle.isEjected others address = circle.isEjected records address :=
      Circle.isEjected_congr rfl (by rw [same])
    exact { paced with seats := fun seat mem => ejected seat.holder ▸ paced.seats seat mem }
  founded := by
    intro circle records isNew
    refine ⟨(circleInvariant_rostered host).founded isNew, ?_⟩
    constructor
    · rw [isNew.seats]
      nofun
    · rw [isNew.payouts, isNew.seats]
      rfl
    · rw [isNew.payouts]
      rfl
    · rw [isNew.volume, isNew.payouts, Nat.zero_mul]
    · rw [isNew.cycle]
      rfl
    · intro begun
      rw [isNew.payouts] at begun
      exact absurd begun (Nat.lt_irrefl 0)
    · nofun
    · intro front payout isPrefix
      simp at isPrefix
  deed := by
    rintro moment books circle caller operation change past ⟨seated, paced⟩ deed ⟨named, safe⟩
    refine ⟨@(circleInvariant_rostered host).deed _ _ _ _ _ _ past seated deed named, ?_⟩
    exact deed.paced seated.1 seated.2.1 seated.2.2 paced named safe

/-- In every world of a run in which no member goes by the reserved address and all volumes are
exact, the counters of a circle agree with its seats and with its history since the founding, a seat
has paid in nothing or one contribution, and a completed cycle sees no further payout. -/
theorem cycles_are_accounted_for {host : Host} {now clock : Number} {nonce : String} {draws : Draws}
    {steps : List Step}
    (unreserved : ∀ passage ∈ runCourse host steps (.opened now clock nonce draws),
      ∀ circle ∈ passage.world.books.circles, Directory.reserved ∉ circle.members)
    (safe : ∀ passage ∈ runCourse host steps (.opened now clock nonce draws),
      ∀ circle ∈ passage.world.books.circles, circle.volume ≤ Number.maxSafe) :
    ∀ world, Visits host (.opened now clock nonce draws) steps world →
      ∀ circle ∈ world.books.circles, ∀ past, past = history circle.id world.trail.events →
        circle.payouts = circle.seats.countP (·.isPaidOut) ∧
        circle.payouts = (sinceRollover past).countP Event.isPayout ∧
        circle.payouts ≤ circle.members.length ∧
        circle.volume = circle.payouts * circle.contribution ∧
        circle.cycle = 1 + past.countP Event.isRollover ∧
        (∀ seat ∈ circle.seats,
          (seat.paidIn = 0 ∨ seat.paidIn = circle.contribution) ∧
          (seat.paidIn = circle.contribution → seat.hasContributed = true ∨
            circle.isEjected world.books.records seat.holder = true)) ∧
        ∀ front completion middle payout back,
          past = front ++ completion :: middle ++ payout :: back →
          completion.isCompletion = true → payout.isPayout = true →
          ∃ event ∈ middle, event.isRollover = true := by
  rintro world visits circle mem past rfl
  have fits : ∀ passage ∈ runCourse host steps (.opened now clock nonce draws), AllFit
      (fun circle => Directory.reserved ∉ circle.members ∧ circle.volume ≤ Number.maxSafe)
      passage :=
    fun passage isPassage circle mem =>
      ⟨unreserved passage isPassage circle mem, safe passage isPassage circle mem⟩
  obtain ⟨⟨sound, _⟩, paced⟩ := (circleInvariant_paced host).holds fits visits mem
  refine ⟨paced.count, paced.recorded, ?_, paced.volume, paced.cycle, ?_, ?_⟩
  · rw [paced.count, Circle.members, List.length_map]
    exact List.countP_le_length
  · intro seat isSeat
    have entry := (paced.seats seat isSeat).entry
    refine ⟨entry.imp_right (·.1), fun whole => ?_⟩
    rcases entry with nothing | ⟨_, reason⟩
    · exact absurd (nothing ▸ whole) (Nat.ne_of_lt sound.positive)
    · exact reason
  · intro front completion middle payout back parts isCompletion isPayout
    exact paced.quiet.exists_rollover parts isCompletion isPayout

/-- The second of two members is put out after contributing. The payout to the first completes the
cycle; the next one begins while the payout is on its way and is completed by a payout as well. -/
theorem cycles_are_accounted_for_of_nested_rollover :
    let proof := Host.sample.proofOf
    let id := Number.ofNat 1
    let steps : List Step :=
      [.mint "USDC" "a" (.ofNat 200), .mint "USDC" "b" (.ofNat 100),
        .call (.createCircle (proof "a") .sample) [], .call (.join (proof "a") id) [],
        .call (.join (proof "b") id) [], .call (.finalize (proof "a") id) [],
        .call (.contribute (proof "a") id) [.meets [.call (.contribute (proof "b") id) []] none],
        .call (.eject (proof "a") id "b") [],
        .call (.processPayout (proof "a") id "a")
          [.meets [.call (.rollover (proof "a") id) [], .call (.contribute (proof "a") id) []]
            none],
        .call (.processPayout (proof "a") id "a") []]
    let world := (runAll Host.sample steps World.sample).1
    (∀ passage ∈ runCourse Host.sample steps World.sample,
        ∀ circle ∈ passage.world.books.circles, Directory.reserved ∉ circle.members) ∧
      (∀ passage ∈ runCourse Host.sample steps World.sample,
        ∀ circle ∈ passage.world.books.circles, circle.volume ≤ Number.maxSafe) ∧
      (world.books.circles.map fun circle =>
        (circle.cycle, circle.payouts, circle.seats.map (·.paidIn))) = [(2, 1, [100, 100])] ∧
      ∀ circle ∈ world.books.circles,
        circle.volume = circle.payouts * circle.contribution ∧
        circle.cycle = 1 + (history circle.id world.trail.events).countP Event.isRollover := by
  intro proof id steps world
  have unreserved : ∀ passage ∈ runCourse Host.sample steps World.sample,
      ∀ circle ∈ passage.world.books.circles, Directory.reserved ∉ circle.members := by
    decide +kernel
  have safe : ∀ passage ∈ runCourse Host.sample steps World.sample,
      ∀ circle ∈ passage.world.books.circles, circle.volume ≤ Number.maxSafe := by
    decide +kernel
  refine ⟨unreserved, safe, by decide +kernel, fun circle mem => ?_⟩
  obtain ⟨_, _, _, volume, cycle, _⟩ :=
    cycles_are_accounted_for unreserved safe world (.inl rfl) circle mem _ rfl
  exact ⟨volume, cycle⟩

end SavingsCircle
