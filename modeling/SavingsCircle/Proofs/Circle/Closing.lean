import SavingsCircle.Proofs.Circle.Cycle
import SavingsCircle.Proofs.Circle.Seating
import SavingsCircle.Proofs.Run.Alone

/-!
# When the roster is closed

Nobody can join a circle, and no queue is drawn for it, while an address is left in its payout
queue. Swaps and filled vacancies rename addresses of the queue, and a removal takes one out of it.
So a finalization closes the roster for as long as somebody is left of those it put in the queue,
or of those who took their places. Once they are all removed the queue is empty, just as it was
before the finalization, and the circle takes members and draws a queue again
(`roster_is_closed_until_queue_is_emptied`).
-/

namespace SavingsCircle

namespace Event

def queueAfter (queue : List Address) : Event → List Address
  | .queueFinalized _ drawn => drawn
  | .kicked _ member _ _ => queue.filter (· != member)
  | .memberSwapped _ former successor | .vacancyFilled _ former successor _ =>
    queue.map (Circle.renamed former successor)
  | _ => queue

/-- Whether an event takes place only while the roster is open. -/
def needsOpenRoster : Event → Bool
  | .memberJoined .. | .queueFinalized .. => true
  | _ => false

/-- Whether an event removes whoever is left in a queue. -/
def emptiesQueue (queue : List Address) : Event → Bool
  | .kicked _ member _ _ => queue.all (· == member)
  | _ => false

theorem queueAfter_of_isDecision {id : Nat} {event : Event} (decision : event.IsDecision id)
    (queue : List Address) : queueAfter queue event = queue := by
  cases decision <;> rfl

/-- A queue that is not empty stays so unless a removal empties it. -/
theorem queueAfter_ne_nil {queue : List Address} {event : Event} (queued : queue ≠ [])
    (drawn : ∀ number other, event = .queueFinalized number other → other ≠ [])
    (kept : event.emptiesQueue queue = false) : queueAfter queue event ≠ [] := by
  cases event with
  | queueFinalized number other => exact drawn number other rfl
  | kicked _ member _ _ =>
      intro empty
      have gone : ∀ address ∈ queue, address = member := by
        simpa [queueAfter, List.filter_eq_nil_iff] using empty
      have all : queue.all (· == member) = true := by simpa using gone
      exact Bool.false_ne_true (kept.symm.trans all)
  | memberSwapped | vacancyFilled =>
      intro empty
      exact queued (List.map_eq_nil_iff.1 empty)
  | _ => exact queued

end Event

def queueOf (past : List Event) : List Address := past.foldl Event.queueAfter []

/-- Whether a removal among some events leaves nobody in the queue. -/
def runsEmpty (queue : List Address) : List Event → Bool
  | [] => false
  | event :: events => event.emptiesQueue queue || runsEmpty (event.queueAfter queue) events

section

variable {past recent : List Event}

theorem queueOf_append (past recent : List Event) :
    queueOf (past ++ recent) = recent.foldl Event.queueAfter (queueOf past) :=
  List.foldl_append

/-- Nobody was let in, and no queue was drawn, while somebody was left in the queue, and every queue
that was drawn had somebody in it. -/
structure KeepsClosed (past : List Event) : Prop where
  gated : ∀ front event, front ++ [event] <+: past → event.needsOpenRoster = true →
    queueOf front = []
  drawn : ∀ number queue, .queueFinalized number queue ∈ past → queue ≠ []

namespace KeepsClosed

theorem append (keeps : KeepsClosed past)
    (others : ∀ event ∈ recent, event.needsOpenRoster = false) : KeepsClosed (past ++ recent) where
  gated := forall_concat_prefix_append keeps.gated fun _ event mem needs => by
    simp [others event mem] at needs
  drawn number queue mem := by
    rcases List.mem_append.1 mem with mem | mem
    · exact keeps.drawn number queue mem
    · exact absurd (others _ mem) (by simp [Event.needsOpenRoster])

theorem concat (keeps : KeepsClosed past) (empty : queueOf past = []) {event : Event}
    (drawn : ∀ number queue, event = .queueFinalized number queue → queue ≠ []) :
    KeepsClosed (past ++ [event]) where
  gated := forall_concat_prefix keeps.gated fun _ => empty
  drawn number queue mem := by
    rcases List.mem_append.1 mem with mem | mem
    · exact keeps.drawn number queue mem
    · exact drawn number queue (List.mem_singleton.1 mem).symm

/-- A queue that nobody empties is not drawn again, and nobody is let in besides it. -/
theorem closed_since (keeps : KeepsClosed (past ++ recent)) (queued : queueOf past ≠ [])
    (kept : runsEmpty (queueOf past) recent = false) :
    (∀ event ∈ recent, event.needsOpenRoster = false) ∧ queueOf (past ++ recent) ≠ [] := by
  induction recent generalizing past with
  | nil => exact ⟨List.forall_mem_nil _, by rwa [List.append_nil]⟩
  | cons event recent ih =>
      rw [runsEmpty, Bool.or_eq_false_iff] at kept
      rw [List.append_cons] at keeps ⊢
      have isNext : queueOf (past ++ [event]) = event.queueAfter (queueOf past) :=
        queueOf_append past [event]
      have isPrefix : past ++ [event] <+: past ++ [event] ++ recent := List.prefix_append _ _
      have still : event.needsOpenRoster = false := by
        by_contra needs
        exact queued (keeps.gated past event isPrefix (by simpa using needs))
      have left : queueOf (past ++ [event]) ≠ [] := by
        rw [isNext]
        refine Event.queueAfter_ne_nil queued ?_ kept.1
        rintro number other rfl
        simp [Event.needsOpenRoster] at still
      obtain ⟨others, last⟩ := ih keeps left (by rw [isNext]; exact kept.2)
      exact ⟨List.forall_mem_cons.2 ⟨still, others⟩, last⟩

end KeepsClosed

end

namespace Circle

/-- The trail tells the queue of a circle, and that its roster was kept closed. -/
structure Closes (circle : Circle) (past : List Event) : Prop where
  told : circle.payoutQueue = queueOf past
  keeps : KeepsClosed past

variable {circle next : Circle} {past recent : List Event}

theorem queue_ne_nil_of_isPermutation {queue : List Address} (seated : circle.seats ≠ [])
    (permuted : isPermutation queue circle.members = true) : queue ≠ [] := by
  rintro rfl
  have nobody : circle.members = [] := (perm_of_isPermutation permuted).symm.eq_nil
  exact seated (List.map_eq_nil_iff.1 nobody)

theorem payoutQueue_removeSeat {position : Nat} {seat : Seat}
    (here : circle.seats[position]? = some seat) :
    (circle.removeSeat position).payoutQueue =
      circle.payoutQueue.filter (· != seat.holder) := by
  simp only [removeSeat, reindexed, here, Option.map_some]
  apply List.filter_congr
  intro address _
  rfl

theorem Closes.settle (closes : circle.Closes past) {records : Records} {done : Event}
    (queue : next.payoutQueue = done.queueAfter circle.payoutQueue)
    (still : done.needsOpenRoster = false) :
    (next.settle records).1.Closes (past ++ ((next.settle records).2 ++ [done])) where
  told := by
    rw [queueOf_append, foldl_settle _ _ _ _ fun _ _ decision =>
      Event.queueAfter_of_isDecision decision _, ← closes.told, payoutQueue_settle, queue]
    rfl
  keeps := closes.keeps.append <| next.forall_mem_decided records
    (fun _ decision => by cases decision <;> rfl) still

theorem Closes.vote (closes : circle.Closes past) (records : Records)
    (queue : next.payoutQueue = circle.payoutQueue) :
    (next.settle records).1.Closes (past ++ (next.settle records).2) where
  told := by
    have settled := next.foldl_settle records (queueOf past) [] fun queue _ decision =>
      Event.queueAfter_of_isDecision decision queue
    rw [List.append_nil, List.foldl_nil] at settled
    rw [queueOf_append, settled, payoutQueue_settle, queue, closes.told]
  keeps := closes.keeps.append fun event mem => by
    cases next.isDecision_of_mem_settle records mem <;> rfl

theorem Closes.append (closes : circle.Closes past)
    (queue : next.payoutQueue = recent.foldl Event.queueAfter circle.payoutQueue)
    (still : ∀ event ∈ recent, event.needsOpenRoster = false) : next.Closes (past ++ recent) where
  told := by rw [queue, closes.told, queueOf_append]
  keeps := closes.keeps.append still

theorem Closes.concat (closes : circle.Closes past) (unqueued : circle.payoutQueue = [])
    {event : Event} (queue : next.payoutQueue = event.queueAfter circle.payoutQueue)
    (drawn : ∀ number other, event = .queueFinalized number other → other ≠ []) :
    next.Closes (past ++ [event]) where
  told := by
    rw [queue, closes.told, queueOf_append]
    rfl
  keeps := closes.keeps.concat (closes.told ▸ unqueued) drawn

end Circle

section

variable {host : Host} {moment : Moment} {books : Books} {circle : Circle} {caller : Address}
variable {operation : Operation} {change : Change} {past : List Event}

theorem Swapping.closes {former successor : Address} (closes : circle.Closes past)
    (swapping : Swapping moment books circle former successor change) :
    change.circle.Closes (past ++ change.events) := by
  cases swapping with
  | same => exact closes.append rfl (List.forall_mem_nil _)
  | renamed _ _ _ _ _ isRenamed =>
      subst isRenamed
      exact closes.append rfl (List.forall_mem_singleton.2 rfl)

/-- Every call keeps the roster closed while somebody is left in the queue. -/
theorem Deed.closes (sound : circle.Sound) (closes : circle.Closes past)
    (deed : Deed host moment books circle caller operation change) :
    change.circle.Closes (past ++ change.events) := by
  cases deed with
  | join _ _ _ unqueued => exact closes.concat unqueued rfl nofun
  | @finalize _ _ queue _ _ unqueued seated _ permuted =>
      refine closes.concat unqueued rfl ?_
      rintro _ _ ⟨⟩
      exact Circle.queue_ne_nil_of_isPermutation seated permuted
  | kick _ _ seated _ _ _ _ _ _ isRemoved _ isKept =>
      obtain ⟨here, rfl⟩ := sound.indexed.holder_of_seat? seated
      subst isKept isRemoved
      exact closes.settle (Circle.payoutQueue_removeSeat here) rfl
  | swap _ swapping | swapByAdmin swapping => exact swapping.closes closes
  | eject => exact closes.settle rfl rfl
  | fillVacancy _ _ _ _ _ _ _ _ isVacated _ isKept =>
      subst isKept isVacated
      exact closes.settle rfl rfl
  | proposeDissolution | voteDissolution | proposeLateFee | voteLateFee =>
      exact closes.vote _ rfl
  | processPayout _ _ _ _ _ _ _ _ isPaid =>
      subst isPaid
      refine closes.append ?_ ?_
      · dsimp only
        rw [Event.foldl_payout fun _ => rfl]
        rfl
      · refine List.forall_mem_cons.2 ⟨rfl, fun event mem => ?_⟩
        split at mem
        · rw [List.mem_singleton.1 mem]
          rfl
        · exact absurd mem List.not_mem_nil
  | coverMember _ _ _ _ _ isCovered =>
      subst isCovered
      exact closes.append rfl (List.forall_mem_singleton.2 rfl)
  | requestExit | contribute | rollover | withdrawProRata =>
      exact closes.append rfl (List.forall_mem_singleton.2 rfl)
  | handOver | finalizeAgain | withdrawNothing => exact closes.append rfl (List.forall_mem_nil _)

end

theorem circleInvariant_closes (host : Host) :
    CircleInvariant host (fun _ => True) fun circle _ past =>
      circle.Sound ∧ circle.Closes past where
  congr holds _ := holds
  founded isNew := by
    refine ⟨isNew.sound, isNew.payoutQueue, ?_, nofun⟩
    intro front event isPrefix
    simp at isPrefix
  deed holds deed _ := ⟨deed.sound holds.1, deed.closes holds.1 holds.2⟩

section

variable {host : Host} {world : World} {circle : Circle} {id : Number} {proof : Option Proof}
variable {plan : List Encounter}

/-- What it takes to join a circle. The payout queue has to be empty, and nothing else depends on
whether the roster was ever closed. -/
theorem join_returns_iff (found : world.books.circle id = .ok circle) :
    (∃ answer, ((Step.call (.join proof id) plan).run host world).2.outcome = .ok answer) ↔
      ∃ member, host.authorize proof = .ok member ∧ circle.isDissolved = false ∧
        circle.position? member = none ∧ circle.seats.length < maxMembers ∧
        circle.payoutQueue = [] ∧ world.stamp?.isSome := by
  constructor
  · rintro ⟨answer, returned⟩
    obtain ⟨effect, written, performed, committed, _⟩ := Step.run_eq_ok returned
    obtain ⟨member, _, _, accepted, deed, rfl⟩ := deed_of_perform rfl found performed
    have dated := World.isSome_stamp?_of_commit committed
    cases deed with
    | join isOpen absent room unqueued =>
        exact ⟨member, accepted, isOpen, absent, room, unqueued, dated (List.cons_ne_nil _ _)⟩
  · rintro ⟨member, accepted, isOpen, absent, room, unqueued, dated⟩
    have performs : ∃ effect,
        (Operation.join proof id).perform host world.moment world.books = .ok effect := by
      simp only [Operation.perform, Books.join, Books.byMember, bind_eq_ok, demandOpen_eq_ok,
        demand_eq_ok, Option.isNone_iff_eq_none, List.isEmpty_iff]
      exact ⟨_, member, accepted, circle, found, _, ⟨(), isOpen, (), absent, (), room, (), unqueued,
        rfl⟩, rfl⟩
    obtain ⟨effect, performed⟩ := performs
    obtain ⟨_, _, _, _, deed, isEffect⟩ := deed_of_perform rfl found performed
    have nothing : effect.transfers = [] := by
      rw [isEffect]
      cases deed
      rfl
    obtain ⟨written, committed⟩ := World.exists_commit effect fun _ => dated
    rw [Step.run_of_no_transfers performed committed nothing]
    exact ⟨written.answer, rfl⟩

/-- A finalization that returns leaves the roster closed. It is not recorded again if the roster was
closed before. -/
theorem finalize_run_eq_ok {answer : Answer} (found : world.books.circle id = .ok circle)
    (sound : circle.Sound) (closes : circle.Closes (history circle.id world.trail.events))
    (returned : ((Step.call (.finalize proof id) plan).run host world).2.outcome = .ok answer) :
    ∃ next closed, next = ((Step.call (.finalize proof id) plan).run host world).1 ∧
      next.books.circle id = .ok closed ∧
      closed.payoutQueue = queueOf (history circle.id next.trail.events) ∧
      closed.payoutQueue ≠ [] ∧
      (circle.payoutQueue ≠ [] → next.trail.events = world.trail.events) := by
  obtain ⟨effect, written, performed, committed, _, -, -⟩ := Step.run_eq_ok returned
  obtain ⟨_, change, _, _, deed, rfl⟩ := deed_of_perform rfl found performed
  have nothing : change.transfers = [] := by cases deed <;> rfl
  have events : written.trail.events = world.trail.events ++ change.events :=
    World.events_commit committed
  rw [Step.run_of_no_transfers performed committed nothing]
  refine ⟨written.taken, change.circle, rfl, ?_, ?_, ?_, ?_⟩
  · change written.books.circle id = _
    rw [World.books_commit committed]
    exact Books.circle_replaceCircle found deed.lasts.id
  · change _ = queueOf (history circle.id written.trail.events)
    rw [events, history_append_own deed.continues]
    exact (deed.closes sound closes).told
  · cases deed with
    | finalizeAgain _ queued => exact queued
    | finalize _ _ seated _ permuted => exact Circle.queue_ne_nil_of_isPermutation seated permuted
  · intro queued
    change written.trail.events = _
    cases deed with
    | finalizeAgain => rw [events, Circle.answering, List.append_nil]
    | finalize _ unqueued => exact absurd unqueued queued

end

/-- In every world of a run the history of a circle tells its payout queue. A finalization of the
circle that returns leaves somebody in the queue, and records nothing if somebody was in it before.
From then on, until a removal leaves nobody in the queue, nobody is let in and no queue is drawn.
Somebody can join exactly while nobody is in the queue, if all else allows it. -/
theorem roster_is_closed_until_queue_is_emptied {host : Host} {now clock : Number}
    {nonce : String} {draws : Draws} {steps : List Step} {world : World} {id : Number}
    {circle : Circle} (visits : Visits host (.opened now clock nonce draws) steps world)
    (found : world.books.circle id = .ok circle) :
    let past := history circle.id world.trail.events
    circle.payoutQueue = queueOf past ∧
    (∀ proof plan answer,
      ((Step.call (.finalize proof id) plan).run host world).2.outcome = .ok answer →
      ∃ next closed, next = ((Step.call (.finalize proof id) plan).run host world).1 ∧
        next.books.circle id = .ok closed ∧
        queueOf (history circle.id next.trail.events) = closed.payoutQueue ∧
        closed.payoutQueue ≠ [] ∧
        (queueOf past ≠ [] → next.trail.events = world.trail.events)) ∧
    (∀ front recent, past = front ++ recent → queueOf front ≠ [] →
      runsEmpty (queueOf front) recent = false →
      (∀ event ∈ recent, event.needsOpenRoster = false) ∧ queueOf past ≠ []) ∧
    ∀ proof plan,
      (∃ answer, ((Step.call (.join proof id) plan).run host world).2.outcome = .ok answer) ↔
        ∃ member, host.authorize proof = .ok member ∧ circle.isDissolved = false ∧
          circle.position? member = none ∧ circle.seats.length < maxMembers ∧
          queueOf past = [] ∧ world.stamp?.isSome := by
  intro past
  obtain ⟨sound, closes⟩ := (circleInvariant_closes host).holds (fun _ _ _ _ => trivial) visits
    (Books.mem_of_circle found)
  refine ⟨closes.told, ?_, ?_, ?_⟩
  · intro proof plan answer returned
    obtain ⟨next, closed, isNext, isClosed, told, queued, again⟩ :=
      finalize_run_eq_ok found sound closes returned
    rw [closes.told] at again
    exact ⟨next, closed, isNext, isClosed, told.symm, queued, again⟩
  · intro front recent parts queued kept
    change history circle.id world.trail.events = _ at parts
    rw [parts] at closes
    change _ ∧ queueOf (history circle.id world.trail.events) ≠ []
    rw [parts]
    exact closes.keeps.closed_since queued kept
  · intro proof plan
    rw [join_returns_iff found, closes.told]

/-- One of two members is removed after the finalization. The other is left in the queue, so nobody
can join. -/
theorem roster_is_closed_after_one_removal :
    let proof := Host.sample.proofOf
    let id := Number.ofNat 1
    let steps : List Step :=
      [.call (.createCircle (proof "a") .sample) [], .call (.join (proof "a") id) [],
        .call (.join (proof "b") id) [], .call (.finalize (proof "a") id) [],
        .call (.kick (proof "a") id "a" (.ofNat 0)) []]
    let world := (runAll Host.sample steps World.sample).1
    ∃ circle, world.books.circle id = .ok circle ∧ circle.payoutQueue = ["b"] ∧
      ∀ proof plan answer,
        ((Step.call (.join proof id) plan).run Host.sample world).2.outcome ≠ .ok answer := by
  intro proof id steps world
  have isCircle : (world.books.circle id).toOption.map (fun circle =>
      (circle.payoutQueue, history circle.id world.trail.events)) =
      some (["b"], [.memberJoined 1 "a", .memberJoined 1 "b", .queueFinalized 1 ["a", "b"]] ++
        [.kicked 1 "a" 0 0]) := by
    decide +kernel
  have visits : Visits Host.sample World.sample steps world := .inl rfl
  clear_value world
  obtain ⟨circle, found, facts⟩ := exists_ok_of_map_toOption isCircle
  obtain ⟨queue, past⟩ := Prod.mk.inj facts
  obtain ⟨_, _, closed, joining⟩ := roster_is_closed_until_queue_is_emptied visits found
  obtain ⟨_, queued⟩ := closed _ _ past (by decide) (by decide)
  refine ⟨circle, found, queue, fun proof plan answer returned => ?_⟩
  obtain ⟨_, _, _, _, _, unqueued, _⟩ := (joining proof plan).1 ⟨answer, returned⟩
  exact queued unqueued

/-- After a queue was drawn nobody was let in and none was drawn again. -/
def ClosedForGood (past : List Event) : Prop :=
  ∀ front number queue back, past = front ++ .queueFinalized number queue :: back →
    ∀ event ∈ back, event.needsOpenRoster = false

/-- The only member is removed after the finalization. Then somebody else joins, and the queue is
finalized a second time. -/
theorem roster_reopens_after_last_removal :
    let proof := Host.sample.proofOf
    let id := Number.ofNat 1
    let steps : List Step :=
      [.call (.createCircle (proof "a") .sample) [], .call (.join (proof "a") id) [],
        .call (.finalize (proof "a") id) [], .call (.kick (proof "a") id "a" (.ofNat 0)) [],
        .call (.join (proof "b") id) [], .call (.finalize (proof "a") id) []]
    let ran := runAll Host.sample steps World.sample
    (∀ report ∈ ran.2, report.outcome.toOption.isSome) ∧
      ¬ClosedForGood (history 1 ran.1.trail.events) := by
  intro proof id steps ran
  have past : history 1 ran.1.trail.events =
      [.memberJoined 1 "a"] ++ .queueFinalized 1 ["a"] ::
        [.kicked 1 "a" 0 0, .memberJoined 1 "b", .queueFinalized 1 ["b"]] := by
    decide +kernel
  refine ⟨by decide +kernel, fun closed => ?_⟩
  have still := closed _ _ _ _ past (.memberJoined 1 "b") (by decide)
  simp [Event.needsOpenRoster] at still

end SavingsCircle
