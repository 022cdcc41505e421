import SavingsCircle.Proofs.Circle.Cycle

/-!
# Circles read off the trail

A reader of the trail who knows nothing but the events of a circle can keep a replica of it: the
seats with the status of each holder, the payout queue, and where the circle stands in its cycles.
`Replica.next` is what the reader does on each event. It finds a seat by its holder and takes all
amounts as they are; that the circle itself goes by positions and rounds its amounts makes no
difference as long as nobody sits twice and amounts are exact. So the reader learns of every change
that a call makes (`Deed.replica`).
-/

namespace SavingsCircle

section

variable {α β : Type} [DecidableEq β] {key : α → β} {xs : List α} {i : Nat} {x : α}

/-- Where no key occurs twice, changing an element by its place or by its key is one. -/
theorem modify_eq_map (nodup : (xs.map key).Nodup) (here : xs[i]? = some x) (change : α → α) :
    xs.modify i change = xs.map fun y => if key y = key x then change y else y := by
  induction xs generalizing i with
  | nil => simp at here
  | cons y xs ih =>
      rw [List.map_cons, List.nodup_cons] at nodup
      cases i with
      | zero =>
          obtain rfl := Option.some.inj here
          have others : ∀ z ∈ xs, (if key z = key y then change z else z) = z := by
            intro z mem
            exact if_neg fun same => nodup.1 (List.mem_map.2 ⟨z, mem, same⟩)
          rw [List.modify_zero_cons, List.map_cons, if_pos rfl, List.map_congr_left others,
            List.map_id']
      | succ i =>
          have apart : key y ≠ key x := fun same =>
            nodup.1 (List.mem_map.2 ⟨x, List.mem_of_getElem? here, same.symm⟩)
          rw [List.modify_succ_cons, List.map_cons, if_neg apart, ih nodup.2 here]

/-- Where no key occurs twice, leaving out an element by its place or by its key is one. -/
theorem eraseIdx_eq_filter (nodup : (xs.map key).Nodup) (here : xs[i]? = some x) :
    xs.eraseIdx i = xs.filter fun y => key y ≠ key x := by
  induction xs generalizing i with
  | nil => simp at here
  | cons y xs ih =>
      rw [List.map_cons, List.nodup_cons] at nodup
      cases i with
      | zero =>
          obtain rfl := Option.some.inj here
          have others : ∀ z ∈ xs, decide (key z ≠ key y) = true := by
            intro z mem
            exact decide_eq_true fun same => nodup.1 (List.mem_map.2 ⟨z, mem, same⟩)
          rw [List.eraseIdx_cons_zero, List.filter_cons_of_neg (by simp),
            List.filter_eq_self.2 others]
      | succ i =>
          have apart : key y ≠ key x := fun same =>
            nodup.1 (List.mem_map.2 ⟨x, List.mem_of_getElem? here, same.symm⟩)
          rw [List.eraseIdx_cons_succ, List.filter_cons_of_pos (by simpa using apart),
            ih nodup.2 here]

end

def Event.isDissolution : Event → Bool
  | .circleDissolved .. => true
  | _ => false

/-- A seat and the status of its holder. -/
structure Place extends Seat where
  status : Status
  deriving DecidableEq

/-- What the trail tells about a circle. -/
@[ext] structure Replica where
  contribution : Amount
  places : List Place
  queue : List Address
  cycle : Nat
  payouts : Nat
  volume : Amount
  isInsuranceUsed : Bool
  isDissolved : Bool
  deriving DecidableEq

namespace Replica

/-- The replica of a circle that has just been founded. -/
def founded (contribution : Amount) : Replica where
  contribution
  places := []
  queue := []
  cycle := 1
  payouts := 0
  volume := 0
  isInsuranceUsed := false
  isDissolved := false

def changePlace (replica : Replica) (member : Address) (change : Place → Place) : Replica :=
  { replica with
    places := replica.places.map fun place =>
      if place.holder = member then change place else place }

/-- What a reader makes of one more event of the circle. -/
def next (replica : Replica) : Event → Replica
  | .memberJoined _ member =>
    { replica with places := replica.places ++ [⟨.fresh member, .active⟩] }
  | .queueFinalized _ queue => { replica with queue }
  | .contributionReceived _ member _ _ _ =>
    replica.changePlace member fun place =>
      { place with hasContributed := true, paidIn := place.paidIn + replica.contribution }
  | .insuranceCoverage _ member _ =>
    { replica.changePlace member fun place => { place with hasContributed := true } with
      isInsuranceUsed := true }
  | .payoutProcessed _ recipient gross _ _ =>
    { replica.changePlace recipient fun place => { place with isPaidOut := true } with
      payouts := replica.payouts + 1
      volume := replica.volume + gross }
  | .groupRollover _ _ =>
    { replica with
      places := replica.places.map fun place =>
        { place with
          isPaidOut := false
          hasContributed := false
          paidIn := if place.isPaidOut then place.paidIn - replica.contribution else place.paidIn }
      cycle := replica.cycle + 1
      payouts := 0
      volume := 0
      isInsuranceUsed := false }
  | .kicked _ member _ _ =>
    { replica with
      places := replica.places.filter fun place => place.holder ≠ member
      queue := replica.queue.filter fun address => address ≠ member }
  | .memberSwapped _ former successor =>
    { replica with
      places := replica.places.map fun place =>
        { place with holder := Circle.renamed former successor place.holder }
      queue := replica.queue.map (Circle.renamed former successor) }
  | .vacancyFilled _ exiting successor _ =>
    { replica.changePlace exiting fun place =>
        { place with
          holder := successor
          hasContributed := false
          paidIn := 0
          status := .active } with
      queue := replica.queue.map (Circle.renamed exiting successor) }
  | .memberEjected _ member =>
    replica.changePlace member fun place => { place with status := .ejected }
  | .exitRequested _ member =>
    replica.changePlace member fun place => { place with status := .awaitingReplacement }
  | .proRataWithdrawn _ member _ =>
    replica.changePlace member fun place => { place with paidIn := 0 }
  | .circleDissolved _ _ => { replica with isDissolved := true }
  | .circleCreated .. | .cycleCompleted .. | .penaltyChanged .. | .protocolFeeUpdated .. => replica

/-- Of the decisions of the voters a reader only takes down a dissolution. -/
theorem foldl_decisions {id : Nat} (replica : Replica) {events : List Event}
    (decisions : ∀ event ∈ events, event.IsDecision id) :
    events.foldl next replica =
      { replica with
        isDissolved := replica.isDissolved || events.any Event.isDissolution } := by
  induction events generalizing replica with
  | nil => simp
  | cons event events ih =>
      rw [List.forall_mem_cons] at decisions
      rw [List.foldl_cons, ih _ decisions.2, List.any_cons]
      cases decisions.1 <;> simp [next, Event.isDissolution]

end Replica

namespace Circle

def places (circle : Circle) (records : Records) : List Place :=
  circle.seats.map fun seat => ⟨seat, circle.statusOf records seat.holder⟩

/-- What the trail should tell about a circle. -/
def replica (circle : Circle) (records : Records) : Replica where
  contribution := circle.contribution
  places := circle.places records
  queue := circle.payoutQueue
  cycle := circle.cycle
  payouts := circle.payouts
  volume := circle.volume
  isInsuranceUsed := circle.isInsuranceUsed
  isDissolved := circle.isDissolved

variable {circle next : Circle} {records others : Records} {member : Address}

/-- One seat is changed, or only the status of its holder. -/
theorem places_change (nodup : circle.members.Nodup) {position : Nat} {seat : Seat}
    (here : circle.seats[position]? = some seat) (change : Seat → Seat)
    {changePlace : Place → Place} (seats : next.seats = circle.seats.modify position change)
    (changed : (⟨change seat, next.statusOf others (change seat).holder⟩ : Place) =
      changePlace ⟨seat, circle.statusOf records seat.holder⟩)
    (same : ∀ other ∈ circle.seats, other.holder ≠ seat.holder →
      next.statusOf others other.holder = circle.statusOf records other.holder) :
    next.places others = (circle.places records).map fun place =>
      if place.holder = seat.holder then changePlace place else place := by
  have holders : (circle.seats.map Seat.holder).Nodup := nodup
  rw [places, seats, modify_eq_map holders here, places, List.map_map, List.map_map]
  apply List.map_congr_left
  intro other mem
  by_cases isSeat : other.holder = seat.holder
  · obtain rfl := List.inj_on_of_nodup_map holders mem (List.mem_of_getElem? here) isSeat
    simpa only [Function.comp, if_true] using changed
  · simp only [Function.comp, if_neg isSeat, same other mem isSeat]

/-- A seat is removed. -/
theorem places_removeSeat (nodup : circle.members.Nodup) {position : Nat} {seat : Seat}
    (here : circle.seats[position]? = some seat)
    (seats : next.seats = circle.seats.eraseIdx position)
    (same : ∀ other ∈ circle.seats, other.holder ≠ seat.holder →
      next.statusOf others other.holder = circle.statusOf records other.holder) :
    next.places others =
      (circle.places records).filter fun place => place.holder ≠ seat.holder := by
  have holders : (circle.seats.map Seat.holder).Nodup := nodup
  rw [places, seats, eraseIdx_eq_filter holders here, places, List.filter_map]
  apply List.map_congr_left
  intro other mem
  obtain ⟨isSeat, differ⟩ := List.mem_filter.1 mem
  rw [same other isSeat (of_decide_eq_true differ)]

theorem settleDissolution_isDissolved (voters : Nat) :
    (circle.settleDissolution voters).1.isDissolved =
      (circle.isDissolved || (circle.settleDissolution voters).2.any Event.isDissolution) := by
  simp only [settleDissolution]
  split
  · simp [Event.isDissolution]
  · simp

theorem settleProposal_isDissolved (voters : Nat) :
    (circle.settleProposal voters).1.isDissolved = circle.isDissolved ∧
      (circle.settleProposal voters).2.any Event.isDissolution = false := by
  simp only [settleProposal]
  split
  · split <;> simp [Event.isDissolution]
  · simp

theorem isDissolved_settle (circle : Circle) (records : Records) :
    (circle.settle records).1.isDissolved =
      (circle.isDissolved || (circle.settle records).2.any Event.isDissolution) := by
  simp only [settle]
  split
  · simp [dropVotes]
  · simp only [List.any_append, settleProposal_isDissolved, settleDissolution_isDissolved,
      Bool.or_false]
    rfl

/-- What the reader makes of the decisions of the voters is what they do to the circle. -/
theorem replica_settle {voters : Records} :
    (circle.settle voters).1.replica records =
      (circle.settle voters).2.foldl Replica.next (circle.replica records) := by
  have decisions : ∀ event ∈ (circle.settle voters).2, event.IsDecision circle.id :=
    fun event mem => circle.isDecision_of_mem_settle voters mem
  obtain ⟨_, _, _, _, _, settled⟩ := circle.settle_eq voters
  have dissolved := circle.isDissolved_settle voters
  rw [settled] at dissolved
  rw [Replica.foldl_decisions _ decisions, settled]
  exact Replica.ext rfl rfl rfl rfl rfl rfl rfl dissolved

/-- A reader can also put what was done first and the decisions of the voters after that. -/
theorem replica_decided {kept : Circle} {done : Event}
    (blind : ∀ (replica : Replica) isDissolved,
      Replica.next { replica with isDissolved } done = { replica.next done with isDissolved })
    (reads : kept.replica others = (circle.replica records).next done) :
    (kept.settle others).1.replica others =
      ((kept.settle others).2 ++ [done]).foldl Replica.next (circle.replica records) := by
  have decisions : ∀ event ∈ (kept.settle others).2, event.IsDecision kept.id :=
    fun event mem => kept.isDecision_of_mem_settle others mem
  have same : ((circle.replica records).next done).isDissolved = circle.isDissolved :=
    congrArg (·.isDissolved) (blind (circle.replica records) circle.isDissolved)
  rw [replica_settle, List.foldl_append, List.foldl_cons, List.foldl_nil,
    Replica.foldl_decisions _ decisions, Replica.foldl_decisions _ decisions, blind, reads, same]
  rfl

end Circle

section

variable {host : Host} {moment : Moment} {books : Books} {circle : Circle} {caller : Address}
variable {operation : Operation} {change : Change} {past : List Event}

theorem Swapping.replica {former successor : Address} (sound : circle.Sound)
    (named : Directory.reserved ∉ change.circle.members)
    (swapping : Swapping moment books circle former successor change) :
    change.circle.replica change.records =
      change.events.foldl Replica.next (circle.replica books.records) := by
  cases swapping with
  | same => rfl
  | @renamed position _ _ _ _ seated _ absent recorded isRenamed areRecords =>
      subst isRenamed areRecords
      have mem := sound.indexed.mem_of_position? seated
      have isNew := sound.indexed.isNew absent (circle.mem_members_renameMember mem) named
      refine Replica.ext rfl ?_ rfl rfl rfl rfl rfl rfl
      show (circle.seats.map _).map _ = (circle.seats.map _).map _
      rw [List.map_map, List.map_map]
      apply List.map_congr_left
      intro seat mem
      have apart : seat.holder ≠ successor := fun same => isNew (List.mem_map.2 ⟨seat, mem, same⟩)
      have handed := Circle.statusOf_renameMember position moment.now
        (circle.renameMember former successor).directory recorded apart
      simp only [Function.comp]
      rw [← handed]

/-- A reader learns of everything that a call does to the seats of a circle, the standing of their
holders, the queue and the cycle. -/
theorem Deed.replica (sound : circle.Sound) (unreserved : Directory.reserved ∉ circle.members)
    (rostered : circle.Rostered books.records) (paced : circle.Paced books.records past)
    (named : Directory.reserved ∉ change.circle.members)
    (safe : change.circle.volume ≤ Number.maxSafe)
    (deed : Deed host moment books circle caller operation change) :
    change.circle.replica change.records =
      change.events.foldl Replica.next (circle.replica books.records) := by
  have stays {seat : Seat} (mem : seat ∈ circle.seats)
      (unconcerned : ∀ event ∈ change.events, event.concerns seat.holder = false) :
      change.circle.statusOf change.records seat.holder =
        circle.statusOf books.records seat.holder := by
    have found := sound.indexed.isSome_position? (List.mem_map_of_mem mem) unreserved
    exact deed.statusOf found unconcerned
  cases deed with
  | handOver | finalizeAgain | withdrawNothing | finalize => rfl
  | join _ absent _ unqueued =>
      refine Replica.ext rfl ?_ rfl rfl rfl rfl rfl rfl
      show (circle.seats ++ [Seat.fresh caller]).map _ = circle.places books.records ++ _
      rw [List.map_append, Circle.places]
      congr 1
      · apply List.map_congr_left
        intro seat mem
        rw [← stays mem (List.forall_mem_singleton.2 rfl)]
      · have active : (circle.addSeat caller).statusOf (books.records.enroll circle.id caller
            circle.seats.length moment.now) caller = .active :=
          (circle.addSeat caller).statusOf_enroll ..
        rw [← active]
        rfl
  | kick _ _ seated _ unpaid _ _ _ _ isRemoved areRecords isKept =>
      obtain ⟨here, rfl⟩ := sound.indexed.holder_of_seat? seated
      apply Circle.replica_decided fun _ _ => rfl
      subst isKept isRemoved
      refine Replica.ext rfl ?_ ?_ rfl rfl rfl rfl rfl
      · refine Circle.places_removeSeat rostered.nodup here rfl fun other mem differ => ?_
        rw [← stays mem (Event.unconcerned_of_decisions ?_), Circle.statusOf_settle]
        simp [Event.concerns, Event.moves, Event.ranks, differ.symm]
      · show circle.payoutQueue.filter _ = circle.payoutQueue.filter _
        apply List.filter_congr
        intro address _
        simp [here, bne, beq_eq_decide]
  | swap _ swapping | swapByAdmin swapping => exact swapping.replica sound named
  | eject _ seated recorded _ areRecords =>
      obtain ⟨position, seat, seated⟩ := sound.indexed.exists_seat? seated
      obtain ⟨here, rfl⟩ := sound.indexed.holder_of_seat? seated
      apply Circle.replica_decided fun _ _ => rfl
      refine Replica.ext rfl ?_ rfl rfl rfl rfl rfl rfl
      refine Circle.places_change rostered.nodup here id (List.modify_id ..).symm ?_ ?_
      · rw [id, areRecords, Circle.statusOf_update recorded]
      · intro other mem differ
        rw [← stays mem (Event.unconcerned_of_decisions ?_), Circle.statusOf_settle]
        simp [Event.concerns, Event.moves, Event.ranks, differ.symm]
  | requestExit _ seated recorded =>
      obtain ⟨position, seat, seated⟩ := sound.indexed.exists_seat? seated
      obtain ⟨here, rfl⟩ := sound.indexed.holder_of_seat? seated
      refine Replica.ext rfl ?_ rfl rfl rfl rfl rfl rfl
      refine Circle.places_change rostered.nodup here id (List.modify_id ..).symm ?_ ?_
      · rw [id, Circle.statusOf_update recorded]
      · intro other mem differ
        refine stays mem (List.forall_mem_singleton.2 ?_)
        simp [Event.concerns, Event.moves, Event.ranks, differ.symm]
  | @fillVacancy _ _ _ _ successor _ _ _ _ _ _ _ _ _ seated _ _ absent _ _ isVacated areRecords
      isKept =>
      have stands := sound.indexed.stands_of_seat? seated
      obtain ⟨here, rfl⟩ := sound.indexed.holder_of_seat? seated
      rw [isKept, isVacated, Circle.members_settle] at named
      have isNew := sound.indexed.isNew absent (circle.mem_members_vacateSeat stands) named
      apply Circle.replica_decided fun _ _ => rfl
      subst isKept isVacated
      refine Replica.ext rfl ?_ rfl rfl rfl rfl rfl rfl
      refine Circle.places_change rostered.nodup here _ rfl ?_ ?_
      · rw [areRecords]
        show (⟨_, circle.statusOf (Records.enroll _ circle.id successor _ _) successor⟩ : Place) = _
        rw [circle.statusOf_enroll]
      · intro other mem differ
        have apart : successor ≠ other.holder := fun same =>
          isNew (List.mem_map.2 ⟨other, mem, same.symm⟩)
        rw [← stays mem (Event.unconcerned_of_decisions ?_), Circle.statusOf_settle]
        simp [Event.concerns, Event.moves, Event.ranks, differ.symm, apart]
  | @processPayout _ _ _ _ seat fee net _ _ _ queued active unpaid _ _ _ _ isPaid completes =>
      obtain ⟨here, rfl⟩ := sound.indexed.holder_of_seat? (Circle.seat?_of_activeSeat? active).2
      rw [Event.foldl_payout fun _ => rfl]
      subst isPaid
      refine Replica.ext rfl ?_ rfl rfl rfl ?_ rfl rfl
      · exact Circle.places_change rostered.nodup here _ rfl rfl fun _ _ _ => rfl
      · exact Amount.add_eq_of_le safe
  | rollover _ complete =>
      refine Replica.ext rfl ?_ rfl rfl rfl rfl rfl rfl
      show (circle.seats.map _).map _ = (circle.seats.map _).map _
      rw [List.map_map, List.map_map]
      apply List.map_congr_left
      intro seat mem
      have small : seat.paidIn ≤ Number.maxSafe := by
        rcases (paced.seats seat mem).entry with nothing | ⟨whole, _⟩
        · rw [nothing]
          exact Nat.zero_le _
        · rw [whole]
          exact sound.safe
      simp only [Function.comp, Amount.sub_eq small]
      rfl
  | @contribute _ _ _ seat _ _ _ _ _ active idle =>
      obtain ⟨takesPart, seated⟩ := Circle.seat?_of_activeSeat? active
      obtain ⟨here, rfl⟩ := sound.indexed.holder_of_seat? seated
      have mem := List.mem_of_getElem? here
      have nothing := (paced.seats _ mem).paidIn_eq_zero takesPart idle
      have exactly : Amount.add seat.paidIn circle.contribution =
          seat.paidIn + circle.contribution :=
        Amount.add_eq (by rw [nothing, Nat.zero_add]; exact sound.safe)
      refine Replica.ext rfl ?_ rfl rfl rfl rfl rfl rfl
      refine Circle.places_change rostered.nodup here _ rfl ?_ fun other mem _ => ?_
      · rw [← stays mem (List.forall_mem_singleton.2 rfl), exactly]
        rfl
      · exact stays mem (List.forall_mem_singleton.2 rfl)
  | coverMember _ active _ idle _ isCovered =>
      obtain ⟨here, rfl⟩ := sound.indexed.holder_of_seat? (Circle.seat?_of_activeSeat? active).2
      subst isCovered
      refine Replica.ext rfl ?_ rfl rfl rfl rfl rfl rfl
      exact Circle.places_change rostered.nodup here _ rfl rfl fun _ _ _ => rfl
  | proposeDissolution | voteDissolution | proposeLateFee | voteLateFee =>
      exact Circle.replica_settle
  | withdrawProRata _ seated =>
      obtain ⟨here, rfl⟩ := sound.indexed.holder_of_seat? seated
      refine Replica.ext rfl ?_ rfl rfl rfl rfl rfl rfl
      exact Circle.places_change rostered.nodup here _ rfl rfl fun _ _ _ => rfl

end

end SavingsCircle
