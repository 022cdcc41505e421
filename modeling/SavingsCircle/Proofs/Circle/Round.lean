import SavingsCircle.Proofs.Circle.Replica

/-!
# Whose turn is still to come

A cycle is over once every seat is paid out or its holder put out. The trail tells which seats are:
who joins has a turn, a payout is a turn taken, and the turns of others move and vanish with their
seats. A reader who keeps these turns alone goes by the names of members and rounds nothing, so what
the reader keeps agrees with the seats whatever the amounts are (`Deed.turns`).
-/

namespace SavingsCircle

/-- How a member stands in the running cycle. -/
structure Turn where
  member : Address
  isPaidOut : Bool
  isEjected : Bool
  deriving DecidableEq

namespace Turn

/-- Whether the cycle waits no more for this turn. -/
def isDone (turn : Turn) : Bool := turn.isPaidOut || turn.isEjected

def change (member : Address) (change : Turn → Turn) (turn : Turn) : Turn :=
  if turn.member = member then change turn else turn

theorem change_same (member : Address) : change member (fun turn => turn) = id := by
  funext turn
  simp [change]

theorem isDone_change {member : Address} {change : Turn → Turn} {turn : Turn}
    (ends : ∀ turn, (change turn).isDone = true) (done : turn.isDone = true) :
    (turn.change member change).isDone = true := by
  rw [Turn.change]
  split
  · exact ends turn
  · exact done

end Turn

/-- The turns after one more event. -/
def turnsAfter (turns : List Turn) : Event → List Turn
  | .memberJoined _ member => turns ++ [⟨member, false, false⟩]
  | .payoutProcessed _ recipient _ _ _ =>
    turns.map (Turn.change recipient fun turn => { turn with isPaidOut := true })
  | .memberEjected _ member =>
    turns.map (Turn.change member fun turn => { turn with isEjected := true })
  | .kicked _ member _ _ => turns.filter fun turn => turn.member ≠ member
  | .memberSwapped _ former successor | .vacancyFilled _ former successor _ =>
    turns.map fun turn => { turn with member := Circle.renamed former successor turn.member }
  | .groupRollover _ _ => turns.map fun turn => { turn with isPaidOut := false }
  | _ => turns

/-- Whether an event ends a turn without a payout: the member is put out or removed. -/
def Event.isRemoval : Event → Bool
  | .memberEjected .. | .kicked .. => true
  | _ => false

def Event.isArrival : Event → Bool
  | .memberJoined .. => true
  | _ => false

/-- The running cycle as the trail tells of it. -/
structure Round where
  turns : List Turn
  /-- Whether the last payout left no turn to wait for. -/
  isClosed : Bool

namespace Round

def after (round : Round) (event : Event) : Round where
  turns := turnsAfter round.turns event
  isClosed := match event with
    | .payoutProcessed .. => (turnsAfter round.turns event).all Turn.isDone
    | .groupRollover .. => false
    | _ => round.isClosed

end Round

def roundOf (past : List Event) : Round := past.foldl Round.after ⟨[], false⟩

section

variable {past recent : List Event} {turns : List Turn} {event : Event}

/-- Nothing but an arrival leaves a turn to wait for where there was none. -/
theorem all_isDone_after (noRollover : event.isRollover = false)
    (noArrival : event.isArrival = false) (done : turns.all Turn.isDone = true) :
    (turnsAfter turns event).all Turn.isDone = true := by
  have every := List.all_eq_true.1 done
  cases event with
  | memberJoined => cases noArrival
  | groupRollover => cases noRollover
  | payoutProcessed =>
      rw [turnsAfter, List.all_map, List.all_eq_true]
      intro turn mem
      exact Turn.isDone_change (fun _ => rfl) (every turn mem)
  | memberEjected =>
      rw [turnsAfter, List.all_map, List.all_eq_true]
      intro turn mem
      exact Turn.isDone_change (fun _ => Bool.or_true _) (every turn mem)
  | kicked =>
      rw [turnsAfter, List.all_eq_true]
      exact fun turn mem => every turn (List.mem_of_mem_filter mem)
  | memberSwapped | vacancyFilled =>
      rw [turnsAfter, List.all_map, List.all_eq_true]
      exact every
  | _ => exact done

/-- Besides a payout nothing but a removal ends the last turn to wait for. -/
theorem all_isDone_of_after (noPayout : event.isPayout = false)
    (noRemoval : event.isRemoval = false) (done : (turnsAfter turns event).all Turn.isDone = true)
    (noRollover : event.isRollover = false) :
    turns.all Turn.isDone = true := by
  cases event with
  | payoutProcessed => cases noPayout
  | groupRollover => cases noRollover
  | memberEjected | kicked => cases noRemoval
  | memberJoined => simp [turnsAfter, Turn.isDone] at done
  | memberSwapped | vacancyFilled =>
      rw [turnsAfter, List.all_map] at done
      exact done
  | _ => exact done

/-- Somebody was paid out before an event if and only if somebody is after it, where nobody is
removed who was. -/
theorem any_isPaidOut_after (still : event.IsStill)
    (unpaid : ∀ circle member refund penalty, event = .kicked circle member refund penalty →
      ∀ turn ∈ turns, turn.member = member → turn.isPaidOut = false) :
    (turnsAfter turns event).any Turn.isPaidOut = turns.any Turn.isPaidOut := by
  cases event with
  | payoutProcessed => cases still.payout
  | groupRollover => cases still.rollover
  | memberJoined => simp [turnsAfter]
  | memberEjected =>
      rw [turnsAfter, List.any_map]
      congr 1
      funext turn
      simp only [Function.comp, Turn.change]
      split <;> rfl
  | kicked =>
      rw [turnsAfter, List.any_filter, Bool.eq_iff_iff, List.any_eq_true, List.any_eq_true]
      refine exists_congr fun turn => and_congr_right fun mem => ?_
      rw [Bool.and_eq_true, and_iff_right_iff_imp, decide_eq_true_eq]
      intro paidOut isMember
      rw [unpaid _ _ _ _ rfl turn mem isMember] at paidOut
      cases paidOut
  | memberSwapped | vacancyFilled =>
      rw [turnsAfter, List.any_map]
      rfl
  | _ => rfl

theorem turns_foldl (events : List Event) (round : Round) :
    (events.foldl Round.after round).turns = events.foldl turnsAfter round.turns := by
  induction events generalizing round with
  | nil => rfl
  | cons event events ih => exact ih _

theorem turns_roundOf_append (past recent : List Event) :
    (roundOf (past ++ recent)).turns = recent.foldl turnsAfter (roundOf past).turns := by
  rw [roundOf, List.foldl_append, turns_foldl, ← roundOf]

theorem roundOf_concat (past : List Event) (event : Event) :
    roundOf (past ++ [event]) = (roundOf past).after event := by
  simp [roundOf]

theorem isClosed_after (noPayout : event.isPayout = false) (noRollover : event.isRollover = false)
    (round : Round) : (round.after event).isClosed = round.isClosed := by
  cases event with
  | payoutProcessed => cases noPayout
  | groupRollover => cases noRollover
  | _ => rfl

theorem isClosed_roundOf_append (still : ∀ event ∈ recent, event.IsStill) :
    (roundOf (past ++ recent)).isClosed = (roundOf past).isClosed := by
  induction recent using List.reverseRecOn with
  | nil => rw [List.append_nil]
  | append_singleton recent event ih =>
      rw [List.forall_mem_append, List.forall_mem_singleton] at still
      rw [← List.append_assoc, roundOf_concat, isClosed_after still.2.payout still.2.rollover,
        ih still.1]

/-- A cycle that is over although no payout closed it saw no payout, or after the last one somebody
was put out or removed. -/
theorem exists_removal (isOpen : (roundOf past).isClosed = false)
    (done : (roundOf past).turns.all Turn.isDone = true) :
    (∀ event ∈ sinceRollover past, event.isPayout = false) ∨
      ∃ before removal later, sinceRollover past = before ++ removal :: later ∧
        removal.isRemoval = true ∧ ∀ event ∈ later, event.isPayout = false := by
  induction past using List.reverseRecOn with
  | nil => exact .inl nofun
  | append_singleton past event ih =>
      by_cases rollover : event.isRollover = true
      · rw [sinceRollover_rollover rollover]
        exact .inl nofun
      rw [Bool.not_eq_true] at rollover
      rw [sinceRollover_append past (List.forall_mem_singleton.2 rollover)]
      have turned : (roundOf (past ++ [event])).turns = turnsAfter (roundOf past).turns event :=
        turns_roundOf_append past [event]
      rw [turned] at done
      have noPayout : event.isPayout = false := by
        cases event with
        | payoutProcessed =>
            rw [roundOf_concat] at isOpen
            cases done.symm.trans isOpen
        | _ => rfl
      by_cases removal : event.isRemoval = true
      · exact .inr ⟨_, event, [], rfl, removal, nofun⟩
      rw [Bool.not_eq_true] at removal
      rw [roundOf_concat, isClosed_after noPayout rollover] at isOpen
      have finished := all_isDone_of_after noPayout removal done rollover
      rcases ih isOpen finished with noPayouts | ⟨before, departure, later, parts, isRemoval, quiet⟩
      · exact .inl (List.forall_mem_append.2 ⟨noPayouts, List.forall_mem_singleton.2 noPayout⟩)
      · refine .inr ⟨before, departure, later ++ [event], ?_, isRemoval, ?_⟩
        · rw [parts, List.append_assoc]
          rfl
        · exact List.forall_mem_append.2 ⟨quiet, List.forall_mem_singleton.2 noPayout⟩

end

namespace Circle

/-- The turns that the seats of a circle stand for. -/
def turns (circle : Circle) (records : Records) : List Turn :=
  circle.seats.map fun seat =>
    ⟨seat.holder, seat.isPaidOut, circle.isEjected records seat.holder⟩

variable {circle next : Circle} {records others : Records} {position : Nat} {seat : Seat}

/-- A cycle is complete if there are turns and all are done. -/
theorem isCycleComplete_eq (circle : Circle) (records : Records) :
    circle.isCycleComplete records =
      (!circle.seats.isEmpty && (circle.turns records).all Turn.isDone) := by
  rw [isCycleComplete, turns, List.all_map]
  rfl

theorem turnsAfter_decisions (turns : List Turn) (more : List Event) :
    ((circle.settle records).2 ++ more).foldl turnsAfter turns = more.foldl turnsAfter turns :=
  circle.foldl_settle records turns more fun _ _ decision => by cases decision <;> rfl

@[simp] theorem turns_settle {voters : Records} :
    (circle.settle voters).1.turns records = circle.turns records := by
  rw [turns, turns, seats_settle]
  apply List.map_congr_left
  intro seat _
  rw [isEjected_congr id_settle rfl]

theorem turns_congr (seats : next.seats = circle.seats)
    (ejected : ∀ seat ∈ circle.seats,
      next.isEjected others seat.holder = circle.isEjected records seat.holder) :
    next.turns others = circle.turns records := by
  rw [turns, seats]
  apply List.map_congr_left
  intro seat mem
  rw [ejected seat mem]

/-- One seat is changed, or only the standing of its holder. -/
theorem turns_change (nodup : circle.members.Nodup) (here : circle.seats[position]? = some seat)
    (change : Seat → Seat) (changeTurn : Turn → Turn)
    (seats : next.seats = circle.seats.modify position change)
    (changed : (⟨(change seat).holder, (change seat).isPaidOut,
      next.isEjected others (change seat).holder⟩ : Turn) =
        changeTurn ⟨seat.holder, seat.isPaidOut, circle.isEjected records seat.holder⟩)
    (same : ∀ other ∈ circle.seats, other.holder ≠ seat.holder →
      next.isEjected others other.holder = circle.isEjected records other.holder) :
    next.turns others = (circle.turns records).map (Turn.change seat.holder changeTurn) := by
  have holders : (circle.seats.map Seat.holder).Nodup := nodup
  rw [turns, seats, modify_eq_map holders here, turns, List.map_map, List.map_map]
  apply List.map_congr_left
  intro other mem
  by_cases isSeat : other.holder = seat.holder
  · obtain rfl := List.inj_on_of_nodup_map holders mem (List.mem_of_getElem? here) isSeat
    simpa only [Function.comp, Turn.change, if_true] using changed
  · simp only [Function.comp, Turn.change, if_neg isSeat, same other mem isSeat]

/-- One seat is changed without a bearing on its turn. -/
theorem turns_modify (nodup : circle.members.Nodup) (here : circle.seats[position]? = some seat)
    (change : Seat → Seat) (seats : next.seats = circle.seats.modify position change)
    (holder : (change seat).holder = seat.holder)
    (paidOut : (change seat).isPaidOut = seat.isPaidOut)
    (same : ∀ other ∈ circle.seats,
      next.isEjected others other.holder = circle.isEjected records other.holder) :
    next.turns others = circle.turns records := by
  rw [turns_change nodup here change (fun turn => turn) seats
    (by rw [holder, paidOut, same seat (List.mem_of_getElem? here)])
    fun other mem _ => same other mem, Turn.change_same, List.map_id]

/-- One seat is handed on, along with the turn. -/
theorem turns_handOn (nodup : circle.members.Nodup) (here : circle.seats[position]? = some seat)
    (change : Seat → Seat) (successor : Address)
    (seats : next.seats = circle.seats.modify position change)
    (holder : (change seat).holder = successor)
    (paidOut : (change seat).isPaidOut = seat.isPaidOut)
    (standing : next.isEjected others successor = circle.isEjected records seat.holder)
    (same : ∀ other ∈ circle.seats, other.holder ≠ seat.holder →
      next.isEjected others other.holder = circle.isEjected records other.holder) :
    next.turns others = (circle.turns records).map fun turn =>
      { turn with member := renamed seat.holder successor turn.member } := by
  rw [turns_change nodup here change (fun turn => { turn with member := successor }) seats
    (by rw [holder, paidOut, standing]) same]
  apply List.map_congr_left
  intro turn _
  rw [Turn.change, renamed]
  split <;> rfl

/-- A seat is removed. -/
theorem turns_removeSeat (nodup : circle.members.Nodup)
    (here : circle.seats[position]? = some seat)
    (seats : next.seats = circle.seats.eraseIdx position)
    (same : ∀ other ∈ circle.seats, other.holder ≠ seat.holder →
      next.isEjected others other.holder = circle.isEjected records other.holder) :
    next.turns others = (circle.turns records).filter fun turn => turn.member ≠ seat.holder := by
  have holders : (circle.seats.map Seat.holder).Nodup := nodup
  rw [turns, seats, eraseIdx_eq_filter holders here, turns, List.filter_map]
  apply List.map_congr_left
  intro other mem
  obtain ⟨isSeat, differ⟩ := List.mem_filter.1 mem
  rw [same other isSeat (of_decide_eq_true differ)]

end Circle

section

variable {host : Host} {moment : Moment} {books : Books} {circle : Circle} {caller : Address}
variable {operation : Operation} {change : Change} {past : List Event}

theorem Swapping.turns {former successor : Address} (sound : circle.Sound)
    (named : Directory.reserved ∉ change.circle.members)
    (swapping : Swapping moment books circle former successor change) :
    change.circle.turns change.records =
      change.events.foldl turnsAfter (circle.turns books.records) := by
  cases swapping with
  | same => rfl
  | @renamed position _ _ _ _ seated _ absent recorded isRenamed areRecords =>
      subst isRenamed areRecords
      have mem := sound.indexed.mem_of_position? seated
      have isNew := sound.indexed.isNew absent (circle.mem_members_renameMember mem) named
      show (circle.seats.map _).map _ = (circle.seats.map _).map _
      rw [List.map_map, List.map_map]
      apply List.map_congr_left
      intro seat mem
      have apart : seat.holder ≠ successor := fun same => isNew (List.mem_map.2 ⟨seat, mem, same⟩)
      have handed := Circle.statusOf_renameMember position moment.now
        (circle.renameMember former successor).directory recorded apart
      simp only [Function.comp, Circle.isEjected, handed]

/-- A reader learns of everything that a call does to the turns. -/
theorem Deed.turns (sound : circle.Sound) (unreserved : Directory.reserved ∉ circle.members)
    (rostered : circle.Rostered books.records)
    (named : Directory.reserved ∉ change.circle.members)
    (deed : Deed host moment books circle caller operation change) :
    change.circle.turns change.records =
      change.events.foldl turnsAfter (circle.turns books.records) := by
  have stays {seat : Seat} (mem : seat ∈ circle.seats)
      (unconcerned : ∀ event ∈ change.events, event.concerns seat.holder = false) :
      change.circle.isEjected change.records seat.holder =
        circle.isEjected books.records seat.holder := by
    have found := sound.indexed.isSome_position? (List.mem_map_of_mem mem) unreserved
    rw [Circle.isEjected, deed.statusOf found unconcerned, Circle.isEjected]
  cases deed with
  | handOver | finalizeAgain | withdrawNothing | finalize => rfl
  | swap _ swapping | swapByAdmin swapping => exact swapping.turns sound named
  | join _ absent =>
      show (circle.seats ++ [Seat.fresh caller]).map _ = circle.turns books.records ++ _
      rw [List.map_append, Circle.turns]
      congr 1
      · apply List.map_congr_left
        intro seat mem
        rw [← stays mem (List.forall_mem_singleton.2 rfl)]
      · have active : (circle.addSeat caller).statusOf (books.records.enroll circle.id caller
            circle.seats.length moment.now) caller = .active :=
          (circle.addSeat caller).statusOf_enroll ..
        simp [Seat.fresh, Circle.isEjected, active]
  | kick _ _ seated _ _ _ _ _ _ isRemoved _ isKept =>
      obtain ⟨here, rfl⟩ := sound.indexed.holder_of_seat? seated
      rw [Circle.turnsAfter_decisions]
      refine Circle.turns_removeSeat rostered.nodup here ?_ fun other mem differ => ?_
      · rw [Circle.seats_settle, isKept, isRemoved]
        rfl
      · refine stays mem (Event.unconcerned_of_decisions ?_)
        simp [Event.concerns, Event.moves, Event.ranks, differ.symm]
  | eject _ seated recorded _ areRecords =>
      obtain ⟨position, seat, seated⟩ := sound.indexed.exists_seat? seated
      obtain ⟨here, rfl⟩ := sound.indexed.holder_of_seat? seated
      rw [Circle.turnsAfter_decisions, Circle.turns_settle]
      refine Circle.turns_change rostered.nodup here id _ (List.modify_id ..).symm ?_ ?_
      · rw [id, Circle.isEjected, areRecords, Circle.statusOf_update recorded]
        rfl
      · intro other mem differ
        rw [← stays mem (Event.unconcerned_of_decisions ?_)]
        · exact (Circle.isEjected_congr Circle.id_settle rfl).symm
        · simp [Event.concerns, Event.moves, Event.ranks, differ.symm]
  | requestExit _ seated recorded active =>
      refine Circle.turns_congr rfl fun seat mem => ?_
      by_cases here : seat.holder = caller
      · have was : circle.isEjected books.records caller = false := by
          simp [Circle.isEjected, Circle.statusOf, recorded, active]
        rw [here, was, Circle.isEjected, Circle.statusOf_update recorded]
        rfl
      · refine stays mem (List.forall_mem_singleton.2 ?_)
        simp [Event.concerns, Event.moves, Event.ranks, Ne.symm here]
  | @fillVacancy _ _ _ _ successor _ seat _ _ _ _ _ _ _ seated recorded waiting absent _ _
      isVacated areRecords isKept =>
      have stands := sound.indexed.stands_of_seat? seated
      obtain ⟨here, rfl⟩ := sound.indexed.holder_of_seat? seated
      rw [isKept, isVacated, Circle.members_settle] at named
      have isNew := sound.indexed.isNew absent (circle.mem_members_vacateSeat stands) named
      have was : circle.isEjected books.records seat.holder = false := by
        simp [Circle.isEjected, Circle.statusOf, recorded, waiting]
      rw [Circle.turnsAfter_decisions]
      refine Circle.turns_handOn rostered.nodup here
        (fun seat => { seat with holder := successor, hasContributed := false, paidIn := 0 })
        successor ?_ rfl rfl ?_ ?_
      · rw [Circle.seats_settle, isKept, isVacated]
        rfl
      · subst isKept isVacated
        rw [was, Circle.isEjected, Circle.statusOf_settle, areRecords]
        exact congrArg (· == Status.ejected) (circle.statusOf_enroll ..)
      · intro other mem differ
        have apart : successor ≠ other.holder := fun same =>
          isNew (List.mem_map.2 ⟨other, mem, same.symm⟩)
        refine stays mem (Event.unconcerned_of_decisions ?_)
        simp [Event.concerns, Event.moves, Event.ranks, differ.symm, apart]
  | processPayout _ _ active unpaid _ _ _ _ isPaid completes =>
      obtain ⟨here, rfl⟩ := sound.indexed.holder_of_seat? (Circle.seat?_of_activeSeat? active).2
      rw [Event.foldl_payout fun _ => rfl]
      subst isPaid
      exact Circle.turns_change rostered.nodup here _ _ rfl rfl fun _ _ _ => rfl
  | rollover _ complete =>
      show (circle.seats.map _).map _ = (circle.seats.map _).map _
      rw [List.map_map, List.map_map]
      rfl
  | contribute _ active =>
      obtain ⟨here, rfl⟩ := sound.indexed.holder_of_seat? (Circle.seat?_of_activeSeat? active).2
      exact Circle.turns_modify rostered.nodup here _ rfl rfl rfl fun other mem =>
        stays mem (List.forall_mem_singleton.2 rfl)
  | coverMember _ active _ _ _ isCovered =>
      obtain ⟨here, rfl⟩ := sound.indexed.holder_of_seat? (Circle.seat?_of_activeSeat? active).2
      subst isCovered
      exact Circle.turns_modify rostered.nodup here _ rfl rfl rfl fun _ _ => rfl
  | proposeDissolution | voteDissolution | proposeLateFee | voteLateFee =>
      dsimp only [Circle.afterVote, Circle.answering]
      rw [← List.append_nil (Circle.settle _ _).2, Circle.turnsAfter_decisions, Circle.turns_settle]
      rfl
  | withdrawProRata _ seated =>
      obtain ⟨here, rfl⟩ := sound.indexed.holder_of_seat? seated
      exact Circle.turns_modify rostered.nodup here _ rfl rfl rfl fun _ _ => rfl

end

end SavingsCircle
