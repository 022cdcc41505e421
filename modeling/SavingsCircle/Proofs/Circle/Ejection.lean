import SavingsCircle.Proofs.Circle.Accounting
import SavingsCircle.Proofs.Circle.Quorum
import SavingsCircle.Proofs.Circle.Seating
import SavingsCircle.Proofs.Circle.Standing
import SavingsCircle.Proofs.Circle.Tally
import SavingsCircle.Proofs.Number.Rounding

/-!
# Ejection

A member who is put out of a circle keeps the seat, and no call on the circle takes that back. The
status stands in a record under the address, and a record is wiped clean whenever its address takes
a seat. But nobody takes a seat who is found in the circle, a swap hands the status on along with
the seat, and the seat of somebody who was put out is not vacant. So the status follows the seat
(`Deed.spares`), and as long as it does, nothing is paid to the seat, for it or by its holder
(`ejection_is_final`).

Nothing that a rollover nets adds to what is paid in for a seat. Amounts above `Number.maxSafe` are
rounded, so this needs that the seats hold amounts (`Circle.Held`).
-/

namespace SavingsCircle

namespace Event

def holderAfter (holder : Option Address) : Event → Option Address
  | .kicked _ member _ _ => if holder = some member then none else holder
  | .memberSwapped _ former successor | .vacancyFilled _ former successor _ =>
    if holder = some former then some successor else holder
  | _ => holder

/-- Whether an event pays an address, takes its contribution or covers it. -/
def serves (address : Address) : Event → Bool
  | .payoutProcessed _ recipient _ _ _ => recipient = address
  | .contributionReceived _ member _ _ _ | .insuranceCoverage _ member _ => member = address
  | _ => false

/-- Whether an event neither moves an address nor serves it. -/
def avoids (address : Address) (event : Event) : Bool :=
  !event.moves address && !event.serves address

end Event

/-- Who holds the seat of a member once some events are recorded. -/
def holderOf (holder : Option Address) (recent : List Event) : Option Address :=
  recent.foldl Event.holderAfter holder

/-- Whether no event serves whoever holds a seat at that moment. -/
def passesBy (holder : Option Address) : List Event → Bool
  | [] => true
  | event :: events =>
    holder.all (fun address => !event.serves address) && passesBy (event.holderAfter holder) events

def entriesOf (id : Nat) (events : List Event) : List Event :=
  events.filter fun event => event.circle? = some id

section

variable {holder : Option Address} {address : Address} {events recent : List Event} {id : Nat}

theorem holderOf_append (holder : Option Address) (events recent : List Event) :
    holderOf holder (events ++ recent) = holderOf (holderOf holder events) recent :=
  List.foldl_append

theorem passesBy_append (holder : Option Address) (events recent : List Event) :
    passesBy holder (events ++ recent) =
      (passesBy holder events && passesBy (holderOf holder events) recent) := by
  induction events generalizing holder with
  | nil => rfl
  | cons event events ih =>
      rw [List.cons_append, passesBy, ih, passesBy, Bool.and_assoc]
      rfl

theorem holderAfter_none (event : Event) : event.holderAfter none = none := by
  cases event <;> rfl

theorem holderOf_none (events : List Event) : holderOf none events = none := by
  induction events with
  | nil => rfl
  | cons event events ih => rwa [holderOf, List.foldl_cons, holderAfter_none]

theorem passesBy_none (events : List Event) : passesBy none events = true := by
  induction events with
  | nil => rfl
  | cons event events ih => rwa [passesBy, holderAfter_none]

/-- Whoever is not moved keeps the seat. -/
theorem holderAfter_of_not_moves {event : Event} (unmoved : event.moves address = false) :
    event.holderAfter (some address) = some address := by
  cases event with
  | kicked _ member =>
      have apart := Event.moves_kicked.1 unmoved
      exact if_neg fun same => apart (Option.some.inj same).symm
  | memberSwapped _ former successor =>
      have apart := (Event.moves_memberSwapped.1 unmoved).1
      exact if_neg fun same => apart (Option.some.inj same).symm
  | vacancyFilled _ former successor =>
      have apart := (Event.moves_vacancyFilled.1 unmoved).1
      exact if_neg fun same => apart (Option.some.inj same).symm
  | _ => rfl

/-- Events that avoid the holder of a seat pass the seat by and leave it to the holder. -/
theorem passesBy_of_avoids (avoids : ∀ event ∈ events, event.avoids address = true) :
    passesBy (some address) events = true ∧ holderOf (some address) events = some address := by
  induction events with
  | nil => exact ⟨rfl, rfl⟩
  | cons event events ih =>
      rw [List.forall_mem_cons] at avoids
      obtain ⟨first, others⟩ := avoids
      simp only [Event.avoids, Bool.and_eq_true, Bool.not_eq_true'] at first
      have stays := holderAfter_of_not_moves first.1
      obtain ⟨passes, keeps⟩ := ih others
      constructor
      · simp [passesBy, first.2, stays, passes]
      · rwa [holderOf, List.foldl_cons, stays]

theorem decisions_avoid (kept : Circle) (records : Records) (address : Address) :
    ∀ event ∈ (kept.settle records).2, event.avoids address = true := by
  intro event mem
  cases kept.isDecision_of_mem_settle records mem <;> rfl

theorem avoids_of_decisions {kept : Circle} {records : Records} {done : Event}
    (avoids : done.avoids address = true) :
    ∀ event ∈ (kept.settle records).2 ++ [done], event.avoids address = true := by
  rw [List.forall_mem_append, List.forall_mem_singleton]
  exact ⟨decisions_avoid kept records address, avoids⟩

theorem entriesOf_append (id : Nat) (events recent : List Event) :
    entriesOf id (events ++ recent) = entriesOf id events ++ entriesOf id recent :=
  List.filter_append ..

theorem entriesOf_own (own : ∀ event ∈ events, event.circle? = some id) :
    entriesOf id events = events :=
  List.filter_eq_self.2 fun event mem => decide_eq_true (own event mem)

theorem entriesOf_other (others : ∀ event ∈ events, event.circle? ≠ some id) :
    entriesOf id events = [] :=
  List.filter_eq_nil_iff.2 fun event mem => by simpa using others event mem

end

/-- A seat that is later neither paid out nor contributed for unless it was before, and for which no
more is paid in than before. -/
structure Seat.Dwindles (seat later : Seat) : Prop where
  isPaidOut : later.isPaidOut = true → seat.isPaidOut = true
  hasContributed : later.hasContributed = true → seat.hasContributed = true
  paidIn : later.paidIn ≤ seat.paidIn

namespace Seat.Dwindles

variable {first second third : Seat}

@[refl] theorem refl (seat : Seat) : seat.Dwindles seat := ⟨id, id, Nat.le_refl _⟩

theorem trans (a : first.Dwindles second) (b : second.Dwindles third) : first.Dwindles third where
  isPaidOut := a.isPaidOut ∘ b.isPaidOut
  hasContributed := a.hasContributed ∘ b.hasContributed
  paidIn := Nat.le_trans b.paidIn a.paidIn

end Seat.Dwindles

namespace Circle

def Held (circle : Circle) : Prop := ∀ seat ∈ circle.seats, Amount.IsHeld seat.paidIn

/-- Somebody has been put out who has one seat, and that has dwindled since it was as given. -/
structure Idle (circle : Circle) (records : Records) (holder : Address) (origin : Seat) :
    Prop where
  out : circle.isEjected records holder = true
  seat : ∃ seat, circle.seatsOf holder = [seat] ∧ origin.Dwindles seat

variable {circle : Circle} {records others : Records} {holder : Address} {origin seat : Seat}

theorem Idle.mem (idle : circle.Idle records holder origin) : holder ∈ circle.members := by
  obtain ⟨seat, only, -⟩ := idle.seat
  by_contra absent
  rw [seatsOf_eq_nil_iff.2 absent] at only
  exact List.cons_ne_nil _ _ only.symm

theorem Idle.congr (idle : circle.Idle records holder origin)
    (same : Records.record? others circle.id holder = Records.record? records circle.id holder) :
    circle.Idle others holder origin where
  out := by
    rw [← idle.out]
    exact isEjected_congr rfl (by rw [same])
  seat := idle.seat

theorem Governed.not_voted (governed : circle.Governed records)
    (out : circle.isEjected records holder = true) :
    holder ∉ circle.dissolutionVotes ∧ holder ∉ circle.proposalVotes := by
  have noVoter : holder ∉ circle.voters records := fun mem => by
    simp [(mem_voters_iff.1 mem).2] at out
  exact ⟨fun mem => noVoter (governed.dissolution.subset mem),
    fun mem => noVoter (governed.proposal.subset mem)⟩

theorem seatsOf_modify_self {next : Circle} {position : Nat}
    (here : circle.seats[position]? = some seat) (only : circle.seatsOf seat.holder = [seat])
    {change : Seat → Seat} (seats : next.seats = circle.seats.modify position change)
    (same : (change seat).holder = seat.holder) : next.seatsOf seat.holder = [change seat] := by
  have own := (perm_cons_eraseIdx here).filter fun other => other.holder = seat.holder
  rw [List.filter_cons_of_pos (by simp), ← seatsOf, only, List.singleton_perm] at own
  have changed :=
    (modify_perm_cons_eraseIdx here change).filter fun other => other.holder = seat.holder
  rwa [List.filter_cons_of_pos (by simpa using same), ← List.tail_eq_of_cons_eq own,
    List.perm_singleton, ← seats] at changed

/-- In a roster that names nobody twice a member has one seat. -/
theorem exists_seatsOf_eq_singleton (nodup : circle.members.Nodup)
    (isMember : holder ∈ circle.members) : ∃ seat, circle.seatsOf holder = [seat] := by
  obtain ⟨seat, mem, rfl⟩ := List.mem_map.1 isMember
  refine ⟨seat, ?_⟩
  rw [seatsOf]
  rw [members] at nodup
  generalize circle.seats = seats at nodup mem
  induction seats with
  | nil => exact absurd mem List.not_mem_nil
  | cons first seats ih =>
      obtain ⟨apart, nodup⟩ := List.nodup_cons.1 nodup
      rcases List.mem_cons.1 mem with rfl | mem
      · rw [List.filter_cons_of_pos (by simp), List.filter_eq_nil_iff.2]
        intro other isOther same
        exact apart (List.mem_map.2 ⟨other, isOther, of_decide_eq_true same⟩)
      · have differ : first.holder ≠ seat.holder := fun same =>
          apart (List.mem_map.2 ⟨seat, mem, same.symm⟩)
        rw [List.filter_cons_of_neg (by simpa using differ)]
        exact ih nodup mem

end Circle

/-- What a call does to the seat of somebody who was put out. It records nothing that serves the
seat, and the seat is gone, or idle in the hands of whoever holds it then. -/
structure Change.Spares (change : Change) (holder : Address) (origin : Seat) : Prop where
  passes : passesBy (some holder) change.events = true
  idle {next} (isNext : holderOf (some holder) change.events = some next) :
    change.circle.Idle change.records next origin

section

variable {host : Host} {moment : Moment} {books : Books} {circle : Circle} {caller : Address}
variable {operation : Operation} {change : Change} {holder : Address} {origin seat : Seat}

theorem Change.Spares.of_avoids
    (avoids : ∀ event ∈ change.events, event.avoids holder = true)
    (out : change.circle.isEjected change.records holder = true)
    (only : change.circle.seatsOf holder = [seat]) (dwindles : origin.Dwindles seat) :
    change.Spares holder origin := by
  obtain ⟨passes, keeps⟩ := passesBy_of_avoids avoids
  refine ⟨passes, fun isNext => ?_⟩
  obtain rfl := Option.some.inj (keeps.symm.trans isNext)
  exact ⟨out, seat, only, dwindles⟩

/-- A swap hands the standing on along with the seat. -/
theorem Swapping.spares {former successor : Address} (sound : circle.Sound)
    (idle : circle.Idle books.records holder origin)
    (unreserved : Directory.reserved ∉ change.circle.members)
    (swapping : Swapping moment books circle former successor change) :
    change.Spares holder origin := by
  obtain ⟨seat, only, dwindles⟩ := idle.seat
  cases swapping with
  | same => exact .of_avoids (List.forall_mem_nil _) idle.out only dwindles
  | @renamed position _ _ _ _ seated _ absent recorded isRenamed areRecords =>
      subst isRenamed areRecords
      have mem := sound.indexed.mem_of_position? seated
      have isNew := sound.indexed.isNew absent (circle.mem_members_renameMember mem) unreserved
      have differ : holder ≠ successor := fun same => isNew (same ▸ idle.mem)
      have handed := Circle.statusOf_renameMember position moment.now
        (circle.renameMember former successor).directory recorded differ
      have out := idle.out
      rw [Circle.isEjected, ← handed] at out
      by_cases theirs : holder = former
      · subst theirs
        refine ⟨rfl, fun isNext => ?_⟩
        obtain rfl : successor = _ := by simpa [holderOf, Event.holderAfter] using isNext
        rw [Circle.renamed_self] at out
        refine ⟨out, { seat with holder := successor }, ?_, ?_⟩
        · rw [Circle.seatsOf_renameMember_self isNew, only]
          rfl
        · exact ⟨dwindles.isPaidOut, dwindles.hasContributed, dwindles.paidIn⟩
      · rw [Circle.renamed_of_ne theirs] at out
        refine .of_avoids ?_ out ?_ dwindles
        · simp [Event.avoids, Event.moves, Event.serves, Ne.symm theirs, differ.symm]
        · rw [Circle.seatsOf_renameMember (Ne.symm theirs) differ.symm, only]

/-- Every call spares the seat of somebody who was put out. -/
theorem Deed.spares (sound : circle.Sound) (unreserved : Directory.reserved ∉ circle.members)
    (held : circle.Held) (idle : circle.Idle books.records holder origin)
    (still : Directory.reserved ∉ change.circle.members)
    (deed : Deed host moment books circle caller operation change) :
    change.Spares holder origin := by
  obtain ⟨seat, only, dwindles⟩ := idle.seat
  have seated := sound.indexed.isSome_position? idle.mem unreserved
  have changed (avoids : ∀ event ∈ change.events, event.avoids holder = true) {after : Seat}
      (isAfter : change.circle.seatsOf holder = [after]) (less : origin.Dwindles after) :
      change.Spares holder origin := by
    have unmoved event (mem : event ∈ change.events) : event.moves holder = false := by
      have avoided := avoids event mem
      simp only [Event.avoids, Bool.and_eq_true, Bool.not_eq_true'] at avoided
      exact avoided.1
    refine .of_avoids avoids ?_ isAfter less
    rw [← deed.isEjected seated unmoved idle.out]
    exact Circle.isEjected_congr deed.lasts.id rfl
  have kept (avoids : ∀ event ∈ change.events, event.avoids holder = true)
      (same : change.circle.seatsOf holder = circle.seatsOf holder) :
      change.Spares holder origin := changed avoids (same.trans only) dwindles
  have absent_ne {address : Address} (absent : circle.position? address = none) :
      address ≠ holder := by
    rintro rfl
    simp [absent] at seated
  have active_ne {address : Address} {found : Nat × Seat}
      (active : circle.activeSeat? books.records address = some found) : address ≠ holder := by
    rintro rfl
    exact Bool.false_ne_true ((Circle.seat?_of_activeSeat? active).1.symm.trans idle.out)
  cases deed with
  | handOver | finalizeAgain | withdrawNothing => exact kept (List.forall_mem_nil _) rfl
  | finalize | requestExit => exact kept (List.forall_mem_singleton.2 rfl) rfl
  | join _ absent =>
      have same := circle.seatsOf_addSeat caller holder
      rw [if_neg (absent_ne absent), List.append_nil] at same
      exact kept (List.forall_mem_singleton.2 rfl) same
  | @kick _ _ member _ _ _ _ _ _ _ _ records last _ _ isSeat _ _ _ _ _ _ isRemoved _ isLast =>
      by_cases theirs : member = holder
      · subst theirs
        obtain ⟨passes, keeps⟩ := passesBy_of_avoids (decisions_avoid last records member)
        constructor
        · rw [passesBy_append, passes, keeps]
          rfl
        · intro next isNext
          rw [holderOf_append, keeps] at isNext
          simp [holderOf, Event.holderAfter] at isNext
      · obtain ⟨here, rfl⟩ := sound.indexed.holder_of_seat? isSeat
        refine kept (avoids_of_decisions ?_) ?_
        · simp [Event.avoids, Event.moves, Event.serves, theirs]
        · rw [Circle.seatsOf_congr Circle.seats_settle, isLast, isRemoved,
            ← Circle.seatsOf_removeSeat here theirs]
          rfl
  | swap _ swapping | swapByAdmin swapping => exact swapping.spares sound idle still
  | eject => exact kept (avoids_of_decisions rfl) (Circle.seatsOf_congr Circle.seats_settle holder)
  | @fillVacancy _ _ _ exiting _ _ _ _ _ _ _ _ _ _ isSeat recorded waiting absent _ _ isVacated _
      isLast =>
      have stays : exiting ≠ holder := by
        rintro rfl
        have out := Circle.isEjected_iff.1 idle.out
        rw [recorded, Option.map_some, waiting] at out
        exact absurd (Option.some.inj out) (by decide)
      obtain ⟨here, rfl⟩ := sound.indexed.holder_of_seat? isSeat
      refine kept (avoids_of_decisions ?_) ?_
      · simp [Event.avoids, Event.moves, Event.serves, stays, absent_ne absent]
      · rw [Circle.seatsOf_congr Circle.seats_settle, isLast, isVacated,
          ← Circle.seatsOf_vacateSeat here stays (absent_ne absent)]
        rfl
  | proposeDissolution | voteDissolution | proposeLateFee | voteLateFee =>
      refine kept (decisions_avoid _ _ holder) ?_
      exact (Circle.seatsOf_congr Circle.seats_settle holder).trans rfl
  | processPayout _ _ active _ _ _ _ _ isPaid =>
      have differ := active_ne active
      obtain ⟨here, rfl⟩ := sound.indexed.holder_of_seat? (Circle.seat?_of_activeSeat? active).2
      subst isPaid
      refine kept (List.forall_mem_cons.2 ⟨?_, fun event mem => ?_⟩) ?_
      · simp [Event.avoids, Event.moves, Event.serves, differ]
      · split at mem
        · rw [List.mem_singleton.1 mem]
          rfl
        · exact absurd mem List.not_mem_nil
      · exact Circle.seatsOf_modify here rfl differ differ
  | contribute _ active =>
      have differ := active_ne active
      obtain ⟨here, rfl⟩ := sound.indexed.holder_of_seat? (Circle.seat?_of_activeSeat? active).2
      refine kept (List.forall_mem_singleton.2 ?_) (Circle.seatsOf_modify here rfl differ differ)
      simp [Event.avoids, Event.moves, Event.serves, differ]
  | coverMember _ active _ _ _ isCovered =>
      have differ := active_ne active
      obtain ⟨here, rfl⟩ := sound.indexed.holder_of_seat? (Circle.seat?_of_activeSeat? active).2
      subst isCovered
      refine kept (List.forall_mem_singleton.2 ?_) (Circle.seatsOf_modify here rfl differ differ)
      simp [Event.avoids, Event.moves, Event.serves, differ]
  | rollover =>
      have isSeat : seat ∈ circle.seats := (List.mem_filter.1 (only ▸ List.mem_singleton_self _)).1
      have rolled := circle.seatsOf_rollOver holder
      rw [only, List.map_singleton] at rolled
      refine changed (List.forall_mem_singleton.2 rfl) rolled (dwindles.trans ⟨?_, ?_, ?_⟩)
      · exact fun paid => absurd paid Bool.false_ne_true
      · exact fun paid => absurd paid Bool.false_ne_true
      · dsimp only
        split
        · exact Amount.sub_le (held seat isSeat)
        · exact Nat.le_refl _
  | @withdrawProRata _ _ _ own _ _ isSeat =>
      obtain ⟨here, isHolder⟩ := sound.indexed.holder_of_seat? isSeat
      by_cases theirs : own.holder = holder
      · subst theirs
        obtain rfl : own = seat := by
          have last := sound.indexed.getLast?_seatsOf (isHolder ▸ isSeat)
          rw [only] at last
          exact (Option.some.inj last).symm
        refine changed (List.forall_mem_singleton.2 rfl)
          (Circle.seatsOf_modify_self here only rfl rfl) (dwindles.trans ⟨id, id, Nat.zero_le _⟩)
      · exact kept (List.forall_mem_singleton.2 rfl) (Circle.seatsOf_modify here rfl theirs theirs)

end

/-! ## Amounts at the seats -/

theorem Circle.Held.settle {circle : Circle} (held : circle.Held) (records : Records) :
    (circle.settle records).1.Held := by
  intro seat mem
  rw [seats_settle] at mem
  exact held seat mem

section

variable {host : Host} {moment : Moment} {books : Books} {circle : Circle} {caller : Address}
variable {operation : Operation} {change : Change}

theorem Swapping.held {former successor : Address} (held : circle.Held)
    (swapping : Swapping moment books circle former successor change) : change.circle.Held := by
  cases swapping with
  | same => exact held
  | renamed _ _ _ _ _ isRenamed =>
      subst isRenamed
      exact List.forall_mem_map.2 held

/-- Every call leaves amounts at the seats. -/
theorem Deed.held (held : circle.Held)
    (deed : Deed host moment books circle caller operation change) : change.circle.Held := by
  cases deed with
  | handOver | finalizeAgain | withdrawNothing | finalize | requestExit => exact held
  | join => exact List.forall_mem_append.2 ⟨held, List.forall_mem_singleton.2 Amount.isHeld_zero⟩
  | kick _ _ _ _ _ _ _ _ _ isRemoved _ isKept =>
      subst isKept isRemoved
      refine Circle.Held.settle (fun seat mem => ?_) _
      exact held seat (List.mem_of_mem_eraseIdx mem)
  | swap _ swapping | swapByAdmin swapping => exact swapping.held held
  | fillVacancy _ _ seated _ _ _ _ _ isVacated _ isKept =>
      subst isKept isVacated
      refine Circle.Held.settle ?_ _
      exact forall_mem_modify (Circle.seat?_eq_some_iff.1 seated).2 held Amount.isHeld_zero
  | eject | proposeDissolution | voteDissolution | proposeLateFee | voteLateFee =>
      exact Circle.Held.settle (by exact held) _
  | processPayout _ _ active _ _ _ _ _ isPaid =>
      have here := (Circle.seat?_eq_some_iff.1 (Circle.seat?_of_activeSeat? active).2).2
      have isHeld := held _ (List.mem_of_getElem? here)
      subst isPaid
      exact forall_mem_modify here held isHeld
  | coverMember _ active _ _ _ isCovered =>
      have here := (Circle.seat?_eq_some_iff.1 (Circle.seat?_of_activeSeat? active).2).2
      have isHeld := held _ (List.mem_of_getElem? here)
      subst isCovered
      exact forall_mem_modify here held isHeld
  | contribute _ active =>
      have here := (Circle.seat?_eq_some_iff.1 (Circle.seat?_of_activeSeat? active).2).2
      exact forall_mem_modify here held (Amount.isHeld_hold _)
  | withdrawProRata _ seated =>
      exact forall_mem_modify (Circle.seat?_eq_some_iff.1 seated).2 held Amount.isHeld_zero
  | rollover =>
      refine List.forall_mem_map.2 fun seat mem => ?_
      dsimp only
      split
      · exact Amount.isHeld_hold _
      · exact held seat mem

end

theorem circleInvariant_held (host : Host) :
    CircleInvariant host (fun circle => Directory.reserved ∉ circle.members) fun circle _ _ =>
      circle.Held where
  congr held _ := held
  founded isNew := by
    intro seat mem
    rw [isNew.seats] at mem
    exact absurd mem List.not_mem_nil
  deed held deed _ := deed.held held

/-! ## Runs -/

/-- What holds of every circle in a run in which no member goes by the reserved address. -/
def Circle.Regular (circle : Circle) (records : Records) (_past : List Event) : Prop :=
  ((circle.Sound ∧ Directory.reserved ∉ circle.members ∧ circle.Rostered records) ∧
    circle.Sound ∧ circle.Governed records) ∧ circle.Held

theorem circleInvariant_regular (host : Host) :
    CircleInvariant host (fun circle => Directory.reserved ∉ circle.members) Circle.Regular :=
  ((circleInvariant_rostered host).and (circleInvariant_governed host)).and
    (circleInvariant_held host)

/-- What becomes of the seat of a member who was put out of a circle, when the given events of the
circle are recorded since then. None of them serves whoever holds the seat, and it is idle. -/
structure Books.LeavesIdle (books : Books) (id : Nat) (member : Address) (origin : Seat)
    (own : List Event) : Prop where
  passes : passesBy (some member) own = true
  idle {holder} (isHolder : holderOf (some member) own = some holder) :
    ∃ circle ∈ books.circles, circle.id = id ∧ circle.Idle books.records holder origin

/-- Since its trail was as given, a world has spared the seat that a member had then in a circle. -/
def World.LeavesIdle (world : World) (past : List Event) (id : Nat) (member : Address)
    (origin : Seat) : Prop :=
  ∃ recent, world.trail.events = past ++ recent ∧
    world.books.LeavesIdle id member origin (entriesOf id recent)

/-- The seat that a member had in a circle when the trail was as given is now like this. -/
def World.HasSeat (world : World) (past : List Event) (id : Nat) (member : Address) (seat : Seat) :
    Prop :=
  ∃ recent holder circle, world.trail.events = past ++ recent ∧
    holderOf (some member) (entriesOf id recent) = some holder ∧
    circle ∈ world.books.circles ∧ circle.id = id ∧ circle.seatsOf holder = [seat]

section

variable {host : Host} {moment : Moment} {books : Books} {operation : Operation} {effect : Effect}
variable {id : Nat} {member : Address} {origin : Seat} {own past events : List Event}

theorem Books.LeavesIdle.aside {next : Books} (spares : books.LeavesIdle id member origin own)
    (kept : ∀ circle ∈ books.circles, circle.id = id → circle ∈ next.circles)
    (records : ∀ address, next.records.record? id address = books.records.record? id address) :
    next.LeavesIdle id member origin own where
  passes := spares.passes
  idle isHolder := by
    obtain ⟨circle, mem, rfl, idle⟩ := spares.idle isHolder
    exact ⟨circle, kept circle mem rfl, rfl, idle.congr (records _)⟩

/-- Every call spares the seat of somebody who was put out. -/
theorem Books.LeavesIdle.write (regular : books.Every Circle.Regular past)
    (numbered : books.Numbered) (spares : books.LeavesIdle id member origin own)
    (unreserved : ∀ circle ∈ effect.books.circles, Directory.reserved ∉ circle.members)
    (touches : Touches host moment books operation effect) :
    effect.books.LeavesIdle id member origin (own ++ entriesOf id effect.events) := by
  cases touches with
  | aside _ circles _ records others =>
      rw [entriesOf_other fun event mem => by simp [others event mem], List.append_nil]
      exact spares.aside (fun _ mem _ => circles ▸ mem) fun _ => by rw [records]
  | @founding founded admin _ _ _ circles _ records recorded =>
      have spared : effect.books.LeavesIdle id member origin own := by
        refine spares.aside (fun circle mem _ => ?_) fun _ => by rw [records]
        rw [circles]
        exact List.mem_append_left _ mem
      rw [recorded]
      by_cases here : founded.id = id
      · rw [entriesOf_own (by simp [Event.circle?, here])]
        constructor
        · rw [passesBy_append, spared.passes]
          cases holderOf (some member) own <;> rfl
        · rw [holderOf_append]
          exact spared.idle
      · rwa [entriesOf_other (by simp [Event.circle?, here]), List.append_nil]
  | @deed _ circle _ change _ found _ deed circles _ records recorded =>
      have isCircle := Books.mem_of_circle found
      have lasts := deed.lasts
      have continued := deed.continues
      rw [recorded]
      by_cases here : circle.id = id
      · subst here
        rw [entriesOf_own fun event mem => (continued event mem).circle]
        have isNext : change.circle ∈ effect.books.circles :=
          circles ▸ Books.mem_replaceCircle_self isCircle lasts.id
        cases isHolder : holderOf (some member) own with
        | none =>
            constructor
            · rw [passesBy_append, spares.passes, isHolder, passesBy_none]
              rfl
            · intro holder still
              rw [holderOf_append, isHolder, holderOf_none] at still
              exact absurd still (by simp)
        | some holder =>
            obtain ⟨other, mem, same, idle⟩ := spares.idle isHolder
            obtain rfl := numbered.eq_of_id_eq isCircle mem same
            obtain ⟨⟨⟨sound, named, -⟩, -⟩, held⟩ := regular other isCircle
            have spared := deed.spares sound named held idle (unreserved _ isNext)
            constructor
            · rw [passesBy_append, spares.passes, isHolder, spared.passes]
              rfl
            · intro last isLast
              rw [holderOf_append, isHolder] at isLast
              exact ⟨_, isNext, lasts.id, records ▸ spared.idle isLast⟩
      · rw [entriesOf_other fun event mem same => here
          (Option.some.inj ((continued event mem).circle.symm.trans same)), List.append_nil]
        refine spares.aside (fun other mem same => ?_) fun address => ?_
        · rw [circles]
          refine Books.mem_replaceCircle_other mem fun alike => here ?_
          rw [← lasts.id, ← alike, same]
        · rw [records]
          exact deed.record?_other (Ne.symm here) address

/-- All moves but a reset spare the seat of somebody who was put out. -/
theorem kept_leavesIdle (host : Host) (past : List Event) (id : Nat) (member : Address)
    (origin : Seat) :
    Kept host
      (fun passage => passage.move.isReset = false ∧
        AllFit (fun circle => Directory.reserved ∉ circle.members) passage)
      fun _ world => (world.books.Numbered ∧
        world.books.Every Circle.Regular world.trail.events) ∧
          world.LeavesIdle past id member origin where
  same := by
    rintro pending world next ⟨regular, recent, events, spares⟩ books trail _
    refine ⟨by rwa [books, trail], recent, by rw [trail, events], ?_⟩
    rwa [books]
  write := by
    rintro pending world operation effect written ⟨regular, recent, events, spares⟩ performed
      committed ⟨_, unreserved⟩
    have isBooks := World.books_commit committed
    have next := (circleInvariant_regular host).booksKept.write regular performed unreserved isBooks
    rw [← isBooks, ← World.events_commit committed] at next
    refine ⟨next, recent ++ effect.events, ?_, ?_⟩
    · rw [World.events_commit committed, events, List.append_assoc]
    · rw [entriesOf_append, isBooks]
      rw [AllFit, isBooks] at unreserved
      exact spares.write regular.2 regular.1 unreserved (performs_of_perform performed).touches
  carry := by
    rintro pending world transfer next spared made _
    obtain ⟨_, _, rfl⟩ := World.carry_eq_ok made
    exact spared
  mint spared _ _ := spared
  move spared _ _ := spared
  reset _ admitted := by simp [Move.isReset] at admitted

theorem World.LeavesIdle.start {world : World} {circle : Circle} {seat : Seat}
    (mem : circle ∈ world.books.circles)
    (out : circle.isEjected world.books.records member = true)
    (only : circle.seatsOf member = [seat]) :
    world.LeavesIdle world.trail.events circle.id member seat := by
  refine ⟨[], (List.append_nil _).symm, rfl, ?_⟩
  rintro _ ⟨⟩
  exact ⟨circle, mem, rfl, out, seat, only, .refl seat⟩

/-- What became of the seat between two worlds is told by the seat's holder at the first of them. -/
theorem World.LeavesIdle.dwindles {first second : World} {before after : Seat} {holder : Address}
    {recent : List Event} (numbered : second.books.Numbered)
    (told : first.trail.events = past ++ recent)
    (isHolder : holderOf (some member) (entriesOf id recent) = some holder)
    (spares : second.LeavesIdle first.trail.events id holder before)
    (hasSeat : second.HasSeat past id member after) : before.Dwindles after := by
  obtain ⟨more, continued, spared⟩ := spares
  obtain ⟨whole, last, circle, isWhole, isLast, mem, rfl, only⟩ := hasSeat
  have parts : whole = recent ++ more := by
    rw [continued, told, List.append_assoc] at isWhole
    exact (List.append_cancel_left isWhole).symm
  rw [parts, entriesOf_append, holderOf_append, isHolder] at isLast
  obtain ⟨other, isOther, same, idle⟩ := spared.idle isLast
  obtain rfl := numbered.eq_of_id_eq mem isOther same
  obtain ⟨seat, isSeat, dwindles⟩ := idle.seat
  rw [only] at isSeat
  exact List.head_eq_of_cons_eq isSeat ▸ dwindles

end

/-- A member is put out of a circle, in a run in which no member goes by the reserved address. In
all that follows without a reset, no entry of the circle names whoever holds the seat at that moment
as paid, as contributing or as covered, and until the seat is removed its holder is put out, has no
vote, and the seat has dwindled. Every move that undoes nothing lets it dwindle. -/
theorem ejection_is_final {host : Host} {now clock : Number} {nonce : String} {draws : Draws}
    {steps more : List Step} {world : World}
    (ends : world = (runAll host steps (.opened now clock nonce draws)).1)
    (unreserved : ∀ passage ∈ runCourse host (steps ++ more) (.opened now clock nonce draws),
      ∀ circle ∈ passage.world.books.circles, Directory.reserved ∉ circle.members)
    (lasting : ∀ passage ∈ runCourse host more world, passage.move.isReset = false) :
    ∀ circle ∈ world.books.circles, ∀ member ∈ circle.members,
      circle.isEjected world.books.records member = true →
      ∃ seat, circle.seatsOf member = [seat] ∧
        (∀ later, Visits host world more later → ∃ recent,
          later.trail.events = world.trail.events ++ recent ∧
          passesBy (some member) (entriesOf circle.id recent) = true ∧
          ∀ holder, holderOf (some member) (entriesOf circle.id recent) = some holder →
            ∃ next ∈ later.books.circles, next.id = circle.id ∧
              next.Idle later.books.records holder seat ∧
              holder ∉ next.dissolutionVotes ∧ holder ∉ next.proposalVotes) ∧
        ∀ front first second back, runCourse host more world = front ++ first :: second :: back →
          second.move ≠ .fail → ∀ before after,
            first.world.HasSeat world.trail.events circle.id member before →
            second.world.HasSeat world.trail.events circle.id member after →
            before.Dwindles after := by
  intro circle mem member isMember out
  rw [runCourse_append, ← ends, List.forall_mem_append] at unreserved
  have regular := (circleInvariant_regular host).booksKept.holds unreserved.1 (.inl ends)
  obtain ⟨⟨⟨-, -, rostered⟩, -⟩, -⟩ := regular.2 circle mem
  obtain ⟨seat, only⟩ := Circle.exists_seatsOf_eq_singleton rostered.nodup isMember
  have admitted passage (isPassage : passage ∈ runCourse host more world) :=
    And.intro (lasting passage isPassage) (unreserved.2 passage isPassage)
  have run := (kept_leavesIdle host world.trail.events circle.id member seat).run admitted
    ⟨regular, .start mem out only⟩
  refine ⟨seat, only, ?_, ?_⟩
  · intro later visits
    have kept : (later.books.Numbered ∧ later.books.Every Circle.Regular later.trail.events) ∧
        later.LeavesIdle world.trail.events circle.id member seat := by
      rcases visits with rfl | ⟨passage, isPassage, rfl⟩
      · exact run.1
      · exact (run.2 passage isPassage).elim fun _ kept => kept
    obtain ⟨⟨_, still⟩, recent, events, spares⟩ := kept
    refine ⟨recent, events, spares.passes, fun holder isHolder => ?_⟩
    obtain ⟨next, isNext, same, idle⟩ := spares.idle isHolder
    obtain ⟨⟨-, -, governed⟩, -⟩ := still next isNext
    exact ⟨next, isNext, same, idle, governed.not_voted idle.out⟩
  · intro front first second back parts proceeds before after hasBefore hasAfter
    have isFirst : first ∈ runCourse host more world := by simp [parts]
    have isSecond : second ∈ runCourse host more world := by simp [parts]
    obtain ⟨_, kept⟩ := run.2 first isFirst
    obtain ⟨start, last, advance, isStart, isLast⟩ :=
      (runCourse_path host [] more world).exists_advance parts
    obtain ⟨still, recent, events, spares⟩ := kept
    obtain ⟨whole, holder, next, told, isHolder, isNext, same, isBefore⟩ := hasBefore
    obtain rfl := List.append_cancel_left (events.symm.trans told)
    obtain ⟨other, isOther, alike, idle⟩ := spares.idle isHolder
    obtain rfl := still.1.eq_of_id_eq isNext isOther (alike.trans same.symm)
    have begins : first.world.LeavesIdle first.world.trail.events circle.id holder before :=
      same ▸ .start isNext idle.out isBefore
    rw [← isStart] at still begins
    have goesOn := (kept_leavesIdle host _ circle.id holder before).proceed advance proceeds
      (by rw [isLast]; exact admitted second isSecond) ⟨still, begins⟩
    rw [isLast, isStart] at goesOn
    exact goesOn.2.dwindles goesOn.1.1 told isHolder hasAfter

/-- A member who has paid in is put out and then hands the seat to someone else. The others dissolve
the circle, and the successor withdraws what was paid in. -/
theorem ejection_is_final_for_successor :
    let proof := Host.sample.proofOf
    let id := Number.ofNat 1
    let steps : List Step :=
      [.mint "USDC" "b" (.ofNat 100), .call (.createCircle (proof "a") .sample) [],
        .call (.join (proof "a") id) [], .call (.join (proof "b") id) [],
        .call (.finalize (proof "a") id) [], .call (.contribute (proof "b") id) [],
        .call (.eject (proof "a") id "b") []]
    let more : List Step :=
      [.call (.swap (proof "b") (proof "d") id) [], .call (.contribute (proof "d") id) [],
        .call (.proposeDissolution (proof "a") id) [], .call (.withdrawProRata (proof "d") id) []]
    let world := (runAll Host.sample steps World.sample).1
    let later := (runAll Host.sample more world).1
    later.ledger.balance "USDC" "d" = 100 ∧
      ∃ next ∈ later.books.circles, next.seatsOf "d" = [⟨"d", false, true, 0⟩] ∧
        next.Idle later.books.records "d" ⟨"b", false, true, 100⟩ ∧
        "d" ∉ next.dissolutionVotes := by
  intro proof id steps more world later
  have unreserved : ∀ passage ∈ runCourse Host.sample (steps ++ more) World.sample,
      ∀ circle ∈ passage.world.books.circles, Directory.reserved ∉ circle.members := by
    decide +kernel
  have lasting : ∀ passage ∈ runCourse Host.sample more world, passage.move.isReset = false := by
    decide +kernel
  have isCircle : (world.books.circles.map fun circle => (circle.id, circle.members,
      circle.seatsOf "b", circle.isEjected world.books.records "b")) =
        [(1, ["a", "b"], [⟨"b", false, true, 100⟩], true)] := by
    decide +kernel
  have recorded : later.trail.events =
      world.trail.events ++ [.memberSwapped 1 "b" "d", .circleDissolved 1 1,
        .proRataWithdrawn 1 "d" 100] := by
    decide +kernel
  have isNext : (later.books.circles.map fun circle => circle.seatsOf "d") =
      [[⟨"d", false, true, 0⟩]] := by
    decide +kernel
  have paid : later.ledger.balance "USDC" "d" = 100 := by decide +kernel
  have ends : world = (runAll Host.sample steps World.sample).1 := rfl
  have visits : Visits Host.sample world more later := .inl rfl
  clear_value world later
  obtain ⟨circle, only, facts⟩ := List.map_eq_singleton_iff.1 isCircle
  simp only [Prod.mk.injEq] at facts
  obtain ⟨number, members, isSeat, out⟩ := facts
  obtain ⟨last, isLast, emptied⟩ := List.map_eq_singleton_iff.1 isNext
  obtain ⟨seat, same, told, -⟩ := ejection_is_final ends unreserved lasting circle (by simp [only])
    "b" (by simp [members]) out
  obtain rfl := List.head_eq_of_cons_eq (isSeat.symm.trans same)
  obtain ⟨recent, events, -, still⟩ := told later visits
  obtain rfl := List.append_cancel_left (recorded.symm.trans events)
  rw [number] at still
  obtain ⟨next, mem, _, idle, silent, -⟩ := still "d" (by decide)
  rw [isLast, List.mem_singleton] at mem
  subst mem
  exact ⟨paid, next, by simp [isLast], emptied, idle, silent⟩

end SavingsCircle
