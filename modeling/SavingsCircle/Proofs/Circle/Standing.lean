import SavingsCircle.Proofs.Circle.Roster

/-!
# The standing of a member

What a member has paid in and received over all cycles is not kept anywhere but in the history of
the circle. The seat keeps a single amount, which every rollover nets against the payout of the
cycle and never lets fall below nothing. `Standing.Explains` ties the two together: the amount at
the seat is what the member has paid in less what was received, but for one contribution for each
cycle whose payout the rollover forgave.
-/

namespace SavingsCircle

/-- What the history of a circle says of one member. -/
structure Standing where
  /-- How many contributions the member has made. -/
  contributions : Nat
  /-- What the member's payouts come to before fees. -/
  received : Nat
  /-- How many cycles ended in which the member had a payout and made no contribution. -/
  forgiven : Nat
  /-- Whether the member has made a contribution in the running cycle. -/
  hasPaidIn : Bool
  /-- Whether the member has had a payout in the running cycle. -/
  isPaidOut : Bool
  deriving DecidableEq

namespace Standing

def blank : Standing := ⟨0, 0, 0, false, false⟩

/-- The standing of a member after one more event of the circle. -/
def next (member : Address) (standing : Standing) : Event → Standing
  | .contributionReceived _ contributor _ _ _ =>
    if contributor = member then
      { standing with contributions := standing.contributions + 1, hasPaidIn := true }
    else standing
  | .payoutProcessed _ recipient gross _ _ =>
    if recipient = member then
      { standing with received := standing.received + gross, isPaidOut := true }
    else standing
  | .groupRollover _ _ =>
    { standing with
      forgiven := standing.forgiven + if standing.isPaidOut && !standing.hasPaidIn then 1 else 0
      hasPaidIn := false
      isPaidOut := false }
  | _ => standing

def of (member : Address) (past : List Event) : Standing := past.foldl (next member) blank

theorem of_append (member : Address) (past recent : List Event) :
    of member (past ++ recent) = recent.foldl (next member) (of member past) :=
  List.foldl_append

theorem foldl_decisions {circle : Circle} {records : Records} (member : Address)
    (standing : Standing) (more : List Event) :
    ((circle.settle records).2 ++ more).foldl (next member) standing =
      more.foldl (next member) standing :=
  circle.foldl_settle records standing more fun _ _ decision => by cases decision <;> rfl

/-- A seat says what its holder's standing comes to. A member who was put out may still have paid in
for an earlier cycle that brought no payout. -/
structure Explains (standing : Standing) (contribution : Amount) (isEjected : Bool) (seat : Seat) :
    Prop where
  paidOut : seat.isPaidOut = standing.isPaidOut
  contributed : standing.hasPaidIn = true → seat.hasContributed = true
  entry : seat.paidIn ≤ contribution
  current : isEjected = false ∨ standing.isPaidOut = true →
    seat.paidIn = if standing.hasPaidIn then contribution else 0
  account : seat.paidIn + standing.received =
    contribution * (standing.contributions + standing.forgiven) +
      if standing.isPaidOut then contribution else 0

namespace Explains

variable {standing : Standing} {contribution : Amount} {isEjected : Bool} {seat : Seat}

theorem fresh (contribution : Amount) (isEjected : Bool) (member : Address) :
    Standing.blank.Explains contribution isEjected (.fresh member) where
  paidOut := rfl
  contributed := by simp [Standing.blank]
  entry := Nat.zero_le _
  current _ := rfl
  account := by simp [Standing.blank, Seat.fresh]

theorem mono (explains : standing.Explains contribution isEjected seat) {put : Bool}
    (out : put = false → isEjected = false) : standing.Explains contribution put seat :=
  { explains with current := fun when => explains.current (when.imp_left out) }

variable {circle : Nat} {member : Address}

/-- The member makes a contribution. -/
theorem contribute (explains : standing.Explains contribution isEjected seat)
    (safe : contribution ≤ Number.maxSafe) (active : isEjected = false)
    (idle : seat.hasContributed = false) {amount lateFee insuranceFee : Amount} :
    Explains
      (standing.next member (.contributionReceived circle member amount lateFee insuranceFee))
      contribution isEjected
      { seat with hasContributed := true, paidIn := Amount.add seat.paidIn contribution } := by
  have unpaid : standing.hasPaidIn = false := by
    cases paid : standing.hasPaidIn with
    | true => simp [explains.contributed paid] at idle
    | false => rfl
  have nothing : seat.paidIn = 0 := by simpa [unpaid] using explains.current (.inl active)
  have account := explains.account
  have added : Amount.add seat.paidIn contribution = contribution := by
    rw [nothing, Amount.add_eq (by simpa using safe), Nat.zero_add]
  rw [next, if_pos rfl, added]
  refine ⟨explains.paidOut, fun _ => rfl, Nat.le_refl _, fun _ => rfl, ?_⟩
  rw [nothing] at account
  dsimp only
  rw [Nat.add_right_comm, Nat.mul_succ]
  lia

theorem cover (explains : standing.Explains contribution isEjected seat) :
    standing.Explains contribution isEjected { seat with hasContributed := true } :=
  { explains with contributed := fun _ => rfl }

theorem payOut (explains : standing.Explains contribution isEjected seat)
    (active : isEjected = false) (unpaid : seat.isPaidOut = false) {net : Int} {fee : Amount} :
    (standing.next member (.payoutProcessed circle member contribution net fee)).Explains
      contribution isEjected { seat with isPaidOut := true } := by
  have account := explains.account
  rw [← explains.paidOut, unpaid] at account
  rw [next, if_pos rfl]
  refine ⟨rfl, explains.contributed, explains.entry, fun _ => explains.current (.inl active), ?_⟩
  simp only [Bool.false_eq_true, if_false, if_true] at account ⊢
  lia

/-- The next cycle begins. A payout of the cycle is netted against the member's contribution, and
forgiven if there was none. -/
theorem rollOver (explains : standing.Explains contribution isEjected seat)
    (safe : contribution ≤ Number.maxSafe) (complete : seat.isPaidOut = true ∨ isEjected = true)
    {cycle : Nat} :
    (standing.next member (.groupRollover circle cycle)).Explains contribution isEjected
      { seat with
        isPaidOut := false
        hasContributed := false
        paidIn := if seat.isPaidOut then Amount.sub seat.paidIn contribution
          else seat.paidIn } := by
  have account := explains.account
  rw [next]
  rw [explains.paidOut] at complete ⊢
  cases paidOut : standing.isPaidOut with
  | true =>
      have current := explains.current (.inr paidOut)
      -- The difference is nothing with a contribution and without: the seat forgets which it was.
      have netted : Amount.sub seat.paidIn contribution = 0 := by
        rw [Amount.sub_eq (Nat.le_trans explains.entry safe)]
        exact Nat.sub_eq_zero_of_le explains.entry
      simp only [if_true, netted]
      refine ⟨rfl, nofun, Nat.zero_le _, fun _ => rfl, ?_⟩
      cases paidIn : standing.hasPaidIn <;> simp [paidOut, paidIn, current] at account ⊢ <;> lia
  | false =>
      have out : isEjected = true := by simpa [paidOut] using complete
      simp only [paidOut] at account
      refine ⟨rfl, nofun, explains.entry, by simp [out], ?_⟩
      simpa using account

end Explains

end Standing

namespace Circle

/-- The seats of a member. Only someone who goes by the reserved address can have two. -/
def seatsOf (circle : Circle) (member : Address) : List Seat :=
  circle.seats.filter fun seat => seat.holder = member

/-- The standing of a member explains the last of their seats, unless the circle is dissolved and
the seat has been given back already. An address that the directory does not find has only fresh
seats. -/
structure Explained (circle : Circle) (records : Records) (member : Address)
    (standing : Standing) : Prop where
  last {seat} : (circle.seatsOf member).getLast? = some seat →
    standing.Explains circle.contribution (circle.isEjected records member) seat ∨
      circle.isDissolved = true ∧ seat.paidIn = 0
  absent : circle.position? member = none →
    standing = .blank ∧ ∀ seat ∈ circle.seatsOf member, seat = .fresh member

variable {circle next : Circle} {records others : Records} {member : Address}
variable {standing after : Standing} {position : Nat} {seat : Seat}

theorem seatsOf_congr (seats : next.seats = circle.seats) (member : Address) :
    next.seatsOf member = circle.seatsOf member := by
  rw [seatsOf, seats, seatsOf]

/-- A change of someone else's seat leaves the seats of a member alone. -/
theorem seatsOf_modify (here : circle.seats[position]? = some seat) {change : Seat → Seat}
    (seats : next.seats = circle.seats.modify position change) (apart : seat.holder ≠ member)
    (differ : (change seat).holder ≠ member) : next.seatsOf member = circle.seatsOf member := by
  rw [seatsOf, seats, seatsOf]
  clear seats
  generalize circle.seats = seats at here
  induction seats generalizing position with
  | nil => simp at here
  | cons first seats ih =>
      cases position with
      | zero =>
          obtain rfl := Option.some.inj here
          simp [apart, differ]
      | succ position =>
          rw [List.modify_succ_cons, List.filter_cons, List.filter_cons, ih here]

theorem seatsOf_vacateSeat {successor : Address}
    (here : circle.seats[position]? = some seat) (apart : seat.holder ≠ member)
    (differ : successor ≠ member) :
    (circle.vacateSeat position seat.holder successor).seatsOf member = circle.seatsOf member :=
  seatsOf_modify here rfl apart differ

/-- Removing someone else's seat leaves the seats of a member alone. -/
theorem seatsOf_removeSeat (here : circle.seats[position]? = some seat)
    (apart : seat.holder ≠ member) :
    (circle.removeSeat position).seatsOf member = circle.seatsOf member := by
  change (circle.seats.eraseIdx position).filter _ = circle.seats.filter _
  generalize circle.seats = seats at here
  induction seats generalizing position with
  | nil => simp at here
  | cons first seats ih =>
      cases position with
      | zero =>
          obtain rfl := Option.some.inj here
          simp [apart]
      | succ position =>
          rw [List.eraseIdx_cons_succ, List.filter_cons, List.filter_cons, ih here]

/-- Putting someone else in the place of someone else leaves the seats of a member alone. -/
theorem seatsOf_renameMember {former successor : Address} (apart : former ≠ member)
    (differ : successor ≠ member) :
    (circle.renameMember former successor).seatsOf member = circle.seatsOf member := by
  change (circle.seats.map fun seat => { seat with
    holder := renamed former successor seat.holder }).filter _ = circle.seats.filter _
  induction circle.seats with
  | nil => rfl
  | cons first seats ih =>
      rw [List.map_cons, List.filter_cons, List.filter_cons, ih]
      by_cases here : first.holder = former
      · simp [renamed, here, apart, differ]
      · simp [renamed, here]

/-- A successor who has no seat yet takes the seats over as they are. -/
theorem seatsOf_renameMember_self {former successor : Address}
    (isNew : successor ∉ circle.members) :
    (circle.renameMember former successor).seatsOf successor =
      (circle.seatsOf former).map fun seat => { seat with holder := successor } := by
  change (circle.seats.map fun seat => { seat with
    holder := renamed former successor seat.holder }).filter _ = _
  rw [List.filter_map, seatsOf]
  have same : circle.seats.filter ((fun seat : Seat => decide (seat.holder = successor)) ∘
      fun seat => { seat with holder := renamed former successor seat.holder }) =
        circle.seats.filter fun seat => seat.holder = former := by
    apply List.filter_congr
    intro seat mem
    have apart : seat.holder ≠ successor := fun same => isNew (same ▸ List.mem_map_of_mem mem)
    by_cases here : seat.holder = former
    · simp [here]
    · simp [renamed_of_ne here, here, apart]
  rw [same]
  apply List.map_congr_left
  intro seat mem
  rw [of_decide_eq_true (List.mem_filter.1 mem).2, renamed_self]

theorem seatsOf_rollOver (circle : Circle) (member : Address) :
    circle.rollOver.seatsOf member = (circle.seatsOf member).map fun seat =>
      { seat with
        isPaidOut := false
        hasContributed := false
        paidIn := if seat.isPaidOut then Amount.sub seat.paidIn circle.contribution
          else seat.paidIn } := by
  rw [seatsOf, Circle.rollOver, List.filter_map]
  rfl

theorem seatsOf_addSeat (circle : Circle) (newcomer member : Address) :
    (circle.addSeat newcomer).seatsOf member =
      circle.seatsOf member ++ if newcomer = member then [.fresh newcomer] else [] := by
  rw [seatsOf, addSeat, List.filter_append, seatsOf]
  by_cases same : newcomer = member <;> simp [Seat.fresh, same]

/-- The last seat of a member is the one that is found for them. -/
theorem Indexed.getLast?_seatsOf (indexed : circle.Indexed)
    (seated : circle.seat? member = some (position, seat)) :
    (circle.seatsOf member).getLast? = some seat := by
  obtain ⟨here, holder⟩ := indexed.holder_of_seat? seated
  obtain ⟨inside, isSeat⟩ := List.getElem?_eq_some_iff.1 here
  have last := (indexed.found (seat?_eq_some_iff.1 seated).1).2
  have parts : circle.seats =
      circle.seats.take position ++ seat :: circle.seats.drop (position + 1) := by
    rw [← isSeat, ← List.drop_eq_getElem_cons, List.take_append_drop]
  have others : (circle.seats.drop (position + 1)).filter (fun seat => seat.holder = member) =
      [] := by
    rw [List.filter_eq_nil_iff]
    intro other mem same
    apply last
    rw [members, ← List.map_drop]
    exact List.mem_map.2 ⟨other, mem, of_decide_eq_true same⟩
  rw [seatsOf, parts, List.filter_append, List.filter_cons_of_pos (by simp [holder]), others,
    List.getLast?_concat]

theorem seatsOf_eq_nil_iff : circle.seatsOf member = [] ↔ member ∉ circle.members := by
  simp [seatsOf, members, List.filter_eq_nil_iff]

namespace Explained

theorem explains_seat (explained : circle.Explained records member standing)
    (indexed : circle.Indexed) (isOpen : circle.isDissolved = false)
    (seated : circle.seat? member = some (position, seat)) :
    standing.Explains circle.contribution (circle.isEjected records member) seat := by
  rcases explained.last (indexed.getLast?_seatsOf seated) with explains | ⟨dissolved, _⟩
  · exact explains
  · simp [isOpen] at dissolved

theorem of_seat? (indexed : circle.Indexed)
    (seated : circle.seat? member = some (position, seat))
    (explains : standing.Explains circle.contribution (circle.isEjected records member) seat ∨
      circle.isDissolved = true ∧ seat.paidIn = 0) : circle.Explained records member standing where
  last isLast := by
    obtain rfl := Option.some.inj ((indexed.getLast?_seatsOf seated).symm.trans isLast)
    exact explains
  absent absent := by simp [(seat?_eq_some_iff.1 seated).1] at absent

theorem of_fresh (fresh : ∀ seat ∈ circle.seatsOf member, seat = .fresh member) :
    circle.Explained records member .blank where
  last isLast := by
    rw [fresh _ (List.mem_of_getLast? isLast)]
    exact .inl (.fresh ..)
  absent _ := ⟨rfl, fresh⟩

/-- What a call leaves alone stays explained. -/
theorem same (explained : circle.Explained records member standing) (lasts : circle.Lasts next)
    (seats : next.seatsOf member = circle.seatsOf member)
    (found : next.position? member = none → circle.position? member = none)
    (out : (circle.position? member).isSome → circle.isEjected records member = true →
      next.isEjected others member = true) : next.Explained others member standing := by
  cases seated : circle.position? member with
  | none =>
      obtain ⟨rfl, fresh⟩ := explained.absent seated
      exact of_fresh (seats ▸ fresh)
  | some position =>
      refine ⟨fun isLast => ?_, fun absent => by simp [found absent] at seated⟩
      rw [seats] at isLast
      rcases explained.last isLast with explains | ⟨dissolved, nothing⟩
      · rw [lasts.contribution]
        refine .inl (explains.mono fun active => ?_)
        apply Bool.eq_false_iff.2
        intro isOut
        simp [out (by simp [seated]) isOut] at active
      · exact .inr ⟨lasts.isDissolved dissolved, nothing⟩

/-- A member whose seats are left alone stays explained when the directory is drawn up afresh. -/
theorem redrawn (explained : circle.Explained records member standing) (indexed : circle.Indexed)
    (lasts : circle.Lasts next) (drawn : next.directory = .ofRoster next.members)
    (seats : next.seatsOf member = circle.seatsOf member)
    (out : (circle.position? member).isSome → circle.isEjected records member = true →
      next.isEjected others member = true) : next.Explained others member standing := by
  refine explained.same lasts seats (fun absent => ?_) out
  rw [position?, drawn, ← Option.not_isSome_iff_eq_none, Directory.isSome_position?_ofRoster,
    ← seatsOf_eq_nil_iff, seats, seatsOf_eq_nil_iff] at absent
  exact Option.eq_none_iff_forall_ne_some.2 fun position found =>
    absent (indexed.mem_of_position? found)

/-- One seat is changed. If it is the member's own, the standing has to explain the change. -/
theorem change (explained : circle.Explained records member standing) (indexed : circle.Indexed)
    (isIndexed : next.Indexed) (lasts : circle.Lasts next) {address : Address}
    (seated : circle.seat? address = some (position, seat)) {change : Seat → Seat}
    (seats : next.seats = circle.seats.modify position change)
    (directory : next.directory = circle.directory)
    (holder : (change seat).holder = seat.holder)
    (out : (circle.position? member).isSome → circle.isEjected records member = true →
      next.isEjected others member = true)
    (own : address = member →
      after.Explains next.contribution (next.isEjected others member) (change seat) ∨
        next.isDissolved = true ∧ (change seat).paidIn = 0)
    (other : address ≠ member → after = standing) : next.Explained others member after := by
  by_cases isOwn : address = member
  · exact of_seat? isIndexed (isOwn ▸ seat?_of_modify seated directory seats) (own isOwn)
  · rw [other isOwn]
    obtain ⟨here, rfl⟩ := indexed.holder_of_seat? seated
    refine explained.same lasts (seatsOf_modify here seats isOwn (holder ▸ isOwn)) ?_ out
    rw [position?, directory, position?]
    exact fun absent => absent

/-- The next cycle begins for everyone. -/
theorem rollOver (explained : circle.Explained records member standing)
    (safe : circle.contribution ≤ Number.maxSafe) (isOpen : circle.isDissolved = false)
    (complete : circle.isCycleComplete records = true) :
    circle.rollOver.Explained records member
      (standing.next member (.groupRollover circle.id circle.rollOver.cycle)) := by
  have seats := circle.seatsOf_rollOver member
  constructor
  · intro seat isLast
    rw [seats, List.getLast?_map, Option.map_eq_some_iff] at isLast
    obtain ⟨seat, isLast, rfl⟩ := isLast
    obtain ⟨mem, holder⟩ := List.mem_filter.1 (List.mem_of_getLast? isLast)
    rw [isCycleComplete, Bool.and_eq_true, List.all_eq_true] at complete
    have done := complete.2 seat mem
    rw [of_decide_eq_true holder, Bool.or_eq_true] at done
    rcases explained.last isLast with explains | ⟨dissolved, _⟩
    · exact .inl (explains.rollOver safe done)
    · simp [isOpen] at dissolved
  · intro absent
    obtain ⟨rfl, fresh⟩ := explained.absent absent
    refine ⟨rfl, fun seat mem => ?_⟩
    rw [seats, List.mem_map] at mem
    obtain ⟨seat, mem, rfl⟩ := mem
    rw [fresh seat mem]
    rfl

/-- What a dissolved circle gives back for a seat, if it is anything, makes up for what the member
has paid in and not received, and for the payouts that were forgiven. -/
theorem refund (explained : circle.Explained records member standing) (sound : circle.Sound)
    (seated : circle.seat? member = some (position, seat)) (some : 0 < circle.refundable seat) :
    circle.refundable seat + standing.received =
      circle.contribution * (standing.contributions + standing.forgiven) := by
  rcases explained.last (sound.indexed.getLast?_seatsOf seated) with explains | ⟨_, nothing⟩
  · have account := explains.account
    have entry := explains.entry
    rw [refundable_eq (Nat.le_trans entry sound.safe)] at some ⊢
    rw [← explains.paidOut] at account
    cases paidOut : seat.isPaidOut with
    | true =>
        rw [paidOut, if_pos rfl, Nat.sub_eq_zero_of_le entry] at some
        exact absurd some (Nat.lt_irrefl 0)
    | false => simpa [paidOut] using account
  · rw [refundable_eq (nothing ▸ Nat.zero_le _), nothing, Nat.zero_sub] at some
    exact absurd some (Nat.lt_irrefl 0)

end Explained

end Circle

end SavingsCircle
