import SavingsCircle.Proofs.Circle.Tally

/-!
# One contribution at a seat

No seat ever has more than one contribution paid in. A member contributes to a seat that has not
contributed in the running cycle, and nothing is paid in for such a seat as long as its holder takes
part: at the rollover the others are all paid out, and what they had paid in is netted.

This needs no assumption on the names of members. Someone who goes by the reserved address can sit
in a circle unfound, even twice, and share a record with somebody who is swapped in under that name.
Nothing is paid in for such seats, because nobody can contribute who is not found.
-/

namespace SavingsCircle

/-- What is paid in for a seat: at most one contribution, and nothing where the holder takes part
and has not contributed, or is not found. -/
structure Seat.Entered (contribution : Amount) (takesPart isFound : Address → Prop) (seat : Seat) :
    Prop where
  entry : seat.paidIn ≤ contribution
  idle : seat.hasContributed = false → takesPart seat.holder → seat.paidIn = 0
  unfound : ¬isFound seat.holder → seat.paidIn = 0

namespace Seat.Entered

variable {contribution : Amount} {takesPart isFound others found : Address → Prop} {seat : Seat}

theorem of_nothing (nothing : seat.paidIn = 0) : seat.Entered contribution takesPart isFound where
  entry := nothing ▸ Nat.zero_le _
  idle _ _ := nothing
  unfound _ := nothing

theorem mono (entered : seat.Entered contribution takesPart isFound)
    (still : others seat.holder → takesPart seat.holder)
    (finds : isFound seat.holder → found seat.holder) : seat.Entered contribution others found where
  entry := entered.entry
  idle idle other := entered.idle idle (still other)
  unfound absent := entered.unfound fun known => absent (finds known)

theorem of_contributed (entry : seat.paidIn ≤ contribution)
    (contributed : seat.hasContributed = true) (known : isFound seat.holder) :
    seat.Entered contribution takesPart isFound where
  entry := entry
  idle idle := by simp [contributed] at idle
  unfound absent := absurd known absent

end Seat.Entered

namespace Circle

def TakesPart (circle : Circle) (records : Records) (address : Address) : Prop :=
  ∃ status, (records.record? circle.id address).map (·.status) = some status ∧ status ≠ .ejected

def Finds (circle : Circle) (address : Address) : Prop := (circle.position? address).isSome

/-- No seat has more paid in than it should. -/
def Entered (circle : Circle) (records : Records) : Prop :=
  ∀ seat ∈ circle.seats,
    seat.Entered circle.contribution (circle.TakesPart records) circle.Finds

variable {circle next : Circle} {records others : Records} {address : Address}

theorem takesPart_congr (id : next.id = circle.id)
    (status : (others.record? circle.id address).map (·.status) =
      (records.record? circle.id address).map (·.status)) :
    next.TakesPart others address ↔ circle.TakesPart records address := by
  rw [TakesPart, TakesPart, id, status]

theorem not_takesPart_of_isEjected (out : circle.isEjected records address = true) :
    ¬circle.TakesPart records address := by
  rintro ⟨status, isStatus, differ⟩
  rw [isEjected_iff.1 out] at isStatus
  exact differ (Option.some.inj isStatus).symm

theorem takesPart_of_recorded {record : MemberRecord}
    (recorded : records.record? circle.id address = some record)
    (active : circle.isEjected records address = false) : circle.TakesPart records address := by
  refine ⟨record.status, by rw [recorded]; rfl, fun out => ?_⟩
  rw [isEjected_iff.2 (by rw [recorded, Option.map_some, out])] at active
  cases active

theorem finds_of_reindexed {seat : Seat} (mem : seat ∈ circle.seats) :
    circle.reindexed.Finds seat.holder :=
  Directory.isSome_position?_ofRoster.2 (List.mem_map_of_mem mem)

theorem Entered.mono (entered : circle.Entered records)
    (contribution : next.contribution = circle.contribution)
    (still : ∀ address, next.TakesPart others address → circle.TakesPart records address)
    (finds : ∀ address, circle.Finds address → next.Finds address) :
    ∀ seat ∈ circle.seats,
      seat.Entered next.contribution (next.TakesPart others) next.Finds := by
  intro seat mem
  rw [contribution]
  exact (entered seat mem).mono (still _) (finds _)

theorem Entered.congr (entered : circle.Entered records) (id : next.id = circle.id)
    (contribution : next.contribution = circle.contribution) (seats : next.seats = circle.seats)
    (directory : next.directory = circle.directory) : next.Entered records := by
  intro seat mem
  rw [seats] at mem
  refine entered.mono contribution (fun _ => (takesPart_congr id rfl).1) (fun _ known => ?_)
    seat mem
  rwa [Finds, position?, directory]

theorem Entered.settle (entered : circle.Entered records) (voters : Records) :
    (circle.settle voters).1.Entered records :=
  entered.congr id_settle contribution_settle seats_settle directory_settle

/-- Whoever takes part once a status is set took part before, if that is not how the member comes
back. -/
theorem takesPart_of_update {member : Address} {record : MemberRecord} {status : Status}
    (recorded : records.record? circle.id member = some record)
    (stays : status ≠ .ejected → record.status ≠ .ejected)
    (takesPart : circle.TakesPart
      (records.update circle.id member fun _ => { record with status }) address) :
    circle.TakesPart records address := by
  obtain ⟨now, isNow, differ⟩ := takesPart
  rw [Records.record?_update _ _ _ _ _ fun _ _ => by
    simpa using Records.isOf_of_record? recorded] at isNow
  split at isNow
  · next theirs =>
    obtain ⟨-, rfl⟩ := theirs
    rw [recorded] at isNow
    obtain rfl : status = now := by simpa using isNow
    exact ⟨record.status, by rw [recorded]; rfl, stays differ⟩
  · exact ⟨now, isNow, differ⟩

theorem takesPart_of_enroll {member : Address} {index : Nat} {now : Number}
    (differ : address ≠ member)
    (takesPart : circle.TakesPart (records.enroll circle.id member index now) address) :
    circle.TakesPart records address := by
  obtain ⟨status, isStatus, active⟩ := takesPart
  rw [Records.record?_enroll, if_neg fun same => differ same.2] at isStatus
  exact ⟨status, isStatus, active⟩

theorem Entered.paidIn_eq_zero (entered : circle.Entered records) {seat : Seat}
    (mem : seat ∈ circle.seats) (absent : circle.position? seat.holder = none) :
    seat.paidIn = 0 :=
  (entered seat mem).unfound (by simp [Finds, absent])

theorem Entered.addSeat (entered : circle.Entered records) {member : Address}
    (absent : circle.position? member = none) {index : Nat} {now : Number} :
    (circle.addSeat member).Entered (records.enroll circle.id member index now) := by
  have finds (address : Address) (known : circle.Finds address) :
      (circle.addSeat member).Finds address := by
    rw [Finds, position?_addSeat]
    split
    · rfl
    · exact known
  refine List.forall_mem_append.2 ⟨fun seat mem => ?_, ?_⟩
  · by_cases theirs : seat.holder = member
    · exact .of_nothing (entered.paidIn_eq_zero mem (theirs ▸ absent))
    · exact (entered seat mem).mono (takesPart_of_enroll theirs) (finds _)
  · exact List.forall_mem_singleton.2 (.of_nothing rfl)

theorem Entered.removeSeat (entered : circle.Entered records) {member : Address} {position : Nat}
    {directory : Directory} :
    (circle.removeSeat position).Entered
      ((records.reindex circle.id directory).remove circle.id member) := by
  intro seat mem
  have isSeat : seat ∈ circle.seats := List.mem_of_mem_eraseIdx mem
  refine (entered seat isSeat).mono ?_ fun _ => finds_of_reindexed mem
  rintro ⟨status, isStatus, active⟩
  refine ⟨status, ?_, active⟩
  rw [Records.record?_remove] at isStatus
  split at isStatus
  · cases isStatus
  · exact (Records.status_reindex ..).symm.trans isStatus

/-- Whoever takes part once a seat is handed on took part before, or has the seat of one who did. -/
theorem takesPart_of_renameMember {former successor : Address} {record : MemberRecord}
    {position : Nat} {now : Number} {directory : Directory}
    (recorded : records.record? circle.id former = some record) (apart : address ≠ successor)
    (takesPart : (circle.renameMember former successor).TakesPart
      ((((records.remove circle.id former).enroll circle.id successor position now).update
        circle.id successor fun fresh =>
          { fresh with
            contributionCount := record.contributionCount
            lastContributionAt := record.lastContributionAt
            status := record.status }).reindex circle.id directory)
      (renamed former successor address)) :
    circle.TakesPart records address := by
  obtain ⟨status, isStatus, active⟩ := takesPart
  refine ⟨status, ?_, active⟩
  rw [Records.status_reindex] at isStatus
  change Option.map _ (Records.record? _ circle.id _) = _ at isStatus
  rw [Records.record?_update _ _ _ _ _ (by simp), Records.record?_enroll,
    Records.record?_remove] at isStatus
  by_cases here : address = former
  · subst here
    simpa [recorded] using isStatus
  · simpa [renamed_of_ne here, apart, here] using isStatus

theorem Entered.renameMember (entered : circle.Entered records) {former successor : Address}
    {record : MemberRecord} {position : Nat} {now : Number}
    (recorded : records.record? circle.id former = some record)
    (absent : circle.position? successor = none) :
    (circle.renameMember former successor).Entered
      ((((records.remove circle.id former).enroll circle.id successor position now).update
        circle.id successor fun fresh =>
          { fresh with
            contributionCount := record.contributionCount
            lastContributionAt := record.lastContributionAt
            status := record.status }).reindex circle.id
              (circle.renameMember former successor).directory) := by
  intro renamed mem
  have found := finds_of_reindexed mem
  obtain ⟨seat, isSeat, rfl⟩ := List.mem_map.1 mem
  by_cases unfound : seat.holder = successor
  · have nothing : seat.paidIn = 0 :=
      entered.paidIn_eq_zero isSeat (by rw [unfound]; exact absent)
    exact .of_nothing nothing
  · have still := entered seat isSeat
    refine ⟨still.entry, fun idle active => still.idle idle ?_, fun lost => absurd found lost⟩
    exact takesPart_of_renameMember recorded unfound active

/-- Whoever takes part once a vacancy is filled took part before, unless it is the one who came. -/
theorem takesPart_of_vacateSeat {exiting successor : Address} {position : Nat} {now : Number}
    {directory : Directory} (apart : address ≠ successor)
    (takesPart : (circle.vacateSeat position exiting successor).TakesPart
      (((records.update circle.id exiting fun record =>
        { record with status := .ejected }).reindex circle.id directory).enroll circle.id successor
          position now) address) :
    circle.TakesPart records address := by
  obtain ⟨status, isStatus, active⟩ := takesPart
  refine ⟨status, ?_, active⟩
  change Option.map _ (Records.record? _ circle.id _) = _ at isStatus
  rw [Records.record?_enroll, if_neg fun same => apart same.2, Records.status_reindex,
    Records.record?_update _ _ _ _ _ (by simp)] at isStatus
  split at isStatus
  · simp only [Option.map_map, Option.map_eq_some_iff, Function.comp_apply] at isStatus
    obtain ⟨_, _, rfl⟩ := isStatus
    exact absurd rfl active
  · exact isStatus

theorem Entered.vacateSeat (entered : circle.Entered records) {exiting successor : Address}
    {position : Nat} {seat : Seat} {now : Number} (here : circle.seats[position]? = some seat)
    (absent : circle.position? successor = none) :
    (circle.vacateSeat position exiting successor).Entered
      (((records.update circle.id exiting fun record =>
        { record with status := .ejected }).reindex circle.id
          (circle.vacateSeat position exiting successor).directory).enroll circle.id successor
            position now) := by
  intro seat mem
  have found := finds_of_reindexed mem
  rcases List.mem_cons.1 ((modify_perm_cons_eraseIdx here _).mem_iff.1 mem) with rfl | other
  · exact .of_nothing rfl
  · have isSeat : seat ∈ circle.seats := List.mem_of_mem_eraseIdx other
    by_cases unfound : seat.holder = successor
    · exact .of_nothing (entered.paidIn_eq_zero isSeat (by rw [unfound]; exact absent))
    · exact (entered seat isSeat).mono (takesPart_of_vacateSeat unfound) fun _ => found

/-- A contribution is the first one at its seat. -/
theorem Entered.contribute (entered : circle.Entered records) (sound : circle.Sound)
    {position : Nat} {seat : Seat} (seated : circle.seat? address = some (position, seat))
    (fresh : seat.hasContributed = false) (takesPart : circle.TakesPart records address)
    (still : ∀ address, circle.TakesPart others address → circle.TakesPart records address) :
    (circle.updateSeat position fun seat =>
      { seat with
        hasContributed := true
        paidIn := Amount.add seat.paidIn circle.contribution }).Entered others := by
  obtain ⟨here, holder⟩ := sound.indexed.holder_of_seat? seated
  obtain ⟨found, _⟩ := seat?_eq_some_iff.1 seated
  have nothing : seat.paidIn = 0 :=
    (entered seat (List.mem_of_getElem? here)).idle fresh (holder ▸ takesPart)
  have first : Amount.add seat.paidIn circle.contribution = circle.contribution := by
    rw [nothing, Amount.add_eq (by simpa using sound.safe), Nat.zero_add]
  have others : ∀ seat ∈ circle.seats,
      seat.Entered circle.contribution (circle.TakesPart others) circle.Finds :=
    entered.mono rfl still fun _ known => known
  refine forall_mem_modify here others (.of_contributed ?_ rfl ?_)
  · exact first.le
  · change (circle.position? seat.holder).isSome
    rw [holder, found, Option.isSome_some]

/-- The cycle begins anew: nothing is left of what was paid in for the seats that were paid out, and
the holders of the others do not take part. -/
theorem Entered.rollOver (sound : circle.Sound) (entered : circle.Entered records)
    (complete : circle.isCycleComplete records = true) :
    circle.rollOver.Entered records := by
  intro renewed mem
  obtain ⟨seat, isSeat, rfl⟩ := List.mem_map.1 mem
  have still := entered seat isSeat
  have done : seat.isPaidOut = true ∨ circle.isEjected records seat.holder = true := by
    simp only [isCycleComplete, Bool.and_eq_true, List.all_eq_true, Bool.or_eq_true] at complete
    exact complete.2 seat isSeat
  cases paid : seat.isPaidOut with
  | true =>
      refine .of_nothing ?_
      rw [if_pos rfl, Amount.sub_eq (still.entry.trans sound.safe)]
      exact Nat.sub_eq_zero_of_le still.entry
  | false =>
      have out := done.resolve_left (by simp [paid])
      exact ⟨still.entry, fun _ active => absurd active (not_takesPart_of_isEjected out),
        still.unfound⟩

end Circle

theorem Circle.Entered.paidIn_le {circle : Circle} {records : Records}
    (entered : circle.Entered records) (sound : circle.Sound) {seat : Seat}
    (mem : seat ∈ circle.seats) : seat.paidIn ≤ Number.maxSafe :=
  (entered seat mem).entry.trans sound.safe

variable {host : Host} {moment : Moment} {books : Books} {circle : Circle} {caller : Address}
variable {operation : Operation} {change : Change}

theorem Swapping.entered {former successor : Address} (entered : circle.Entered books.records)
    (swapping : Swapping moment books circle former successor change) :
    change.circle.Entered change.records := by
  cases swapping with
  | same => exact entered
  | renamed _ _ _ absent recorded isRenamed areRecords =>
      subst isRenamed areRecords
      exact entered.renameMember recorded absent

/-- No call lets a seat have more paid in than it should. -/
theorem Deed.entered (sound : circle.Sound) (entered : circle.Entered books.records)
    (deed : Deed host moment books circle caller operation change) :
    change.circle.Entered change.records := by
  cases deed with
  | handOver | finalizeAgain | finalize | withdrawNothing => exact entered
  | join _ absent => exact entered.addSeat absent
  | kick _ _ _ _ _ _ _ _ _ isRemoved areRecords isKept =>
      subst isKept areRecords isRemoved
      refine Circle.Entered.settle ?_ _
      exact entered.removeSeat.congr rfl rfl rfl rfl
  | swap _ swapping | swapByAdmin swapping => exact swapping.entered entered
  | eject _ _ recorded _ areRecords =>
      subst areRecords
      refine Circle.Entered.settle ?_ _
      exact entered.mono rfl (fun _ => Circle.takesPart_of_update recorded nofun) fun _ => id
  | requestExit _ _ recorded active =>
      exact entered.mono rfl (fun _ => Circle.takesPart_of_update recorded fun _ out => by
        simp [active] at out) fun _ => id
  | fillVacancy _ _ seated _ _ absent _ _ isVacated areRecords isKept =>
      subst isKept areRecords isVacated
      have here := (Circle.seat?_eq_some_iff.1 seated).2
      refine Circle.Entered.settle ?_ _
      exact (entered.vacateSeat here absent).congr rfl rfl rfl rfl
  | processPayout _ _ seated _ _ _ _ _ isPaid =>
      subst isPaid
      have here := (Circle.seat?_eq_some_iff.1 (Circle.seat?_of_activeSeat? seated).2).2
      have still := entered _ (List.mem_of_getElem? here)
      exact forall_mem_modify here entered ⟨still.entry, still.idle, still.unfound⟩
  | rollover _ complete => exact entered.rollOver sound complete
  | contribute _ seated fresh recorded =>
      obtain ⟨active, seated⟩ := Circle.seat?_of_activeSeat? seated
      have takesPart := Circle.takesPart_of_recorded recorded active
      refine Circle.Entered.congr
        (entered.contribute sound seated fresh takesPart fun address => ?_) rfl rfl rfl rfl
      refine (Circle.takesPart_congr rfl ?_).1
      exact Records.map_record?_update _ _ _ _ _ address (by simp) fun _ _ => rfl
  | coverMember _ seated _ _ _ isCovered =>
      subst isCovered
      have here := (Circle.seat?_eq_some_iff.1 (Circle.seat?_of_activeSeat? seated).2).2
      have still := entered _ (List.mem_of_getElem? here)
      exact forall_mem_modify here entered ⟨still.entry, nofun, still.unfound⟩
  | proposeDissolution | voteDissolution | proposeLateFee | voteLateFee =>
      refine Circle.Entered.settle ?_ _
      exact entered.congr rfl rfl rfl rfl
  | withdrawProRata _ seated =>
      have here := (Circle.seat?_eq_some_iff.1 seated).2
      exact forall_mem_modify here entered (.of_nothing rfl)

theorem circleInvariant_entered (host : Host) :
    CircleInvariant host (fun _ => True) fun circle records _ =>
      circle.Sound ∧ circle.Entered records where
  congr holds same := by
    refine ⟨holds.1, holds.2.mono rfl (fun address => ?_) fun _ known => known⟩
    exact (Circle.takesPart_congr rfl (by rw [same])).1
  founded isNew := ⟨isNew.sound, by simp [Circle.Entered, isNew.seats]⟩
  deed holds deed _ := ⟨deed.sound holds.1, deed.entered holds.1 holds.2⟩

end SavingsCircle
