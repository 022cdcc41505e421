import Mathlib.Data.List.Nodup
import SavingsCircle.Proofs.Circle.Register
import SavingsCircle.Proofs.Circle.Roster
import SavingsCircle.Text.Units.Lemmas

/-!
# The seating of a circle

A roster is kept four times over: as the seats, as the directory, as the payout queue once it is
fixed, and as the positions in the member records. `Circle.Rostered` says that the four agree. It
speaks of no seat but by its holder, so only calls that move or rename a holder bear on it: these
draw up the directory afresh and bring the records in line with it, and `index_of_reindexed` is the
reason why the records agree afterwards.
-/

namespace SavingsCircle

/-- In a list that repeats nothing, leaving out an element by its value or by its place is one. -/
theorem filter_eq_eraseIdx {α : Type} [BEq α] [LawfulBEq α] {xs : List α} (nodup : xs.Nodup)
    {i : Nat} {x : α} (here : xs[i]? = some x) :
    (xs.filter fun y => some y != some x) = xs.eraseIdx i := by
  obtain ⟨inside, rfl⟩ := List.getElem?_eq_some_iff.1 here
  rw [← nodup.erase_getElem i inside, nodup.erase_eq_filter]
  apply List.filter_congr
  intro y _
  rfl

/-- In a list that repeats nothing, renaming an element changes the place where it stands. -/
theorem map_renamed_eq_set {roster : List Address} (nodup : roster.Nodup) {position : Nat}
    {former : Address} (here : roster[position]? = some former) (successor : Address) :
    roster.map (Circle.renamed former successor) = roster.set position successor := by
  obtain ⟨inside, isFormer⟩ := List.getElem?_eq_some_iff.1 here
  apply List.ext_getElem (by simp)
  intro i bound _
  have within : i < roster.length := by simpa using bound
  rw [List.getElem_map, List.getElem_set]
  by_cases same : position = i
  · subst same
    rw [if_pos rfl, isFormer, Circle.renamed_self]
  · have differ : roster[i] ≠ former := by
      rw [← isFormer]
      exact fun equal => same ((nodup.getElem_inj_iff).1 equal).symm
    rw [if_neg same, Circle.renamed_of_ne differ]

theorem perm_of_isPermutation {queue roster : List Address}
    (permuted : isPermutation queue roster = true) : queue.Perm roster := by
  have sorted : Text.sorted queue = Text.sorted roster := by simpa [isPermutation] using permuted
  exact ((Text.perm_sorted queue).symm.trans (.of_eq sorted)).trans (Text.perm_sorted _)

namespace Circle

/-- Nobody sits twice, joining has not overfilled the roster, the directory lists it, the queue is a
reordering of it once it is fixed, and the records of the members have their positions. -/
structure Rostered (circle : Circle) (records : Records) : Prop where
  nodup : circle.members.Nodup
  size : circle.members.length ≤ maxMembers
  directory : circle.directory.entries = circle.members.zipIdx
  queue : circle.payoutQueue = [] ∨ circle.payoutQueue.Perm circle.members
  recorded {position address} : circle.members[position]? = some address →
    (records.record? circle.id address).map (·.index) = some position

theorem entries_reindexed {circle : Circle} (nodup : circle.members.Nodup) :
    circle.reindexed.directory.entries = circle.members.zipIdx :=
  Directory.entriesFrom_of_nodup 0 nodup

/-- Once the records are brought in line with a directory drawn up afresh, a member's record has
the member's position. -/
theorem index_of_reindexed {circle : Circle} {records : Records} {position : Nat}
    {address : Address} (nodup : circle.members.Nodup)
    (stands : circle.members[position]? = some address)
    (recorded : (records.record? circle.id address).isSome) :
    ((records.reindex circle.id circle.reindexed.directory).record? circle.id address).map
      (·.index) = some position := by
  obtain ⟨record, found⟩ := Option.isSome_iff_exists.1 recorded
  have placed : circle.reindexed.directory.position? address = some position :=
    (Directory.position?_ofRoster_of_nodup nodup).2 stands
  rw [Records.record?_reindex, found]
  simp [placed]

namespace Rostered

variable {circle next : Circle} {records others : Records} {position : Nat}
variable {member former successor : Address}

theorem isSome_record? (rostered : circle.Rostered records) (mem : member ∈ circle.members) :
    (records.record? circle.id member).isSome := by
  obtain ⟨position, stands⟩ := List.mem_iff_getElem?.1 mem
  have indexed := rostered.recorded stands
  cases found : records.record? circle.id member with
  | none => simp [found] at indexed
  | some _ => rfl

/-- Only holders, the queue and positions matter. -/
theorem congr (rostered : circle.Rostered records) (id : next.id = circle.id)
    (members : next.members = circle.members) (directory : next.directory = circle.directory)
    (queue : next.payoutQueue = circle.payoutQueue)
    (indices : ∀ address, (others.record? circle.id address).map (·.index) =
      (records.record? circle.id address).map (·.index)) :
    next.Rostered others where
  nodup := members ▸ rostered.nodup
  size := members ▸ rostered.size
  directory := by
    rw [directory, members]
    exact rostered.directory
  queue := by
    rw [queue, members]
    exact rostered.queue
  recorded stands := by
    rw [members] at stands
    rw [id, indices]
    exact rostered.recorded stands

theorem settle (rostered : circle.Rostered records) :
    (circle.settle others).1.Rostered records :=
  rostered.congr id_settle members_settle directory_settle payoutQueue_settle fun _ => rfl

theorem setFunds (rostered : circle.Rostered records) {balance reserve : Amount} :
    Rostered { circle with balance, reserve } records :=
  rostered.congr rfl rfl rfl rfl fun _ => rfl

theorem setStatus (rostered : circle.Rostered records) {record : MemberRecord}
    (recorded : records.record? circle.id member = some record) (status : Status) :
    circle.Rostered (records.update circle.id member fun _ => { record with status }) := by
  refine rostered.congr rfl rfl rfl rfl fun address => ?_
  apply Records.map_record?_update
  · simpa using fun _ _ _ => Records.isOf_of_record? recorded
  · intro other found
    rw [recorded] at found
    exact Option.some.inj found ▸ rfl

/-- Someone new takes a seat at the end. -/
theorem addSeat (rostered : circle.Rostered records) (isNew : member ∉ circle.members)
    (named : member ≠ Directory.reserved) (room : circle.seats.length < maxMembers)
    (unqueued : circle.payoutQueue = []) {now : Number} :
    (circle.addSeat member).Rostered
      (records.enroll circle.id member circle.seats.length now) where
  nodup := by
    rw [members_addSeat]
    exact rostered.nodup.append (List.nodup_singleton _) (List.disjoint_singleton.2 isNew)
  size := by
    rw [members_addSeat, List.length_append, members, List.length_map]
    exact room
  directory := by
    have absent : member ∉ circle.directory.entries.map (·.1) := by
      rw [rostered.directory, List.zipIdx_map_fst]
      exact isNew
    change (circle.directory.enter member circle.seats.length).entries = _
    rw [Directory.entries_enter _ absent named, rostered.directory, members_addSeat,
      List.zipIdx_append]
    simp [members]
  queue := .inl unqueued
  recorded := by
    intro position address stands
    change Option.map _ (Records.record? _ circle.id address) = _
    rw [members_addSeat] at stands
    rw [Records.record?_enroll]
    by_cases inside : position < circle.members.length
    · rw [List.getElem?_append_left inside] at stands
      have differ : address ≠ member := fun same => isNew (same ▸ List.mem_of_getElem? stands)
      rw [if_neg (by simp [differ])]
      exact rostered.recorded stands
    · rw [List.getElem?_append_right (Nat.le_of_not_lt inside), List.getElem?_singleton] at stands
      split at stands
      · have last : circle.seats.length = position := by
          rw [members, List.length_map] at *
          omega
        rw [if_pos ⟨rfl, (Option.some.inj stands).symm⟩, ← last]
        rfl
      · simp at stands

/-- A seat is removed. -/
theorem removeSeat (rostered : circle.Rostered records)
    (stands : circle.members[position]? = some member) :
    (circle.removeSeat position).Rostered
      ((records.reindex circle.id (circle.removeSeat position).directory).remove circle.id
        member) := by
  have fewer : (circle.members.eraseIdx position).Sublist circle.members :=
    List.eraseIdx_sublist ..
  have nodup : (circle.removeSeat position).members.Nodup := by
    rw [members_removeSeat]
    exact rostered.nodup.sublist fewer
  have left := filter_eq_eraseIdx rostered.nodup stands
  constructor
  · exact nodup
  · rw [members_removeSeat]
    exact Nat.le_trans fewer.length_le rostered.size
  · exact entries_reindexed nodup
  · have isHolder : (circle.seats[position]?).map (·.holder) = some member := by
      rw [← stands, members, List.getElem?_map]
    change (circle.payoutQueue.filter fun address => some address != _) = [] ∨
      (circle.payoutQueue.filter fun address => some address != _).Perm _
    rw [isHolder, members_removeSeat, ← left]
    rcases rostered.queue with empty | queued
    · exact .inl (by rw [empty, List.filter_nil])
    · exact .inr (queued.filter _)
  · intro place address remains
    have kept : address ∈ circle.members.filter fun other => some other != some member := by
      rw [left, ← members_removeSeat]
      exact List.mem_of_getElem? remains
    obtain ⟨mem, differ⟩ := List.mem_filter.1 kept
    change Option.map _ (Records.record? _ circle.id address) = _
    rw [Records.record?_remove, if_neg (by simpa using differ)]
    exact index_of_reindexed nodup remains (rostered.isSome_record? mem)

theorem queue_renamed (rostered : circle.Rostered records) (former successor : Address) :
    circle.payoutQueue.map (renamed former successor) = [] ∨
      (circle.payoutQueue.map (renamed former successor)).Perm
        (circle.members.map (renamed former successor)) :=
  rostered.queue.imp (fun empty => by rw [empty, List.map_nil]) (·.map _)

/-- Someone new takes the place of a member, whose record is handed on. -/
theorem renameMember (rostered : circle.Rostered records) (isNew : successor ∉ circle.members)
    {index : Nat} {now : Number} {restore : MemberRecord → MemberRecord}
    (keeps : ∀ record, record.isOf circle.id successor = true →
      (restore record).isOf circle.id successor = true) :
    (circle.renameMember former successor).Rostered
      ((((records.remove circle.id former).enroll circle.id successor index now).update circle.id
        successor restore).reindex circle.id (circle.renameMember former successor).directory) := by
  have nodup : (circle.renameMember former successor).members.Nodup := by
    rw [members_renameMember]
    exact nodup_map_renamed rostered.nodup isNew
  constructor
  · exact nodup
  · rw [members_renameMember, List.length_map]
    exact rostered.size
  · exact entries_reindexed nodup
  · rw [members_renameMember]
    exact rostered.queue_renamed former successor
  · intro place address stands
    refine index_of_reindexed nodup stands ?_
    have mem := List.mem_of_getElem? stands
    rw [members_renameMember] at mem
    obtain ⟨other, isOther, rfl⟩ := List.mem_map.1 mem
    change (Records.record? _ circle.id _).isSome = true
    rw [Records.record?_update _ _ _ _ _ keeps, Records.record?_enroll, Records.record?_remove]
    by_cases here : other = former
    -- The record of the former member is removed, and the successor's is found in its place.
    · simp [here]
    · have apart : other ≠ successor := fun same => isNew (same ▸ isOther)
      rw [renamed_of_ne here, if_neg (by simp [apart]), if_neg (by simp [apart]),
        if_neg (by simp [here])]
      exact rostered.isSome_record? isOther

/-- Someone new takes the seat of a member who leaves. -/
theorem vacateSeat (rostered : circle.Rostered records) (isNew : successor ∉ circle.members)
    (stands : circle.members[position]? = some former) {now : Number}
    {change : MemberRecord → MemberRecord}
    (keeps : ∀ record, record.isOf circle.id former = true →
      (change record).isOf circle.id former = true) :
    (circle.vacateSeat position former successor).Rostered
      (((records.update circle.id former change).reindex circle.id
        (circle.vacateSeat position former successor).directory).enroll circle.id successor
          position now) := by
  have renames := map_renamed_eq_set rostered.nodup stands successor
  have nodup : (circle.vacateSeat position former successor).members.Nodup := by
    rw [members_vacateSeat]
    exact rostered.nodup.set isNew
  obtain ⟨inside, _⟩ := List.getElem?_eq_some_iff.1 stands
  constructor
  · exact nodup
  · rw [members_vacateSeat, List.length_set]
    exact rostered.size
  · exact entries_reindexed nodup
  · rw [members_vacateSeat, ← renames]
    exact rostered.queue_renamed former successor
  · intro place address here
    change Option.map _ (Records.record? _ circle.id address) = _
    rw [Records.record?_enroll]
    by_cases theirs : address = successor
    · have place_eq : position = place := by
        rw [members_vacateSeat, List.getElem?_set] at here
        split at here
        · next same => exact same
        · exact absurd (theirs ▸ List.mem_of_getElem? here) isNew
      rw [if_pos ⟨rfl, theirs⟩, ← place_eq]
      rfl
    · rw [if_neg (by simp [theirs])]
      refine index_of_reindexed nodup here ?_
      have mem := List.mem_of_getElem? here
      rw [members_vacateSeat] at mem
      have isMember := (List.mem_or_eq_of_mem_set mem).resolve_right theirs
      obtain ⟨record, found⟩ := Option.isSome_iff_exists.1 (rostered.isSome_record? isMember)
      change (Records.record? _ circle.id address).isSome = true
      rw [Records.record?_update _ _ _ _ _ keeps, found]
      split <;> rfl

end Rostered

end Circle

section

variable {host : Host} {moment : Moment} {books : Books} {circle : Circle} {caller : Address}
variable {operation : Operation} {change : Change}

theorem Swapping.rostered {former successor : Address} (sound : circle.Sound)
    (rostered : circle.Rostered books.records)
    (unreserved : Directory.reserved ∉ change.circle.members)
    (swapping : Swapping moment books circle former successor change) :
    change.circle.Rostered change.records := by
  cases swapping with
  | same => exact rostered
  | renamed _ seated _ absent _ isRenamed areRecords =>
      subst isRenamed areRecords
      have mem := sound.indexed.mem_of_position? seated
      have isNew := sound.indexed.isNew absent (circle.mem_members_renameMember mem) unreserved
      exact rostered.renameMember isNew (by simp)

/-- A call on a circle leaves its seating in order. -/
theorem Deed.rostered (sound : circle.Sound) (rostered : circle.Rostered books.records)
    (unreserved : Directory.reserved ∉ change.circle.members)
    (deed : Deed host moment books circle caller operation change) :
    change.circle.Rostered change.records := by
  cases deed with
  | handOver | finalizeAgain | withdrawNothing => exact rostered.congr rfl rfl rfl rfl fun _ => rfl
  | join _ absent room unqueued =>
      have takes : caller ∈ (circle.addSeat caller).members := by simp
      have isNew := sound.indexed.isNew absent takes unreserved
      exact rostered.addSeat isNew (fun same => unreserved (same ▸ takes)) room unqueued
  | kick _ _ seated _ _ _ _ _ _ isRemoved areRecords isKept =>
      have stands := sound.indexed.stands_of_seat? seated
      subst isKept isRemoved areRecords
      exact (rostered.removeSeat stands).setFunds.settle
  | swap _ swapping | swapByAdmin swapping => exact swapping.rostered sound rostered unreserved
  | eject _ _ recorded _ areRecords =>
      subst areRecords
      exact (rostered.setStatus recorded _).settle
  | requestExit _ _ recorded => exact rostered.setStatus recorded _
  | fillVacancy _ _ seated _ _ absent _ _ isVacated areRecords isKept =>
      have stands := sound.indexed.stands_of_seat? seated
      subst isKept isVacated areRecords
      rw [Circle.members_settle] at unreserved
      have isNew := sound.indexed.isNew absent (circle.mem_members_vacateSeat stands) unreserved
      exact (rostered.vacateSeat isNew stands (by simp)).setFunds.settle
  | finalize _ _ _ _ permuted =>
      have isPerm := perm_of_isPermutation permuted
      exact ⟨rostered.nodup, rostered.size, rostered.directory, .inr isPerm, rostered.recorded⟩
  | processPayout _ _ _ _ _ _ _ _ isPaid =>
      subst isPaid
      exact rostered.congr rfl (by simp) rfl rfl fun _ => rfl
  | rollover => exact rostered.congr rfl (by simp) rfl rfl fun _ => rfl
  | contribute =>
      exact rostered.congr rfl (circle.members_updateSeat _ fun _ => rfl) rfl rfl fun address =>
        Records.map_record?_update _ _ _ _ _ address (by simp) fun _ _ => rfl
  | coverMember _ _ _ _ _ isCovered =>
      subst isCovered
      exact rostered.congr rfl (circle.members_updateSeat _ fun _ => rfl) rfl rfl fun _ => rfl
  | proposeDissolution | voteDissolution | proposeLateFee | voteLateFee =>
      refine Circle.Rostered.settle ?_
      exact ⟨rostered.nodup, rostered.size, rostered.directory, rostered.queue, rostered.recorded⟩
  | withdrawProRata =>
      exact rostered.congr rfl (circle.members_updateSeat _ fun _ => rfl) rfl rfl fun _ => rfl

end

/-- The seating stays in order for as long as nobody sits under the reserved address. -/
theorem circleInvariant_rostered (host : Host) :
    CircleInvariant host (fun circle => Directory.reserved ∉ circle.members) fun circle records _ =>
      circle.Sound ∧ Directory.reserved ∉ circle.members ∧ circle.Rostered records where
  congr := by
    rintro circle records others past ⟨sound, unreserved, rostered⟩ same
    exact ⟨sound, unreserved, rostered.congr rfl rfl rfl rfl fun address => by rw [same]⟩
  founded := by
    intro circle records isNew
    have members : circle.members = [] := by rw [Circle.members, isNew.seats, List.map_nil]
    refine ⟨isNew.sound, by simp [members], ⟨?_, ?_, ?_, .inl isNew.payoutQueue, ?_⟩⟩
    · rw [members]
      exact List.nodup_nil
    · rw [members]
      exact Nat.zero_le _
    · rw [members, isNew.directory]
      rfl
    · intro position address stands
      simp [members] at stands
  deed := by
    rintro moment books circle caller operation change past ⟨sound, _, rostered⟩ deed unreserved
    exact ⟨deed.sound sound, unreserved, deed.rostered sound rostered unreserved⟩

/-- All that is kept about the members of a circle agrees with the list of members: the parts of
their seats, the directory, the payout queue and the member records. -/
structure Circle.Represented (circle : Circle) (records : Records) : Prop where
  nodup : circle.members.Nodup
  size : circle.members.length ≤ 50
  parts : (circle.seats.map (·.isPaidOut)).length = circle.members.length ∧
    (circle.seats.map (·.hasContributed)).length = circle.members.length ∧
    (circle.seats.map (·.paidIn)).length = circle.members.length
  keys : circle.directory.entries.map (·.1) = circle.members
  placed : ∀ position address, circle.members[position]? = some address →
    circle.position? address = some position
  queue : circle.payoutQueue = [] ∨ circle.payoutQueue.Perm circle.members
  recorded : ∀ position address, circle.members[position]? = some address →
    ∃ record ∈ records, record.circle = circle.id ∧ record.address = address ∧
      record.index = position

/-- What the directory finds and what stands in the records follows from what they list. -/
theorem Circle.Rostered.represented {circle : Circle} {records : Records}
    (rostered : circle.Rostered records) (sound : circle.Sound)
    (unreserved : Directory.reserved ∉ circle.members) : circle.Represented records where
  nodup := rostered.nodup
  size := rostered.size
  parts := by simp [Circle.members]
  keys := by rw [rostered.directory, List.zipIdx_map_fst]
  placed := by
    intro position address stands
    obtain ⟨other, found⟩ := Option.isSome_iff_exists.1
      (sound.indexed.isSome_position? (List.mem_of_getElem? stands) unreserved)
    have there := (sound.indexed.found found).1
    obtain ⟨inside, _⟩ := List.getElem?_eq_some_iff.1 there
    rw [found, (List.getElem?_inj inside rostered.nodup).1 (there.trans stands.symm)]
  queue := rostered.queue
  recorded := by
    intro position address stands
    obtain ⟨record, found, index⟩ := Option.map_eq_some_iff.1 (rostered.recorded stands)
    obtain ⟨isCircle, isAddress⟩ := Records.isOf_of_record? found
    exact ⟨record, List.mem_of_find?_eq_some found, isCircle, isAddress, index⟩

/-- In every world of a run in which no member goes by the reserved address, whatever orders queues
are put in and whatever is called while transfers are made, circles and records are registered one
by one, and all that is kept about the members of a circle agrees. -/
theorem rosters_are_represented {host : Host} {now clock : Number} {nonce : String} {draws : Draws}
    {steps : List Step}
    (unreserved : ∀ passage ∈ runCourse host steps (.opened now clock nonce draws),
      ∀ circle ∈ passage.world.books.circles, Directory.reserved ∉ circle.members) :
    ∀ world, Visits host (.opened now clock nonce draws) steps world →
      world.books.Registered ∧
        ∀ circle ∈ world.books.circles, circle.Represented world.books.records := by
  intro world visits
  constructor
  · exact (booksKept_registered host).holds (fun _ _ => trivial) visits
  · intro circle mem
    obtain ⟨sound, named, rostered⟩ := (circleInvariant_rostered host).holds unreserved visits mem
    exact rostered.represented sound named

/-- A member leaves to a successor and takes a new seat, another is swapped while a contribution is
on its way, and the queue is fixed after that. -/
theorem rosters_are_represented_of_nested_swap :
    let proof := Host.sample.proofOf "a"
    let steps : List Step :=
      [.mint "USDC" "a" (.ofNat 100), .call (.createCircle proof .sample) [],
        .call (.join proof (.ofNat 1)) [], .call (.join (Host.sample.proofOf "b") (.ofNat 1)) [],
        .call (.join (Host.sample.proofOf "c") (.ofNat 1)) [],
        .call (.requestExit (Host.sample.proofOf "b") (.ofNat 1)) [],
        .call (.fillVacancy proof (Host.sample.proofOf "d") (.ofNat 1) "b") [],
        .call (.join (Host.sample.proofOf "b") (.ofNat 1)) [],
        .call (.contribute proof (.ofNat 1))
          [.meets [.call (.swapByAdmin proof (.ofNat 1) "c" "e") [],
            .call (.kick proof (.ofNat 1) "d" (.ofNat 0)) []] none],
        .call (.finalize proof (.ofNat 1)) []]
    let world := (runAll Host.sample steps World.sample).1
    (∀ passage ∈ runCourse Host.sample steps World.sample,
        ∀ circle ∈ passage.world.books.circles, Directory.reserved ∉ circle.members) ∧
      (world.books.circles.map (·.payoutQueue)) = [["a", "e", "b"]] ∧
      (world.books.records.map fun record => (record.address, record.index)) =
        [("a", 0), ("b", 2), ("e", 1)] ∧
      world.books.Registered ∧
        ∀ circle ∈ world.books.circles, circle.Represented world.books.records := by
  intro proof steps world
  have unreserved : ∀ passage ∈ runCourse Host.sample steps World.sample,
      ∀ circle ∈ passage.world.books.circles, Directory.reserved ∉ circle.members := by
    decide +kernel
  refine ⟨unreserved, by decide +kernel, by decide +kernel, ?_⟩
  exact rosters_are_represented unreserved world (.inl rfl)

end SavingsCircle
