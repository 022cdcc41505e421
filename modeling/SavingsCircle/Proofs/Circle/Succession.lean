import SavingsCircle.Proofs.Circle.Quorum
import SavingsCircle.Proofs.Circle.Seating
import SavingsCircle.Proofs.Run.Alone

/-!
# Succession by a swap

A swap writes the circle in several ways: it renames the seats, the queue and the votes, draws up
the directory afresh, and hands the record of the former member to the successor. Because the
directory lists the roster (`Circle.Rostered`), drawing it up afresh is renaming as well, and
because every vote is a vote of a member (`Circle.Governed`), a successor who has no seat occurs
nowhere in the circle. So a swap renames the member throughout, and swapping back undoes it
(`swap_renames_throughout`).

The directory does not list a member who goes by the reserved address, and it does so once it is
drawn up afresh. Where there is such a member even a swap of others is no renaming
(`swap_enters_reserved_bystander`).
-/

namespace SavingsCircle

def Directory.rename (directory : Directory) (former successor : Address) : Directory :=
  ⟨directory.entries.map fun entry => (Circle.renamed former successor entry.1, entry.2)⟩

/-! ## Renaming back and forth -/

namespace Circle

/-- Renames a member wherever the circle mentions the member. -/
def relabel (circle : Circle) (former successor : Address) : Circle :=
  let rename := renamed former successor
  { circle with
    seats := circle.seats.map fun seat => { seat with holder := rename seat.holder }
    directory := circle.directory.rename former successor
    payoutQueue := circle.payoutQueue.map rename
    dissolutionVotes := circle.dissolutionVotes.map rename
    proposalVotes := circle.proposalVotes.map rename }

/-- An address that a circle does not mention. -/
structure Unmentioned (circle : Circle) (address : Address) : Prop where
  members : address ∉ circle.members
  directory : address ∉ circle.directory.entries.map (·.1)
  payoutQueue : address ∉ circle.payoutQueue
  dissolutionVotes : address ∉ circle.dissolutionVotes
  proposalVotes : address ∉ circle.proposalVotes

variable {circle : Circle} {records : Records} {former successor address : Address}

theorem renamed_renamed (apart : address ≠ successor) :
    renamed successor former (renamed former successor address) = address := by
  by_cases here : address = former
  · rw [here, renamed_self, renamed_self]
  · rw [renamed_of_ne here, renamed_of_ne apart]

theorem map_renamed_renamed {addresses : List Address} (absent : successor ∉ addresses) :
    (addresses.map (renamed former successor)).map (renamed successor former) = addresses := by
  rw [List.map_map]
  refine (List.map_congr_left fun address mem => ?_).trans (List.map_id _)
  exact renamed_renamed fun same => absent (same ▸ mem)

theorem not_mem_map_renamed {addresses : List Address} (differ : former ≠ successor) :
    former ∉ addresses.map (renamed former successor) := by
  intro mem
  obtain ⟨address, _, same⟩ := List.mem_map.1 mem
  by_cases here : address = former
  · rw [here, renamed_self] at same
    exact differ same.symm
  · rw [renamed_of_ne here] at same
    exact here same

theorem reserved_not_mem_map_renamed {addresses : List Address}
    (unreserved : Directory.reserved ∉ addresses) (apart : successor ≠ Directory.reserved) :
    Directory.reserved ∉ addresses.map (renamed former successor) := by
  intro mem
  obtain ⟨address, isMember, same⟩ := List.mem_map.1 mem
  by_cases here : address = former
  · rw [here, renamed_self] at same
    exact apart same
  · rw [renamed_of_ne here] at same
    exact unreserved (same ▸ isMember)

@[simp] theorem members_relabel (circle : Circle) (former successor : Address) :
    (circle.relabel former successor).members =
      circle.members.map (renamed former successor) := by
  simp [members, relabel]

/-- Renaming a member to someone who is not mentioned can be undone. -/
theorem relabel_relabel (unmentioned : circle.Unmentioned successor) :
    (circle.relabel former successor).relabel successor former = circle := by
  have seats : (circle.seats.map fun seat =>
      { seat with holder := renamed former successor seat.holder }).map (fun seat =>
        { seat with holder := renamed successor former seat.holder }) = circle.seats := by
    rw [List.map_map]
    refine (List.map_congr_left fun seat mem => ?_).trans (List.map_id _)
    have apart : seat.holder ≠ successor := fun same =>
      unmentioned.members (same ▸ List.mem_map_of_mem mem)
    simp only [Function.comp, renamed_renamed apart]
    rfl
  have entries : (circle.directory.entries.map fun entry =>
      (renamed former successor entry.1, entry.2)).map (fun entry =>
        (renamed successor former entry.1, entry.2)) = circle.directory.entries := by
    rw [List.map_map]
    refine (List.map_congr_left fun entry mem => ?_).trans (List.map_id _)
    have apart : entry.1 ≠ successor := fun same =>
      unmentioned.directory (same ▸ List.mem_map_of_mem mem)
    simp only [Function.comp, renamed_renamed apart]
    rfl
  simp only [relabel, Directory.rename, seats, entries,
    map_renamed_renamed unmentioned.payoutQueue,
    map_renamed_renamed unmentioned.dissolutionVotes,
    map_renamed_renamed unmentioned.proposalVotes]

/-- A circle that is in order mentions its members only. -/
theorem Rostered.unmentioned (rostered : circle.Rostered records)
    (governed : circle.Governed records) (absent : address ∉ circle.members) :
    circle.Unmentioned address where
  members := absent
  directory := by
    rw [rostered.directory, List.zipIdx_map_fst]
    exact absent
  payoutQueue := by
    rcases rostered.queue with empty | queued
    · rw [empty]
      exact List.not_mem_nil
    · exact fun mem => absent (queued.subset mem)
  dissolutionVotes mem := absent (mem_voters_iff.1 (governed.dissolution.subset mem)).1
  proposalVotes mem := absent (mem_voters_iff.1 (governed.proposal.subset mem)).1

/-- Drawing up the directory of a renamed roster afresh renames the entries. -/
theorem Rostered.renameMember_eq_relabel (rostered : circle.Rostered records)
    (isNew : successor ∉ circle.members) :
    circle.renameMember former successor = circle.relabel former successor := by
  have nodup : (circle.members.map (renamed former successor)).Nodup :=
    nodup_map_renamed rostered.nodup isNew
  have directory : (circle.renameMember former successor).directory =
      circle.directory.rename former successor := by
    change Directory.ofRoster (circle.renameMember former successor).members = _
    rw [members_renameMember, Directory.ofRoster, Directory.entriesFrom_of_nodup 0 nodup,
      Directory.rename, rostered.directory, List.zipIdx_map]
    rfl
  calc circle.renameMember former successor
      = { circle.relabel former successor with
          directory := (circle.renameMember former successor).directory } := rfl
    _ = circle.relabel former successor := by
        rw [directory]
        rfl

end Circle

/-! ## The records -/

namespace Records

variable {records : Records} {circle : Nat} {address other : Address} {record : MemberRecord}

/-- The records of everyone but a former member and the successor. -/
def besides (records : Records) (circle : Nat) (former successor : Address) : Records :=
  (records.remove circle former).remove circle successor

theorem remove_comm : (records.remove circle address).remove circle other =
    (records.remove circle other).remove circle address := by
  rw [remove, remove, remove, remove, List.filter_filter, List.filter_filter]
  apply List.filter_congr
  intro record _
  rw [Bool.and_comm]

theorem remove_remove : (records.remove circle address).remove circle address =
    records.remove circle address := by
  rw [remove, remove, List.filter_filter]
  apply List.filter_congr
  intro record _
  rw [Bool.and_self]

/-- Changing a record leaves all others alone. -/
theorem remove_update {change : MemberRecord → MemberRecord}
    (keeps : ∀ record, record.isOf circle address = true →
      (change record).isOf circle address = true) :
    (records.update circle address change).remove circle address =
      records.remove circle address := by
  rw [remove, update, List.filter_map]
  have kept : ((fun record => !record.isOf circle address) ∘ fun record : MemberRecord =>
      if record.isOf circle address then change record else record) =
        fun record => !record.isOf circle address := by
    funext record
    simp only [Function.comp]
    by_cases theirs : record.isOf circle address = true
    · rw [if_pos theirs, keeps record theirs, theirs]
    · rw [if_neg theirs]
  rw [kept, remove]
  refine (List.map_congr_left fun record mem => ?_).trans (List.map_id _)
  have others : record.isOf circle address = false := by simpa using (List.mem_filter.1 mem).2
  simp [others]

theorem remove_enroll {index : Nat} {now : Number} :
    (records.enroll circle address index now).remove circle address =
      records.remove circle address := by
  have isFresh : (MemberRecord.fresh circle address index now).isOf circle address = true := by
    simp [MemberRecord.fresh]
  rw [enroll]
  split
  · exact remove_update fun _ _ => isFresh
  · simp [remove, List.filter_append, isFresh]

/-- Bringing positions in line commutes with leaving records out. -/
theorem remove_reindex {directory : Directory} :
    (records.reindex circle directory).remove circle address =
      (records.remove circle address).reindex circle directory := by
  rw [remove, reindex, List.filter_map, remove, reindex]
  congr 1
  apply List.filter_congr
  intro record _
  simp only [Function.comp, MemberRecord.isOf]
  split
  · split <;> rfl
  · rfl

/-- Positions that are in line with a directory stay. -/
theorem reindex_eq_self {directory : Directory}
    (inLine : ∀ record ∈ records, record.circle = circle → ∀ index,
      directory.position? record.address = some index → record.index = index) :
    records.reindex circle directory = records := by
  refine (List.map_congr_left fun record mem => ?_).trans (List.map_id _)
  by_cases theirs : record.circle = circle
  · rw [if_pos theirs]
    cases placed : directory.position? record.address with
    | none => rfl
    | some index =>
        have same := inLine record mem theirs index placed
        subst same
        rfl
  · rw [if_neg theirs]
    rfl

/-- Where an address has at most one record, the one that is found is the only one. -/
theorem filter_isOf_of_nodup (nodup : records.keys.Nodup)
    (found : records.record? circle address = some record) :
    records.filter (·.isOf circle address) = [record] := by
  induction records with
  | nil => simp [record?] at found
  | cons head records ih =>
      obtain ⟨apart, nodup⟩ := List.nodup_cons.1 nodup
      rw [record?, List.find?_cons] at found
      by_cases theirs : head.isOf circle address = true
      · rw [theirs] at found
        obtain rfl := Option.some.inj found
        have others : records.filter (·.isOf circle address) = [] := by
          rw [List.filter_eq_nil_iff]
          intro other mem again
          have same : other.key = head.key :=
            (MemberRecord.isOf_iff_key.1 again).trans (MemberRecord.isOf_iff_key.1 theirs).symm
          exact apart (List.mem_map.2 ⟨other, mem, same⟩)
        rw [List.filter_cons, if_pos theirs, others]
      · rw [Bool.not_eq_true] at theirs
        rw [theirs] at found
        rw [List.filter_cons, theirs]
        exact ih nodup found

theorem record?_of_mem (nodup : records.keys.Nodup) (mem : record ∈ records) :
    records.record? record.circle record.address = some record := by
  have known : (records.record? record.circle record.address).isSome :=
    mem_keys_iff.1 (List.mem_map_of_mem mem)
  obtain ⟨found, isFound⟩ := Option.isSome_iff_exists.1 known
  have only := filter_isOf_of_nodup nodup isFound
  have listed : record ∈ records.filter (·.isOf record.circle record.address) :=
    List.mem_filter.2 ⟨mem, by simp⟩
  rw [only, List.mem_singleton] at listed
  rw [isFound, listed]

/-- The records once a member's record is handed on to a successor, who has the given position. -/
def handOn (records : Records) (circle : Nat) (former successor : Address) (position : Nat)
    (now : Number) (record : MemberRecord) (directory : Directory) : Records :=
  (((records.remove circle former).enroll circle successor position now).update circle successor
    fun fresh =>
      { fresh with
        contributionCount := record.contributionCount
        lastContributionAt := record.lastContributionAt
        status := record.status }).reindex circle directory

section

variable {former successor : Address} {position : Nat} {now : Number} {directory : Directory}

theorem record?_handOn_former (differ : former ≠ successor) :
    (records.handOn circle former successor position now record directory).record? circle former =
      none := by
  rw [handOn, record?_reindex, record?_update _ _ _ _ _ (by simp), if_neg (by simp [differ]),
    record?_enroll, if_neg (by simp [differ]), record?_remove, if_pos ⟨rfl, rfl⟩]
  rfl

theorem record?_handOn_successor (recorded : records.record? circle former = some record)
    (placed : directory.position? successor = some record.index) :
    (records.handOn circle former successor position now record directory).record? circle
      successor = some { record with address := successor, joinedAt := now } := by
  obtain ⟨theirs, -⟩ := isOf_of_record? recorded
  rw [handOn, record?_reindex, record?_update _ _ _ _ _ (by simp), if_pos ⟨rfl, rfl⟩,
    record?_enroll, if_pos ⟨rfl, rfl⟩]
  simp [MemberRecord.fresh, placed, theirs]

theorem nodup_handOn (nodup : records.keys.Nodup) :
    (records.handOn circle former successor position now record directory).keys.Nodup :=
  (((Revises.remove.trans .enroll).trans (.update (by simp))).trans .reindex).nodup nodup

/-- Everyone else's records stay if the directory has nothing to bring in line among them. -/
theorem besides_handOn
    (inLine : (records.besides circle former successor).reindex circle directory =
      records.besides circle former successor) :
    (records.handOn circle former successor position now record directory).besides circle former
      successor = records.besides circle former successor := by
  rw [besides, handOn, remove_reindex, remove_reindex, remove_comm, remove_update (by simp),
    remove_enroll, remove_comm, remove_remove]
  exact inLine

end

end Records

/-! ## The swap -/

/-- What is left of a circle and of the member records when a member is renamed to a successor at
the given time: the circle in which the member is renamed throughout, and the records in which the
successor has the only record, with all that the member's record said but for when its owner joined.
Nobody's say in the open questions changes, nor does a decision fall that had not fallen before. -/
structure Renames (former successor : Address) (now : Number) (circle : Circle)
    (records : Records) (next : Circle) (later : Records) : Prop where
  relabels : next = circle.relabel former successor
  gone : later.filter (·.isOf circle.id former) = []
  handed : ∃ record, records.filter (·.isOf circle.id former) = [record] ∧
    later.filter (·.isOf circle.id successor) =
      [{ record with address := successor, joinedAt := now }]
  others : later.besides circle.id former successor = records.besides circle.id former successor
  voters : next.voters later = (circle.voters records).map (Circle.renamed former successor)
  undecided : circle.settle records = (circle, []) ∧ next.settle later = (next, [])
  completeness : next.isCycleComplete later = circle.isCycleComplete records

namespace Circle

variable {circle next : Circle} {records others : Records} {former successor : Address}

theorem Indexed.isVoter_of_mem_voters (indexed : circle.Indexed) {address : Address}
    (unreserved : Directory.reserved ∉ circle.members) (mem : address ∈ circle.voters records) :
    circle.isVoter records address = true := by
  obtain ⟨isMember, takesPart⟩ := mem_voters_iff.1 mem
  rw [isVoter, indexed.isSome_position? isMember unreserved, takesPart]
  rfl

/-- Where no decision is due, settling the votes changes nothing. -/
theorem Governed.settle_eq_self (governed : circle.Governed records) (indexed : circle.Indexed)
    (unreserved : Directory.reserved ∉ circle.members) (isOpen : circle.isDissolved = false) :
    circle.settle records = (circle, []) := by
  have kept {votes : List Address} (cast : Cast (circle.voters records) votes) :
      votes.filter (circle.isVoter records) = votes :=
    List.filter_eq_self.2 fun _ mem => indexed.isVoter_of_mem_voters unreserved (cast.subset mem)
  have dropped : circle.dropVotes records = circle := by
    rw [dropVotes, kept governed.dissolution, kept governed.proposal]
  have few : ¬circle.voterCount records < circle.dissolutionVotes.length * 2 := by
    have dissolved := governed.dissolved
    rw [isOpen] at dissolved
    change ¬(circle.voters records).length < _
    simp only [Bool.false_eq_true, false_iff] at dissolved
    omega
  have undissolved : circle.settleDissolution (circle.voterCount records) = (circle, []) := by
    simp [settleDissolution, few]
  have unchanged : circle.settleProposal (circle.voterCount records) = (circle, []) := by
    rw [settleProposal]
    cases proposed : circle.proposedLateFeeRate with
    | none => rfl
    | some rate =>
        have pending : 2 * circle.proposalVotes.length ≤ circle.voterCount records :=
          governed.pending proposed
        have minority : ¬circle.voterCount records < circle.proposalVotes.length * 2 := by omega
        simp [minority]
  simp only [settle, dropped, undissolved, unchanged]
  split <;> rfl

/-- Whether the cycle is complete does not change when a member is renamed together with the
status. -/
theorem isCycleComplete_relabel
    (handed : ∀ address ∈ circle.members,
      (circle.relabel former successor).isEjected others (renamed former successor address) =
        circle.isEjected records address) :
    (circle.relabel former successor).isCycleComplete others =
      circle.isCycleComplete records := by
  rw [isCycleComplete, isCycleComplete]
  simp only [relabel, List.isEmpty_map, List.all_map]
  congr 1
  apply Bool.eq_iff_iff.2
  simp only [List.all_eq_true, Function.comp]
  have same : ∀ seat ∈ circle.seats,
      (circle.relabel former successor).isEjected others (renamed former successor seat.holder) =
        circle.isEjected records seat.holder :=
    fun seat mem => handed seat.holder (List.mem_map_of_mem mem)
  constructor
  · intro all seat mem
    rw [← same seat mem]
    exact all seat mem
  · intro all seat mem
    have done := all seat mem
    rw [← same seat mem] at done
    exact done

theorem position?_renameMember (nodup : circle.members.Nodup) (isNew : successor ∉ circle.members)
    {position : Nat} (stands : circle.members[position]? = some former) :
    (circle.renameMember former successor).position? successor = some position := by
  have renamedNodup : (circle.renameMember former successor).members.Nodup := by
    rw [members_renameMember]
    exact nodup_map_renamed nodup isNew
  refine (Directory.position?_ofRoster_of_nodup renamedNodup).2 ?_
  rw [members_renameMember, List.getElem?_map, stands, Option.map_some, renamed_self]

/-- A member who is not renamed keeps the place. -/
theorem stands_of_position?_renameMember (nodup : circle.members.Nodup)
    (isNew : successor ∉ circle.members) {position : Nat} {address : Address}
    (found : (circle.renameMember former successor).position? address = some position)
    (apart : address ≠ successor) : circle.members[position]? = some address := by
  have renamedNodup : (circle.renameMember former successor).members.Nodup := by
    rw [members_renameMember]
    exact nodup_map_renamed nodup isNew
  have stands := (Directory.position?_ofRoster_of_nodup renamedNodup).1 found
  rw [members_renameMember, List.getElem?_map] at stands
  obtain ⟨other, there, same⟩ := Option.map_eq_some_iff.1 stands
  by_cases here : other = former
  · rw [here, renamed_self] at same
    exact absurd same.symm apart
  · rw [renamed_of_ne here] at same
    exact same ▸ there

end Circle

section

variable {moment : Moment} {books : Books} {circle : Circle} {records : Records}
variable {former successor : Address} {change : Change}

/-- Among the records of the others a swap has nothing to bring in line. -/
theorem Circle.Rostered.inLine (rostered : circle.Rostered records)
    (nodup : records.keys.Nodup) (isNew : successor ∉ circle.members) :
    (records.besides circle.id former successor).reindex circle.id
        (circle.renameMember former successor).directory =
      records.besides circle.id former successor := by
  apply Records.reindex_eq_self
  intro record mem theirs index placed
  obtain ⟨mem, apart⟩ := List.mem_filter.1 mem
  have isRecord := List.mem_of_mem_filter mem
  have differ : record.address ≠ successor := by
    intro same
    simp [MemberRecord.isOf, theirs, same] at apart
  have stands := Circle.stands_of_position?_renameMember rostered.nodup isNew placed differ
  have recorded := rostered.recorded stands
  rw [← theirs, Records.record?_of_mem nodup isRecord] at recorded
  exact Option.some.inj recorded

/-- A circle with all that is kept about its members in order, and no decision due. -/
structure Circle.InOrder (circle : Circle) (records : Records) : Prop where
  sound : circle.Sound
  unreserved : Directory.reserved ∉ circle.members
  rostered : circle.Rostered records
  governed : circle.Governed records
  nodup : records.keys.Nodup

/-- Renaming a member and handing on the record renames the member throughout. -/
theorem Circle.InOrder.renames {record : MemberRecord} {position : Nat} {now : Number}
    (inOrder : circle.InOrder records) (isOpen : circle.isDissolved = false)
    (apart : successor ≠ Directory.reserved) (isNew : successor ∉ circle.members)
    (differ : former ≠ successor)
    (stands : circle.members[position]? = some former)
    (recorded : records.record? circle.id former = some record) :
    Renames former successor now circle records (circle.renameMember former successor)
      (records.handOn circle.id former successor position now record
        (circle.renameMember former successor).directory) := by
  obtain ⟨sound, unreserved, rostered, governed, nodup⟩ := inOrder
  have relabels : circle.renameMember former successor = circle.relabel former successor :=
    rostered.renameMember_eq_relabel isNew
  have index : record.index = position := by
    have placed := rostered.recorded stands
    rw [recorded] at placed
    exact Option.some.inj placed
  generalize isLater : records.handOn circle.id former successor position now record
    (circle.renameMember former successor).directory = later
  have handed : ∀ address ∈ circle.members,
      (circle.renameMember former successor).isEjected later
          (Circle.renamed former successor address) = circle.isEjected records address := by
    intro address mem
    have known : address ≠ successor := fun same => isNew (same ▸ mem)
    rw [Circle.isEjected, Circle.isEjected, ← isLater, Records.handOn,
      Circle.statusOf_renameMember _ _ _ recorded known]
  have next : (circle.renameMember former successor).Governed later :=
    governed.renameMember isNew handed
  constructor
  · exact relabels
  · have none : later.record? circle.id former = none := by
      rw [← isLater]
      exact Records.record?_handOn_former differ
    exact List.filter_eq_nil_iff.2 (List.find?_eq_none.1 none)
  · refine ⟨record, Records.filter_isOf_of_nodup nodup recorded,
      Records.filter_isOf_of_nodup ?_ ?_⟩
    · rw [← isLater]
      exact Records.nodup_handOn nodup
    · rw [← isLater]
      refine Records.record?_handOn_successor recorded ?_
      rw [index]
      exact Circle.position?_renameMember rostered.nodup isNew stands
  · rw [← isLater]
    exact Records.besides_handOn (rostered.inLine nodup isNew)
  · exact Circle.voters_renameMember handed
  · have noneReserved :
        Directory.reserved ∉ (circle.renameMember former successor).members := by
      rw [Circle.members_renameMember]
      exact Circle.reserved_not_mem_map_renamed unreserved apart
    refine ⟨governed.settle_eq_self sound.indexed unreserved isOpen, ?_⟩
    exact next.settle_eq_self (.of_directory rfl) noneReserved isOpen
  · rw [relabels] at handed ⊢
    exact Circle.isCycleComplete_relabel handed

/-- Whoever is swapped has a seat, and the successor has none. -/
theorem Swapping.seated_and_absent (differ : former ≠ successor)
    (swapping : Swapping moment books circle former successor change) :
    (circle.position? former).isSome ∧ circle.position? successor = none := by
  cases swapping with
  | same _ _ equal => exact absurd equal differ
  | renamed _ seated _ absent => exact ⟨by rw [seated]; rfl, absent⟩

/-- A swap renames the member throughout. -/
theorem Swapping.renames (inOrder : circle.InOrder books.records) (differ : former ≠ successor)
    (apart : successor ≠ Directory.reserved)
    (swapping : Swapping moment books circle former successor change) :
    Renames former successor moment.now circle books.records change.circle change.records := by
  cases swapping with
  | same _ _ equal => exact absurd equal differ
  | renamed isOpen seated _ absent recorded isRenamed areRecords =>
      have isNew : successor ∉ circle.members := inOrder.sound.indexed.not_mem absent apart
      subst isRenamed areRecords
      have stands := (inOrder.sound.indexed.found seated).1
      exact inOrder.renames isOpen apart isNew differ stands recorded

/-- A swap leaves the circle in order. -/
theorem Swapping.inOrder (inOrder : circle.InOrder books.records)
    (apart : successor ≠ Directory.reserved)
    (swapping : Swapping moment books circle former successor change) :
    change.circle.InOrder change.records := by
  obtain ⟨sound, unreserved, rostered, governed, nodup⟩ := inOrder
  have stillUnreserved : Directory.reserved ∉ change.circle.members := by
    cases swapping with
    | same => exact unreserved
    | renamed _ _ _ _ _ isRenamed =>
        subst isRenamed
        rw [Circle.members_renameMember]
        exact Circle.reserved_not_mem_map_renamed unreserved apart
  have contribution := swapping.lasts.contribution
  exact
    { sound :=
        { positive := contribution ▸ sound.positive
          safe := contribution ▸ sound.safe
          indexed := swapping.indexed sound.indexed }
      unreserved := stillUnreserved
      rostered := swapping.rostered sound rostered stillUnreserved
      governed := swapping.governed sound governed stillUnreserved
      nodup := swapping.revises.nodup nodup }

end

/-! ## Calls that swap -/

def Operation.swap? (host : Host) : Operation → Option (Address × Address)
  | .swap proof successorProof _ => do
    let former ← (host.authorize proof).toOption
    let successor ← (host.authorize successorProof).toOption
    return (former, successor)
  | .swapByAdmin _ _ former successor => some (former, successor)
  | _ => none

section

variable {host : Host} {world : World} {circle : Circle} {id : Number} {operation : Operation}
variable {former successor : Address} {plan : List Encounter} {answer : Answer}

/-- A call that swaps puts in whom it names, and makes no transfer. -/
theorem Deed.swapping {moment : Moment} {books : Books} {caller : Address} {change : Change}
    (isCaller : host.authorize operation.proof = .ok caller)
    (swaps : operation.swap? host = some (former, successor))
    (deed : Deed host moment books circle caller operation change) :
    Swapping moment books circle former successor change ∧ change.transfers = [] := by
  have named : Swapping moment books circle former successor change := by
    cases deed with
    | swap consent swapping =>
        simp only [Operation.proof] at isCaller
        simp only [Operation.swap?, isCaller, consent, Except.toOption, bind, Option.bind, pure,
          Option.some.injEq, Prod.mk.injEq] at swaps
        obtain ⟨rfl, rfl⟩ := swaps
        exact swapping
    | swapByAdmin swapping =>
        simp only [Operation.swap?, Option.some.injEq, Prod.mk.injEq] at swaps
        obtain ⟨rfl, rfl⟩ := swaps
        exact swapping
    | _ => simp [Operation.swap?] at swaps
  refine ⟨named, ?_⟩
  cases named <;> rfl

/-- What is left when a call that swaps returns. -/
theorem swap_run_eq_ok (named : operation.circleId? = some id)
    (swaps : operation.swap? host = some (former, successor)) (differ : former ≠ successor)
    (found : world.books.circle id = .ok circle)
    (returned : ((Step.call operation plan).run host world).2.outcome = .ok answer) :
    ∃ later change, later = ((Step.call operation plan).run host world).1 ∧
      Swapping world.moment world.books circle former successor change ∧
      later.books.circle id = .ok change.circle ∧ later.books.records = change.records ∧
      later.stamp?.isSome := by
  obtain ⟨effect, written, performed, committed, -, -, -⟩ := Step.run_eq_ok returned
  obtain ⟨caller, change, _, isCaller, deed, rfl⟩ := deed_of_perform named found performed
  obtain ⟨swapping, nothing⟩ := deed.swapping isCaller swaps
  have recorded : change.events ≠ [] := by
    cases swapping with
    | same _ _ equal => exact absurd equal differ
    | renamed => exact List.cons_ne_nil _ _
  have dated := World.isSome_stamp?_of_commit committed recorded
  rw [Step.run_of_no_transfers performed committed nothing]
  obtain ⟨trail, _, rfl⟩ := World.commit_eq_ok committed
  refine ⟨_, change, rfl, swapping, ?_, rfl, dated⟩
  exact Books.circle_replaceCircle found swapping.lasts.id

/-- A swap goes through if its proofs are valid, the circle is open, and the former member has a
seat and the successor has none. -/
theorem exists_answer_of_swap (named : operation.circleId? = some id)
    (swaps : operation.swap? host = some (former, successor)) (differ : former ≠ successor)
    (administers : operation.isAdministrative = true →
      host.authorize operation.proof = .ok circle.admin)
    (found : world.books.circle id = .ok circle) (isOpen : circle.isDissolved = false)
    (seated : (circle.position? former).isSome) (absent : circle.position? successor = none)
    (known : (world.books.records.record? circle.id former).isSome)
    (dated : world.stamp?.isSome) :
    ∃ answer, ((Step.call operation plan).run host world).2.outcome = .ok answer := by
  obtain ⟨position, seated⟩ := Option.isSome_iff_exists.1 seated
  obtain ⟨record, known⟩ := Option.isSome_iff_exists.1 known
  have swapsIn : ∃ change,
      world.books.swapIn world.moment circle former successor = .ok change := by
    simp only [Books.swapIn, bind_eq_ok, demandOpen_eq_ok, demandSome_eq_ok, if_neg differ,
      demand_eq_ok, record_eq_ok, Option.isNone_iff_eq_none]
    exact ⟨_, (), isOpen, position, seated, (), absent, record, known, rfl⟩
  have performs : ∃ effect, operation.perform host world.moment world.books = .ok effect := by
    obtain ⟨change, isChange⟩ := swapsIn
    cases operation with
    | swap proof successorProof number =>
        obtain rfl := Option.some.inj named
        simp only [Operation.swap?, bind, Option.bind_eq_some_iff, pure, Option.some.injEq,
          Prod.mk.injEq, toOption_eq_some_iff] at swaps
        obtain ⟨_, accepted, _, consent, rfl, rfl⟩ := swaps
        simp only [Operation.perform, Books.swap, bind_eq_ok]
        exact ⟨_, _, accepted, _, consent, circle, found, change, isChange, rfl⟩
    | swapByAdmin proof number =>
        obtain rfl := Option.some.inj named
        simp only [Operation.swap?, Option.some.injEq, Prod.mk.injEq] at swaps
        obtain ⟨rfl, rfl⟩ := swaps
        simp only [Operation.perform, Books.swapByAdmin, Books.byAdmin, bind_eq_ok, demand_eq_ok]
        exact ⟨_, circle, found, _, administers rfl, (), rfl, change, isChange, rfl⟩
    | _ => simp [Operation.swap?] at swaps
  obtain ⟨effect, performed⟩ := performs
  obtain ⟨caller, change, _, isCaller, deed, isEffect⟩ := deed_of_perform named found performed
  have nothing : effect.transfers = [] := by
    rw [isEffect]
    exact (deed.swapping isCaller swaps).2
  obtain ⟨written, committed⟩ := World.exists_commit effect fun _ => dated
  rw [Step.run_of_no_transfers performed committed nothing]
  exact ⟨written.answer, rfl⟩

end

/-- In a run in which no member goes by the reserved address, a call that swaps a member for someone
else renames the member throughout. In the world that it leaves, swapping back goes through and
restores the circle. -/
theorem swap_renames_throughout {host : Host} {now clock : Number} {nonce : String} {draws : Draws}
    {steps : List Step}
    (unreserved : ∀ passage ∈ runCourse host steps (.opened now clock nonce draws),
      ∀ circle ∈ passage.world.books.circles, Directory.reserved ∉ circle.members) :
    ∀ world, Visits host (.opened now clock nonce draws) steps world →
      ∀ id circle, world.books.circle id = .ok circle →
      ∀ (operation : Operation) plan answer former successor, operation.circleId? = some id →
        operation.swap? host = some (former, successor) → former ≠ successor →
        successor ≠ Directory.reserved →
        ((Step.call operation plan).run host world).2.outcome = .ok answer →
        ∃ later next, later = ((Step.call operation plan).run host world).1 ∧
          later.books.circle id = .ok next ∧
          Renames former successor world.now circle world.books.records next
            later.books.records ∧
          ∀ (back : Operation) plan, back.circleId? = some id →
            back.swap? host = some (successor, former) →
            (back.isAdministrative = true → host.authorize back.proof = .ok circle.admin) →
            (∃ answer, ((Step.call back plan).run host later).2.outcome = .ok answer) ∧
              ((Step.call back plan).run host later).1.books.circle id = .ok circle := by
  intro world visits id circle found operation plan answer former successor named swaps differ
    apart returned
  have mem := Books.mem_of_circle found
  obtain ⟨sound, noneReserved, rostered⟩ :=
    (circleInvariant_rostered host).holds unreserved visits mem
  have governed := ((circleInvariant_governed host).holds unreserved visits mem).2
  have registered := (booksKept_registered host).holds (fun _ _ => trivial) visits
  have inOrder : circle.InOrder world.books.records :=
    ⟨sound, noneReserved, rostered, governed, registered.nodup⟩
  obtain ⟨later, change, isLater, swapping, isNext, records, dated⟩ :=
    swap_run_eq_ok named swaps differ found returned
  have renames := swapping.renames inOrder differ apart
  have next := swapping.inOrder inOrder apart
  rw [← records] at renames next
  refine ⟨later, change.circle, isLater, isNext, renames, ?_⟩
  intro back planBack namedBack swapsBack administers
  have relabels := renames.relabels
  have members : change.circle.members = circle.members.map (Circle.renamed former successor) := by
    rw [relabels, Circle.members_relabel]
  obtain ⟨seated, absent⟩ := swapping.seated_and_absent differ
  obtain ⟨position, placed⟩ := Option.isSome_iff_exists.1 seated
  have isMember : former ∈ circle.members := sound.indexed.mem_of_position? placed
  have isNew : successor ∉ circle.members := sound.indexed.not_mem absent apart
  have takesOver : successor ∈ change.circle.members := by
    rw [members]
    exact List.mem_map.2 ⟨former, isMember, Circle.renamed_self ..⟩
  have left : former ∉ change.circle.members := by
    rw [members]
    exact Circle.not_mem_map_renamed differ
  have isOpen : change.circle.isDissolved = false := by
    rw [relabels]
    exact swapping.isOpen
  have returnsBack :
      ∃ answer, ((Step.call back planBack).run host later).2.outcome = .ok answer := by
    refine exists_answer_of_swap namedBack swapsBack differ.symm ?_ isNext isOpen ?_ ?_ ?_ dated
    · rw [relabels]
      exact administers
    · exact next.sound.indexed.isSome_position? takesOver next.unreserved
    · exact next.sound.indexed.position?_eq_none left
    · exact next.rostered.isSome_record? takesOver
  refine ⟨returnsBack, ?_⟩
  obtain ⟨_, isReturned⟩ := returnsBack
  obtain ⟨last, changeBack, rfl, swappingBack, isLast, -, -⟩ :=
    swap_run_eq_ok namedBack swapsBack differ.symm isNext isReturned
  have formerApart : former ≠ Directory.reserved := fun same => noneReserved (same ▸ isMember)
  have restores := (swappingBack.renames next differ.symm formerApart).relabels
  rw [isLast, restores, relabels,
    Circle.relabel_relabel (rostered.unmentioned governed isNew)]

/-- A member hands the seat to someone who has left the circle before and still has a record there.
The administrator then swaps the two back. -/
theorem swap_renames_throughout_of_returning_member :
    let proof := Host.sample.proofOf
    let id := Number.ofNat 1
    let steps : List Step :=
      [.call (.createCircle (proof "a") .sample) [], .call (.join (proof "a") id) [],
        .call (.join (proof "b") id) [], .call (.requestExit (proof "b") id) [],
        .call (.fillVacancy (proof "a") (proof "d") id "b") [],
        .call (.proposeDissolution (proof "a") id) []]
    let world := (runAll Host.sample steps World.sample).1
    let later := ((Step.call (.swap (proof "a") (proof "b") id) []).run Host.sample world).1
    let last := ((Step.call (.swapByAdmin (proof "a") id "b" "a") []).run Host.sample later).1
    ∃ circle next, world.books.circle id = .ok circle ∧ later.books.circle id = .ok next ∧
      circle.members = ["a", "d"] ∧ circle.dissolutionVotes = ["a"] ∧
      Renames "a" "b" world.now circle world.books.records next later.books.records ∧
      last.books.circle id = .ok circle := by
  intro proof id steps world later last
  have unreserved : ∀ passage ∈ runCourse Host.sample steps World.sample,
      ∀ circle ∈ passage.world.books.circles, Directory.reserved ∉ circle.members := by
    decide +kernel
  have isCircle : (world.books.circle id).toOption.map (fun circle =>
      (circle.members, circle.dissolutionVotes, circle.admin)) =
      some (["a", "d"], ["a"], "a") := by
    decide +kernel
  have returned : ((Step.call (.swap (proof "a") (proof "b") id) []).run Host.sample
      world).2.outcome.toOption.map (fun _ => ()) = some () := by
    decide +kernel
  have swaps : (Operation.swap (proof "a") (proof "b") id).swap? Host.sample = some ("a", "b") := by
    decide +kernel
  have accepted : Host.sample.authorize (proof "a") = .ok "a" := by decide +kernel
  have visits : Visits Host.sample World.sample steps world := .inl rfl
  clear_value world
  obtain ⟨circle, found, facts⟩ := exists_ok_of_map_toOption isCircle
  simp only [Prod.mk.injEq] at facts
  obtain ⟨members, votes, admin⟩ := facts
  obtain ⟨answer, isAnswer, -⟩ := exists_ok_of_map_toOption returned
  obtain ⟨_, next, rfl, isNext, renames, back⟩ :=
    swap_renames_throughout unreserved world visits id circle found _ [] answer "a" "b" rfl swaps
      (by decide) (by decide) isAnswer
  obtain ⟨-, restored⟩ := back (.swapByAdmin (proof "a") id "b" "a") [] rfl rfl fun _ => by
    rw [admin]
    exact accepted
  exact ⟨circle, next, found, isNext, members, votes, renames, restored⟩

/-- Beside a member who goes by the reserved address another one is swapped. The directory finds
that member from then on, also after the swap is taken back. -/
theorem swap_enters_reserved_bystander :
    let proof := Host.sample.proofOf
    let id := Number.ofNat 1
    let steps : List Step :=
      [.call (.createCircle (proof "a") .sample) [], .call (.join (proof "a") id) [],
        .call (.join (proof Directory.reserved) id) []]
    let world := (runAll Host.sample steps World.sample).1
    let later := ((Step.call (.swapByAdmin (proof "a") id "a" "d") []).run Host.sample world).1
    let last := ((Step.call (.swapByAdmin (proof "a") id "d" "a") []).run Host.sample later).1
    ∃ circle next restored, world.books.circle id = .ok circle ∧
      later.books.circle id = .ok next ∧ next ≠ circle.relabel "a" "d" ∧
      last.books.circle id = .ok restored ∧ restored ≠ circle := by
  intro proof id steps world later last
  have isCircle : (world.books.circle id).toOption.map (fun circle =>
      circle.directory.entries) = some [("a", 0)] := by
    decide +kernel
  have isNext : (later.books.circle id).toOption.map (fun circle => circle.directory.entries) =
      some [("d", 0), (Directory.reserved, 1)] := by
    decide +kernel
  have isRestored : (last.books.circle id).toOption.map (fun circle =>
      circle.directory.entries) = some [("a", 0), (Directory.reserved, 1)] := by
    decide +kernel
  obtain ⟨circle, found, entries⟩ := exists_ok_of_map_toOption isCircle
  obtain ⟨next, foundNext, entriesNext⟩ := exists_ok_of_map_toOption isNext
  obtain ⟨restored, foundRestored, entriesRestored⟩ := exists_ok_of_map_toOption isRestored
  refine ⟨circle, next, restored, found, foundNext, ?_, foundRestored, ?_⟩
  · intro same
    have renamed : next.directory.entries = [("d", 0)] := by
      rw [same]
      change circle.directory.entries.map _ = _
      rw [entries]
      rfl
    exact absurd (entriesNext.symm.trans renamed) (by decide)
  · intro same
    rw [same] at entriesRestored
    exact absurd (entriesRestored.symm.trans entries) (by decide)

end SavingsCircle
