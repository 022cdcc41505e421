import SavingsCircle.Circle.Directory.Lemmas
import SavingsCircle.Proofs.Circle.Invariant

/-!
# The roster and its directory

Every call leaves a circle with a directory that finds members only, each at the last of their
seats. It finds all members but one who goes by the reserved address. Along with this goes what
holds of a circle from its founding on: the contribution is positive and safe.
-/

namespace SavingsCircle

/-- Whether an event takes an address out of its seat or puts it into that of another. -/
def Event.moves (address : Address) : Event → Bool
  | .kicked _ member _ _ => member = address
  | .memberSwapped _ former successor | .vacancyFilled _ former successor _ =>
    former = address || successor = address
  | _ => false

namespace Event

variable {circle : Nat} {address : Address}

theorem moves_kicked {member : Address} {refund penalty : Amount} :
    moves address (.kicked circle member refund penalty) = false ↔ member ≠ address := by
  simp [moves]

theorem moves_memberSwapped {former successor : Address} :
    moves address (.memberSwapped circle former successor) = false ↔
      former ≠ address ∧ successor ≠ address := by
  simp [moves]

theorem moves_vacancyFilled {exiting successor : Address} {refund : Amount} :
    moves address (.vacancyFilled circle exiting successor refund) = false ↔
      exiting ≠ address ∧ successor ≠ address := by
  simp [moves]

theorem unmoved_of_decisions {kept : Circle} {records : Records} {done : Event}
    (unmoved : done.moves address = false) :
    ∀ event ∈ (kept.settle records).2 ++ [done], event.moves address = false :=
  kept.forall_mem_decided records (fun _ decision => by cases decision <;> rfl) unmoved

end Event

namespace Circle

/-- The directory finds members only, each at the last of their seats, and it finds all of them
but the reserved address. -/
structure Indexed (circle : Circle) : Prop where
  found {address position} : circle.position? address = some position →
    circle.members[position]? = some address ∧ address ∉ circle.members.drop (position + 1)
  complete {address} : address ∈ circle.members → address ≠ Directory.reserved →
    (circle.position? address).isSome

/-- What holds of every circle. -/
structure Sound (circle : Circle) : Prop where
  positive : 0 < circle.contribution
  safe : circle.contribution ≤ Number.maxSafe
  indexed : circle.Indexed

variable {circle next : Circle}

theorem Indexed.of_directory (drawn : circle.directory = .ofRoster circle.members) :
    circle.Indexed where
  found here := by
    rw [position?, drawn] at here
    exact Directory.position?_ofRoster_eq_some_iff.1 here
  complete mem _ := by
    rw [position?, drawn]
    exact Directory.isSome_position?_ofRoster.2 mem

theorem Indexed.congr (indexed : circle.Indexed) (members : next.members = circle.members)
    (directory : next.directory = circle.directory) : next.Indexed where
  found here := by
    rw [members]
    rw [position?, directory] at here
    exact indexed.found here
  complete mem apart := by
    rw [members] at mem
    rw [position?, directory]
    exact indexed.complete mem apart

theorem Indexed.mem_of_position? (indexed : circle.Indexed) {address : Address} {position : Nat}
    (found : circle.position? address = some position) : address ∈ circle.members :=
  List.mem_of_getElem? (indexed.found found).1

theorem Indexed.position?_eq_none (indexed : circle.Indexed) {address : Address}
    (absent : address ∉ circle.members) : circle.position? address = none := by
  cases placed : circle.position? address with
  | none => rfl
  | some position => exact absurd (indexed.mem_of_position? placed) absent

theorem seat?_eq_some_iff {address : Address} {position : Nat} {seat : Seat} :
    circle.seat? address = some (position, seat) ↔
      circle.position? address = some position ∧ circle.seats[position]? = some seat := by
  simp only [seat?, bind, Option.bind_eq_some_iff, pure, Option.some.injEq, Prod.mk.injEq]
  constructor
  · rintro ⟨_, found, _, here, rfl, rfl⟩
    exact ⟨found, here⟩
  · rintro ⟨found, here⟩
    exact ⟨position, found, seat, here, rfl, rfl⟩

theorem seat?_of_modify {address : Address} {position : Nat} {seat : Seat} {change : Seat → Seat}
    (seated : circle.seat? address = some (position, seat))
    (directory : next.directory = circle.directory)
    (seats : next.seats = circle.seats.modify position change) :
    next.seat? address = some (position, change seat) := by
  obtain ⟨found, here⟩ := seat?_eq_some_iff.1 seated
  refine seat?_eq_some_iff.2 ⟨by rw [position?, directory, ← position?, found], ?_⟩
  rw [seats, List.getElem?_modify_eq, here]
  rfl

theorem seat?_of_activeSeat? {records : Records} {address : Address} {found : Nat × Seat}
    (active : circle.activeSeat? records address = some found) :
    circle.isEjected records address = false ∧ circle.seat? address = some found := by
  rw [activeSeat?] at active
  split at active
  · simp at active
  · next takesPart => exact ⟨by simpa using takesPart, active⟩

theorem activeSeat?_of_seat? {records : Records} {address : Address} {found : Nat × Seat}
    (takesPart : circle.isEjected records address = false)
    (seated : circle.seat? address = some found) :
    circle.activeSeat? records address = some found := by
  rw [activeSeat?, takesPart]
  exact seated

theorem isEjected_congr {records others : Records} {address : Address} (id : next.id = circle.id)
    (status : (others.record? circle.id address).map (·.status) =
      (records.record? circle.id address).map (·.status)) :
    next.isEjected others address = circle.isEjected records address := by
  rw [isEjected, isEjected, statusOf, statusOf, id, status]

theorem isEjected_iff {records : Records} {address : Address} :
    circle.isEjected records address = true ↔
      (records.record? circle.id address).map (·.status) = some .ejected := by
  rw [isEjected, statusOf]
  cases records.record? circle.id address <;> simp

theorem Indexed.ne_of_seat? (indexed : circle.Indexed) {stranger address : Address}
    {found : Nat × Seat} (noMember : stranger ∉ circle.members)
    (seated : circle.seat? address = some found) : address ≠ stranger := by
  rintro rfl
  exact noMember (indexed.mem_of_position? (seat?_eq_some_iff.1 seated).1)

theorem Indexed.holder_of_seat? (indexed : circle.Indexed) {address : Address} {position : Nat}
    {seat : Seat} (seated : circle.seat? address = some (position, seat)) :
    circle.seats[position]? = some seat ∧ seat.holder = address := by
  obtain ⟨found, here⟩ := seat?_eq_some_iff.1 seated
  refine ⟨here, ?_⟩
  have stands := (indexed.found found).1
  rw [members, List.getElem?_map, here] at stands
  exact Option.some.inj stands

theorem Indexed.exists_seat? (indexed : circle.Indexed) {address : Address}
    (found : (circle.position? address).isSome) :
    ∃ position seat, circle.seat? address = some (position, seat) := by
  obtain ⟨position, placed⟩ := Option.isSome_iff_exists.1 found
  have stands := (indexed.found placed).1
  rw [members, List.getElem?_map, Option.map_eq_some_iff] at stands
  obtain ⟨seat, here, _⟩ := stands
  exact ⟨position, seat, seat?_eq_some_iff.2 ⟨placed, here⟩⟩

theorem Indexed.isSome_position? (indexed : circle.Indexed) {address : Address}
    (mem : address ∈ circle.members) (unreserved : Directory.reserved ∉ circle.members) :
    (circle.position? address).isSome :=
  indexed.complete mem fun same => unreserved (same ▸ mem)

theorem Indexed.not_mem (indexed : circle.Indexed) {address : Address}
    (absent : circle.position? address = none) (apart : address ≠ Directory.reserved) :
    address ∉ circle.members := by
  intro mem
  have found := indexed.complete mem apart
  simp [absent] at found

theorem Indexed.isNew (indexed : circle.Indexed) {address : Address} {roster : List Address}
    (absent : circle.position? address = none) (takes : address ∈ roster)
    (unreserved : Directory.reserved ∉ roster) : address ∉ circle.members :=
  indexed.not_mem absent fun same => unreserved (same ▸ takes)

theorem Indexed.stands_of_seat? (indexed : circle.Indexed) {address : Address} {position : Nat}
    {seat : Seat} (seated : circle.seat? address = some (position, seat)) :
    circle.members[position]? = some address :=
  (indexed.found (seat?_eq_some_iff.1 seated).1).1

theorem position?_addSeat (circle : Circle) (member address : Address) :
    (circle.addSeat member).position? address =
      if address = member ∧ member ≠ Directory.reserved then some circle.seats.length
      else circle.position? address :=
  Directory.position?_enter ..

@[simp] theorem position?_settle {records : Records} {address : Address} :
    (circle.settle records).1.position? address = circle.position? address := by
  rw [position?, directory_settle, position?]

/-- A seat at the end of the roster is found there. -/
theorem Indexed.addSeat (indexed : circle.Indexed) {member : Address}
    (absent : circle.position? member = none) : (circle.addSeat member).Indexed := by
  have size : circle.members.length = circle.seats.length := by simp [members]
  constructor
  · intro address found here
    rw [position?_addSeat] at here
    rw [members_addSeat]
    by_cases isNew : address = member ∧ member ≠ Directory.reserved
    · rw [if_pos isNew] at here
      obtain rfl := Option.some.inj here
      simp [← size, isNew.1]
    · rw [if_neg isNew] at here
      obtain ⟨stands, last⟩ := indexed.found here
      obtain ⟨inside, _⟩ := List.getElem?_eq_some_iff.1 stands
      have differ : address ≠ member := by
        rintro rfl
        simp [absent] at here
      refine ⟨by rw [List.getElem?_append_left inside, stands], ?_⟩
      rw [List.drop_append_of_le_length inside]
      simpa [differ] using last
  · intro address mem apart
    rw [position?_addSeat]
    rw [members_addSeat, List.mem_append, List.mem_singleton] at mem
    rcases mem with mem | rfl
    · split
      · rfl
      · exact indexed.complete mem apart
    · simp [apart]

@[simp] theorem renamed_self (former successor : Address) :
    renamed former successor former = successor := if_pos rfl

theorem renamed_of_ne {former successor address : Address} (differ : address ≠ former) :
    renamed former successor address = address := if_neg differ

theorem mem_members_renameMember (circle : Circle) {former successor : Address}
    (mem : former ∈ circle.members) :
    successor ∈ (circle.renameMember former successor).members := by
  rw [members_renameMember]
  exact List.mem_map.2 ⟨former, mem, renamed_self ..⟩

theorem mem_members_vacateSeat (circle : Circle) {exiting successor : Address} {position : Nat}
    (stands : circle.members[position]? = some exiting) :
    successor ∈ (circle.vacateSeat position exiting successor).members := by
  obtain ⟨inside, _⟩ := List.getElem?_eq_some_iff.1 stands
  rw [members_vacateSeat]
  exact List.mem_set inside _

theorem renamed_inj {former successor : Address} {roster : List Address}
    (absent : successor ∉ roster) {a b : Address} (isA : a ∈ roster) (isB : b ∈ roster)
    (same : renamed former successor a = renamed former successor b) : a = b := by
  by_cases first : a = former <;> by_cases second : b = former
  · rw [first, second]
  · rw [first, renamed_self, renamed_of_ne second] at same
    exact absurd (same ▸ isB) absent
  · rw [second, renamed_self, renamed_of_ne first] at same
    exact absurd (same ▸ isA) absent
  · rwa [renamed_of_ne first, renamed_of_ne second] at same

theorem nodup_map_renamed {former successor : Address} {roster : List Address}
    (nodup : roster.Nodup) (absent : successor ∉ roster) :
    (roster.map (renamed former successor)).Nodup :=
  nodup.map_on fun _ isA _ isB same => renamed_inj absent isA isB same

theorem IsNew.sound (isNew : circle.IsNew) : circle.Sound where
  positive := isNew.positive
  safe := isNew.safe
  indexed :=
    { found := fun found => by simp [position?, isNew.directory] at found
      complete := fun mem => by simp [members, isNew.seats] at mem }

end Circle

variable {host : Host} {moment : Moment} {books : Books} {circle : Circle} {caller : Address}
variable {operation : Operation} {change : Change}

theorem Swapping.indexed {former successor : Address} (indexed : circle.Indexed)
    (swapping : Swapping moment books circle former successor change) :
    change.circle.Indexed := by
  cases swapping with
  | same => exact indexed
  | renamed _ _ _ _ _ isRenamed =>
      subst isRenamed
      exact .of_directory (by simp [Circle.renameMember, Circle.reindexed, Circle.members])

/-- Every call keeps the directory in line with the roster. -/
theorem Deed.indexed (indexed : circle.Indexed)
    (deed : Deed host moment books circle caller operation change) : change.circle.Indexed := by
  cases deed with
  | join _ absent => exact indexed.addSeat absent
  | swap _ swapping | swapByAdmin swapping => exact swapping.indexed indexed
  | kick _ _ _ _ _ _ _ _ _ isRemoved _ isKept =>
      subst isKept isRemoved
      exact .of_directory (by simp [Circle.removeSeat, Circle.reindexed, Circle.members])
  | fillVacancy _ _ _ _ _ _ _ _ isVacated _ isKept =>
      subst isKept isVacated
      exact .of_directory (by simp [Circle.vacateSeat, Circle.reindexed, Circle.members])
  | eject | proposeDissolution | voteDissolution | proposeLateFee | voteLateFee =>
      exact indexed.congr Circle.members_settle Circle.directory_settle
  | processPayout _ _ _ _ _ _ _ _ isPaid =>
      subst isPaid
      exact indexed.congr (by simp) rfl
  | rollover => exact indexed.congr (by simp) rfl
  | contribute =>
      refine indexed.congr ?_ rfl
      exact Circle.members_updateSeat circle _ fun _ => rfl
  | coverMember _ _ _ _ _ isCovered =>
      subst isCovered
      refine indexed.congr ?_ rfl
      exact Circle.members_updateSeat circle _ fun _ => rfl
  | withdrawProRata =>
      refine indexed.congr ?_ rfl
      exact Circle.members_updateSeat circle _ fun _ => rfl
  | handOver | requestExit | finalizeAgain | finalize | withdrawNothing =>
      exact indexed.congr rfl rfl

/-- Every call keeps what holds of every circle. -/
theorem Deed.sound (sound : circle.Sound)
    (deed : Deed host moment books circle caller operation change) : change.circle.Sound where
  positive := by
    rw [deed.lasts.contribution]
    exact sound.positive
  safe := by
    rw [deed.lasts.contribution]
    exact sound.safe
  indexed := deed.indexed sound.indexed

theorem circleInvariant_sound (host : Host) :
    CircleInvariant host (fun _ => True) fun circle _ _ => circle.Sound where
  congr sound _ := sound
  founded isNew := isNew.sound
  deed sound deed _ := deed.sound sound

end SavingsCircle
