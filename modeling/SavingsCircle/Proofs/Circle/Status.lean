import SavingsCircle.Proofs.Circle.Roster

/-!
# Where members stand

A member's status stands in the member's record. A call changes it for the member it names and for
nobody else: it hands a seat on, puts a member out, or takes a wish to leave down. Whoever is put
out therefore stays so (`Deed.isEjected`).
-/

namespace SavingsCircle

/-- Whether an event changes the status of an address that keeps its seat. -/
def Event.ranks (address : Address) : Event → Bool
  | .memberEjected _ member | .exitRequested _ member => member = address
  | _ => false

def Event.concerns (address : Address) (event : Event) : Bool :=
  event.moves address || event.ranks address

theorem Event.unconcerned_of_decisions {address : Address} {kept : Circle} {records : Records}
    {done : Event} (unconcerned : done.concerns address = false) :
    ∀ event ∈ (kept.settle records).2 ++ [done], event.concerns address = false :=
  kept.forall_mem_decided records (fun _ decision => by cases decision <;> rfl) unconcerned

namespace Circle

variable {circle next : Circle} {records others : Records} {address : Address}

theorem statusOf_congr (id : next.id = circle.id)
    (status : (others.record? circle.id address).map (·.status) =
      (records.record? circle.id address).map (·.status)) :
    next.statusOf others address = circle.statusOf records address := by
  rw [statusOf, statusOf, id, status]

theorem statusOf_settle {voters : Records} (address : Address) :
    (circle.settle voters).1.statusOf records address = circle.statusOf records address :=
  statusOf_congr id_settle rfl

theorem statusOf_update {record : MemberRecord}
    (recorded : records.record? circle.id address = some record) (status : Status) :
    circle.statusOf (records.update circle.id address fun _ => { record with status }) address =
      status := by
  rw [statusOf, Records.record?_update _ _ _ _ _ fun _ _ => by
    simpa using Records.isOf_of_record? recorded, if_pos ⟨rfl, rfl⟩, recorded]
  rfl

theorem statusOf_enroll (circle : Circle) (records : Records) (address : Address) (index : Nat)
    (now : Number) :
    circle.statusOf (records.enroll circle.id address index now) address = .active := by
  rw [statusOf, Records.record?_enroll, if_pos ⟨rfl, rfl⟩]
  rfl

end Circle

section

variable {host : Host} {moment : Moment} {books : Books} {circle : Circle} {caller : Address}
variable {operation : Operation} {change : Change}

/-- A successor takes over the status along with the seat; the other members keep theirs. -/
theorem Circle.statusOf_renameMember {former successor address : Address} {record : MemberRecord}
    {records : Records} (position : Nat) (now : Number) (directory : Directory)
    (recorded : records.record? circle.id former = some record) (apart : address ≠ successor) :
    (circle.renameMember former successor).statusOf
        ((((records.remove circle.id former).enroll circle.id successor position now).update
          circle.id successor fun fresh =>
            { fresh with
              contributionCount := record.contributionCount
              lastContributionAt := record.lastContributionAt
              status := record.status }).reindex circle.id directory)
        (Circle.renamed former successor address) =
      circle.statusOf records address := by
  rw [statusOf, statusOf, Records.status_reindex]
  change (Option.map _ (Records.record? _ circle.id _)).getD _ = _
  rw [Records.record?_update _ _ _ _ _ (by simp), Records.record?_enroll, Records.record?_remove]
  by_cases here : address = former
  · simp [here, recorded]
  · simp [renamed_of_ne here, apart, here]

theorem Swapping.statusOf {former successor address : Address}
    (unmoved : ∀ event ∈ change.events, event.moves address = false)
    (swapping : Swapping moment books circle former successor change) :
    change.circle.statusOf change.records address = circle.statusOf books.records address := by
  cases swapping with
  | same => rfl
  | @renamed position _ _ _ _ _ _ _ recorded isRenamed areRecords =>
      obtain ⟨apart, differ⟩ := Event.moves_memberSwapped.1 (unmoved _ (List.mem_singleton_self _))
      subst isRenamed areRecords
      have handed := Circle.statusOf_renameMember position moment.now
        (circle.renameMember former successor).directory recorded differ.symm
      rw [Circle.renamed_of_ne apart.symm] at handed
      exact handed

/-- A member who is not moved keeps the status, unless an event names the member: one who is then
put out, or who had taken part and wishes to leave. -/
theorem Deed.statusOf_cases {address : Address} (seated : (circle.position? address).isSome)
    (unmoved : ∀ event ∈ change.events, event.moves address = false)
    (deed : Deed host moment books circle caller operation change) :
    change.circle.statusOf change.records address = circle.statusOf books.records address ∨
      (∃ event ∈ change.events, event.ranks address = true) ∧
        (change.circle.statusOf change.records address = .ejected ∨
          circle.statusOf books.records address = .active) := by
  have id := deed.lasts.id
  cases deed with
  | join _ absent =>
      have differ : address ≠ caller := by
        rintro rfl
        simp [absent] at seated
      refine .inl (Circle.statusOf_congr id ?_)
      rw [Records.record?_enroll, if_neg (by simp [differ])]
  | kick _ _ _ _ _ _ _ _ _ _ areRecords =>
      have apart := Event.moves_kicked.1
        (unmoved _ (List.mem_append_right _ (List.mem_singleton_self _)))
      subst areRecords
      refine .inl (Circle.statusOf_congr id ?_)
      rw [Records.record?_remove, if_neg (by simp [apart.symm]), Records.status_reindex]
  | swap _ swapping | swapByAdmin swapping => exact .inl (swapping.statusOf unmoved)
  | @eject _ _ member _ _ _ _ recorded _ areRecords =>
      subst areRecords
      by_cases here : address = member
      · subst here
        refine .inr ⟨⟨_, List.mem_append_right _ (List.mem_singleton_self _), ?_⟩, .inl ?_⟩
        · exact decide_eq_true rfl
        · exact (Circle.statusOf_settle _).trans (Circle.statusOf_update recorded _)
      · refine .inl (Circle.statusOf_congr id ?_)
        rw [Records.record?_update _ _ _ _ _ fun _ _ => by
          simpa using Records.isOf_of_record? recorded, if_neg (by simp [here])]
  | requestExit _ _ recorded active =>
      by_cases here : address = caller
      · subst here
        refine .inr ⟨⟨_, List.mem_singleton_self _, decide_eq_true rfl⟩, .inr ?_⟩
        rw [Circle.statusOf, recorded]
        exact active
      · refine .inl (Circle.statusOf_congr id ?_)
        rw [Records.record?_update _ _ _ _ _ fun _ _ => by
          simpa using Records.isOf_of_record? recorded, if_neg (by simp [here])]
  | fillVacancy _ _ _ _ _ _ _ _ _ areRecords =>
      obtain ⟨apart, differ⟩ := Event.moves_vacancyFilled.1
        (unmoved _ (List.mem_append_right _ (List.mem_singleton_self _)))
      subst areRecords
      refine .inl (Circle.statusOf_congr id ?_)
      rw [Records.record?_enroll, if_neg (by simp [differ.symm]), Records.status_reindex,
        Records.record?_update _ _ _ _ _ (by simp), if_neg (by simp [apart.symm])]
  | contribute =>
      refine .inl (Circle.statusOf_congr id ?_)
      exact Records.map_record?_update _ _ _ _ _ address (by simp) fun _ _ => rfl
  | proposeDissolution | voteDissolution | proposeLateFee | voteLateFee =>
      exact .inl (Circle.statusOf_congr id rfl)
  | processPayout _ _ _ _ _ _ _ _ isPaid =>
      subst isPaid
      exact .inl rfl
  | coverMember _ _ _ _ _ isCovered =>
      subst isCovered
      exact .inl rfl
  | _ => exact .inl rfl

/-- The status of a member stays the same for as long as no event concerns the member. -/
theorem Deed.statusOf {address : Address} (seated : (circle.position? address).isSome)
    (unconcerned : ∀ event ∈ change.events, event.concerns address = false)
    (deed : Deed host moment books circle caller operation change) :
    change.circle.statusOf change.records address = circle.statusOf books.records address := by
  have apart event (mem : event ∈ change.events) := Bool.or_eq_false_iff.1 (unconcerned event mem)
  obtain same | ⟨⟨event, mem, ranked⟩, _⟩ :=
    deed.statusOf_cases seated fun event mem => (apart event mem).1
  · exact same
  · exact absurd ranked (by simp [(apart event mem).2])

/-- Whoever is put out of a circle stays so for as long as no event moves them. -/
theorem Deed.isEjected {address : Address} (seated : (circle.position? address).isSome)
    (unmoved : ∀ event ∈ change.events, event.moves address = false)
    (out : circle.isEjected books.records address = true)
    (deed : Deed host moment books circle caller operation change) :
    circle.isEjected change.records address = true := by
  rw [← Circle.isEjected_congr deed.lasts.id rfl]
  rw [Circle.isEjected, beq_iff_eq] at out ⊢
  obtain same | ⟨_, putOut | active⟩ := deed.statusOf_cases seated unmoved
  · rw [same, out]
  · exact putOut
  · exact absurd (out.symm.trans active) (by decide)

end

end SavingsCircle
