import SavingsCircle.Proofs.Circle.Invariant

/-!
# Circles side by side

All circles share one list of member records, one custody account and one configuration, and an
address may be a member of many of them. What keeps them apart is that every change of a record is
made under the number of the circle it belongs to. So the records of some circles
(`Records.select`) are left alone by every change made under another number, and a change made under
one of theirs is the same change made among them alone.
-/

namespace SavingsCircle

theorem filter_map_of_stays {α : Type} {keep : α → Bool} {change : α → α} (items : List α)
    (same : ∀ item, keep (change item) = keep item)
    (stays : ∀ item, keep item = true → change item = item) :
    (items.map change).filter keep = items.filter keep := by
  have kept : keep ∘ change = keep := funext same
  rw [List.filter_map, kept]
  refine (List.map_congr_left fun item mem => ?_).trans (List.map_id _)
  exact stays item (List.mem_filter.1 mem).2

theorem MemberRecord.circle_of_isOf {record : MemberRecord} {circle : Nat} {address : Address}
    (own : record.isOf circle address = true) : record.circle = circle :=
  (MemberRecord.isOf_eq_true_iff.1 own).1

namespace Records

def select (records : Records) (keep : Nat → Bool) : Records :=
  records.filter fun record => keep record.circle

variable {records : Records} {keep : Nat → Bool} {circle : Nat} {address : Address}
variable {change : MemberRecord → MemberRecord}

theorem record?_select (kept : keep circle = true) (address : Address) :
    (records.select keep).record? circle address = records.record? circle address := by
  rw [record?, select, List.find?_filter]
  congr 1
  funext record
  by_cases own : record.isOf circle address = true
  · rw [own, MemberRecord.circle_of_isOf own, kept]
    rfl
  · simp [own]

theorem select_map (keeps : ∀ record, (change record).circle = record.circle) :
    Records.select (records.map change) keep = (records.select keep).map change := by
  rw [select, List.filter_map, select]
  congr 1
  apply List.filter_congr
  intro record _
  simp [keeps]

theorem select_update (keeps : ∀ record, record.isOf circle address = true →
    (change record).circle = circle) :
    (records.update circle address change).select keep =
      (records.select keep).update circle address change := by
  refine select_map fun record => ?_
  split
  · next own => rw [keeps record own, MemberRecord.circle_of_isOf own]
  · rfl

theorem select_remove :
    (records.remove circle address).select keep = (records.select keep).remove circle address := by
  simp only [select, remove, List.filter_filter, Bool.and_comm]

theorem select_reindex (directory : Directory) :
    (records.reindex circle directory).select keep =
      (records.select keep).reindex circle directory := by
  refine select_map fun record => ?_
  split
  · split <;> rfl
  · rfl

theorem select_append (others : Records) :
    Records.select (records ++ others) keep = records.select keep ++ Records.select others keep :=
  List.filter_append ..

theorem select_enroll (kept : keep circle = true) (index : Nat) (now : Number) :
    (records.enroll circle address index now).select keep =
      (records.select keep).enroll circle address index now := by
  rw [enroll, enroll, record?_select kept]
  split
  · exact select_update fun _ _ => rfl
  · rw [select_append]
    congr 1
    simp [select, MemberRecord.fresh, kept]

theorem select_map_other (absent : keep circle = false)
    (keeps : ∀ record, (change record).circle = record.circle)
    (stays : ∀ record, record.circle ≠ circle → change record = record) :
    Records.select (records.map change) keep = records.select keep := by
  refine filter_map_of_stays records (fun record => by rw [keeps]) fun record kept => ?_
  refine stays record fun own => ?_
  rw [own, absent] at kept
  cases kept

theorem select_update_other (absent : keep circle = false)
    (keeps : ∀ record, record.isOf circle address = true → (change record).circle = circle) :
    (records.update circle address change).select keep = records.select keep := by
  refine select_map_other absent (fun record => ?_) fun record apart => ?_
  · split
    · next own => rw [keeps record own, MemberRecord.circle_of_isOf own]
    · rfl
  · exact if_neg fun own => apart (MemberRecord.circle_of_isOf own)

theorem select_reindex_other (absent : keep circle = false) (directory : Directory) :
    (records.reindex circle directory).select keep = records.select keep := by
  refine select_map_other absent (fun record => ?_) fun record apart => if_neg apart
  split
  · split <;> rfl
  · rfl

theorem select_remove_other (absent : keep circle = false) :
    (records.remove circle address).select keep = records.select keep := by
  rw [select, remove, List.filter_filter]
  apply List.filter_congr
  intro record _
  by_cases own : record.isOf circle address = true
  · simp [MemberRecord.circle_of_isOf own, absent]
  · simp [own]

theorem select_enroll_other (absent : keep circle = false) (index : Nat) (now : Number) :
    (records.enroll circle address index now).select keep = records.select keep := by
  rw [enroll]
  split
  · exact select_update_other absent fun _ _ => rfl
  · rw [select_append]
    simp [select, MemberRecord.fresh, absent]

end Records

namespace Operation

def isOn (operation : Operation) (number : Nat) : Bool :=
  operation.circleId?.bind (·.nat?) == some number

/-- Whether a call is about what a user has deposited of an asset. -/
def isAbout (operation : Operation) (entry : CustodyEntry) : Bool :=
  match operation with
  | .deposit (some proof) asset _ | .emergencyWithdraw (some proof) asset =>
    entry.isOf proof.principal asset
  | _ => false

def isLocal : Operation → Bool
  | .claimProtocol _ | .adminAction _ | .setProtocolFee .. | .createCircle .. => false
  | _ => true

theorem isOn_iff {operation : Operation} {number : Nat} :
    operation.isOn number = true ↔
      ∃ id, operation.circleId? = some id ∧ id.nat? = some number := by
  rw [isOn, beq_iff_eq, Option.bind_eq_some_iff]

end Operation

/-- All that a call is not about is the same in the books after it. -/
structure LeavesOthers (operation : Operation) (now : Number) (books next : Books) : Prop where
  circles : next.circles.filter (fun circle => !operation.isOn circle.id) =
    books.circles.filter fun circle => !operation.isOn circle.id
  records : next.records.select (fun number => !operation.isOn number) =
    books.records.select fun number => !operation.isOn number
  custody : next.custody.filter (fun entry => !operation.isAbout entry) =
    books.custody.filter fun entry => !operation.isAbout entry
  protocol : next.protocol = books.protocol
  circleCount : next.circleCount = books.circleCount
  lastActiveAt : next.lastActiveAt = books.lastActiveAt ∨ next.lastActiveAt = now

theorem LeavesOthers.refl (operation : Operation) (now : Number) (books : Books) :
    LeavesOthers operation now books books :=
  ⟨rfl, rfl, rfl, rfl, rfl, .inl rfl⟩

section

variable {host : Host} {moment : Moment} {books : Books} {circle : Circle} {caller : Address}
variable {operation : Operation} {effect : Effect} {change : Change} {keep : Nat → Bool}

theorem Swapping.select_records {former successor : Address}
    (swapping : Swapping moment books circle former successor change)
    (absent : keep circle.id = false) :
    change.records.select keep = books.records.select keep := by
  cases swapping with
  | same => rfl
  | renamed _ _ _ _ _ _ areRecords =>
      subst areRecords
      dsimp only
      rw [Records.select_reindex_other absent, Records.select_update_other absent,
        Records.select_enroll_other absent, Records.select_remove_other absent]
      exact fun _ => MemberRecord.circle_of_isOf

/-- A call on a circle leaves the records of other circles alone. -/
theorem Deed.select_records (deed : Deed host moment books circle caller operation change)
    (absent : keep circle.id = false) :
    change.records.select keep = books.records.select keep := by
  cases deed with
  | swap _ swapping | swapByAdmin swapping => exact swapping.select_records absent
  | join => exact Records.select_enroll_other absent _ _
  | kick _ _ _ _ _ _ _ _ _ _ areRecords =>
      subst areRecords
      dsimp only
      rw [Records.select_remove_other absent, Records.select_reindex_other absent]
  | eject _ _ recorded _ areRecords =>
      subst areRecords
      dsimp only
      rw [Records.select_update_other absent]
      exact fun _ _ => (Records.isOf_of_record? recorded).1
  | requestExit _ _ recorded =>
      dsimp only
      rw [Records.select_update_other absent]
      exact fun _ _ => (Records.isOf_of_record? recorded).1
  | fillVacancy _ _ _ _ _ _ _ _ _ areRecords =>
      subst areRecords
      dsimp only
      rw [Records.select_enroll_other absent, Records.select_reindex_other absent,
        Records.select_update_other absent]
      exact fun _ => MemberRecord.circle_of_isOf
  | contribute =>
      dsimp only
      rw [Records.select_update_other absent]
      exact fun _ => MemberRecord.circle_of_isOf
  | _ => rfl

/-- Replacing a circle leaves those of other numbers alone. -/
theorem Books.filter_replaceCircle (books : Books) (next : Circle) (keep : Nat → Bool)
    (absent : keep next.id = false) :
    (books.replaceCircle next).circles.filter (fun circle => keep circle.id) =
      books.circles.filter fun circle => keep circle.id := by
  apply filter_map_of_stays
  · intro circle
    by_cases own : circle.id = next.id <;> simp [own]
  · intro circle kept
    refine if_neg fun own => ?_
    rw [own, absent] at kept
    cases kept

/-- A deposit leaves the deposits of other users and assets alone. -/
theorem Books.filter_addDeposit (books : Books) (user : Address) (asset : Asset)
    (amount : Amount) :
    (books.addDeposit user asset amount).filter (fun entry => !entry.isOf user asset) =
      books.custody.filter fun entry => !entry.isOf user asset := by
  rw [Books.addDeposit]
  split
  · apply filter_map_of_stays
    · intro entry
      split <;> rfl
    · intro entry kept
      exact if_neg (by simpa using kept)
  · rw [List.filter_append, List.filter_cons_of_neg (by simp [CustodyEntry.isOf]), List.filter_nil,
      List.append_nil]

/-- A call on a circle or on a deposit leaves all others alone. -/
theorem Performs.leavesOthers (performs : Performs host moment books operation effect)
    (isLocal : operation.isLocal = true) :
    LeavesOthers operation moment.now books effect.books := by
  have others {id : Number} {circle : Circle} (named : operation.circleId? = some id)
      (found : books.circle id = .ok circle) : (!operation.isOn circle.id) = false := by
    rw [Operation.isOn_iff.2 ⟨id, named, Books.nat?_of_circle found⟩, Bool.not_true]
  cases performs with
  | @byAdmin _ _ _ change named found _ _ deed =>
      have absent := others named found
      exact
        { circles := books.filter_replaceCircle change.circle (fun number => !operation.isOn number)
            (deed.lasts.id ▸ absent)
          records := deed.select_records absent
          custody := rfl
          protocol := rfl
          circleCount := rfl
          lastActiveAt := .inr rfl }
  | @byMember _ _ _ _ change named found _ _ deed =>
      have absent := others named found
      exact
        { circles := books.filter_replaceCircle change.circle (fun number => !operation.isOn number)
            (deed.lasts.id ▸ absent)
          records := deed.select_records absent
          custody := rfl
          protocol := rfl
          circleCount := rfl
          lastActiveAt := .inl rfl }
  | deposit accepted =>
      obtain rfl := Host.eq_proofOf_of_authorize accepted
      exact { LeavesOthers.refl _ _ books with custody := books.filter_addDeposit _ _ _ }
  | emergencyWithdraw accepted =>
      obtain rfl := Host.eq_proofOf_of_authorize accepted
      refine { LeavesOthers.refl _ _ books with custody := ?_ }
      refine (List.filter_filter ..).trans (List.filter_congr fun entry _ => ?_)
      exact Bool.and_self _
  | _ => cases isLocal

end

end SavingsCircle
