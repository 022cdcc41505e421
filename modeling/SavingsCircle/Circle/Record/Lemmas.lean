import SavingsCircle.Circle.Record

/-!
# What is found among records

Each operation on the records, seen through `Records.record?`: it changes what is found for the
addresses it names, in the circle it names, and nothing else.
-/

namespace SavingsCircle.Records

theorem isOf_of_record? {records : Records} {circle : Nat} {address : Address}
    {record : MemberRecord} (found : records.record? circle address = some record) :
    record.circle = circle ∧ record.address = address := by
  simpa using List.find?_some found

theorem record?_map (records : Records) {change : MemberRecord → MemberRecord}
    (keeps : ∀ record, (change record).circle = record.circle ∧
      (change record).address = record.address) (circle : Nat) (address : Address) :
    Records.record? (records.map change) circle address =
      (records.record? circle address).map change := by
  have same : (fun record : MemberRecord => record.isOf circle address) ∘ change =
      fun record => record.isOf circle address := by
    funext record
    simp [MemberRecord.isOf, keeps record]
  simp only [record?, List.find?_map, same]

/-- Changing the record of an address in a circle leaves what is found for others alone. -/
theorem record?_update (records : Records) (circle other : Nat) (address someone : Address)
    {change : MemberRecord → MemberRecord}
    (keeps : ∀ record, record.isOf circle address = true →
      (change record).isOf circle address = true) :
    (records.update circle address change).record? other someone =
      if other = circle ∧ someone = address then (records.record? other someone).map change
      else records.record? other someone := by
  rw [Records.update, record?_map]
  · cases found : records.record? other someone with
    | none => simp
    | some record =>
      obtain ⟨rfl, rfl⟩ := isOf_of_record? found
      simp only [Option.map_some, MemberRecord.isOf_eq_true_iff]
      split <;> rfl
  · intro record
    split
    · next isTheirs =>
      obtain ⟨rfl, rfl⟩ := MemberRecord.isOf_eq_true_iff.1 isTheirs
      exact MemberRecord.isOf_eq_true_iff.1 (keeps record isTheirs)
    · exact ⟨rfl, rfl⟩

/-- Changing a record leaves alone what the change keeps. -/
theorem map_record?_update {α : Type} (field : MemberRecord → α) (records : Records)
    (circle other : Nat) (address someone : Address) {change : MemberRecord → MemberRecord}
    (keeps : ∀ record, record.isOf circle address = true →
      (change record).isOf circle address = true)
    (same : ∀ record, records.record? circle address = some record →
      field (change record) = field record) :
    ((records.update circle address change).record? other someone).map field =
      (records.record? other someone).map field := by
  rw [record?_update _ _ _ _ _ keeps]
  split
  · next here =>
    obtain ⟨rfl, rfl⟩ := here
    cases found : records.record? other someone with
    | none => rfl
    | some record => simp [same record found]
  · rfl

/-- The records of two addresses can be changed in either order. -/
theorem update_comm (records : Records) (circle : Nat) {address other : Address}
    (differ : address ≠ other) {change changeOther : MemberRecord → MemberRecord}
    (keeps : ∀ record, record.isOf circle address = true →
      (change record).isOf circle address = true)
    (keepsOther : ∀ record, record.isOf circle other = true →
      (changeOther record).isOf circle other = true) :
    (records.update circle address change).update circle other changeOther =
      (records.update circle other changeOther).update circle address change := by
  have apart {record : MemberRecord} (theirs : record.isOf circle address = true) :
      ¬record.isOf circle other = true := fun others =>
    differ ((MemberRecord.isOf_eq_true_iff.1 theirs).2.symm.trans
      (MemberRecord.isOf_eq_true_iff.1 others).2)
  simp only [Records.update, List.map_map]
  refine List.map_congr_left fun record _ => ?_
  by_cases theirs : record.isOf circle address = true
  · simp only [Function.comp_apply, if_pos theirs, if_neg (apart theirs),
      if_neg (apart (keeps record theirs))]
  · by_cases others : record.isOf circle other = true
    · have still : ¬(changeOther record).isOf circle address = true := fun both =>
        apart both (keepsOther record others)
      simp only [Function.comp_apply, if_neg theirs, if_pos others, if_neg still]
    · simp only [Function.comp_apply, if_neg theirs, if_neg others]

/-- A dropped record is no longer found. -/
theorem record?_remove (records : Records) (circle other : Nat) (address someone : Address) :
    (records.remove circle address).record? other someone =
      if other = circle ∧ someone = address then none else records.record? other someone := by
  rw [record?, Records.remove, List.find?_filter]
  by_cases same : other = circle ∧ someone = address
  · obtain ⟨rfl, rfl⟩ := same
    simp only [and_self, if_true, List.find?_eq_none]
    intro record _
    cases record.isOf other someone <;> simp
  · rw [if_neg same, record?]
    congr 1
    funext record
    cases isTheirs : record.isOf other someone with
    | false => simp
    | true =>
      obtain ⟨rfl, rfl⟩ := MemberRecord.isOf_eq_true_iff.1 isTheirs
      have apart : ¬record.isOf circle address = true := by simpa using same
      simp [apart]

/-- An address that takes a seat has a fresh record then. -/
theorem record?_enroll (records : Records) (circle other : Nat) (address someone : Address)
    (index : Nat) (now : Number) :
    (records.enroll circle address index now).record? other someone =
      if other = circle ∧ someone = address then
        some (MemberRecord.fresh circle address index now)
      else records.record? other someone := by
  have isFresh : (MemberRecord.fresh circle address index now).isOf circle address = true := by
    simp [MemberRecord.fresh]
  rw [Records.enroll]
  split
  · next present =>
    rw [record?_update _ _ _ _ _ fun _ _ => isFresh]
    by_cases same : other = circle ∧ someone = address
    · obtain ⟨found, isFound⟩ := Option.isSome_iff_exists.1 present
      obtain ⟨rfl, rfl⟩ := same
      simp [isFound]
    · simp [same]
  · next absent =>
    by_cases same : other = circle ∧ someone = address
    · obtain ⟨rfl, rfl⟩ := same
      have none : records.find? (fun record => record.isOf other someone) = none := by
        simpa [record?] using absent
      simp only [record?, List.find?_append, none, and_self, if_true]
      simp [isFresh]
    · have apart : ¬(MemberRecord.fresh circle address index now).isOf other someone = true := by
        rw [MemberRecord.isOf_eq_true_iff]
        rintro ⟨rfl, rfl⟩
        exact same ⟨rfl, rfl⟩
      simp [record?, List.find?_append, apart, same]

/-- Bringing positions in line moves no record to another address or circle. -/
theorem record?_reindex (records : Records) (circle other : Nat) (directory : Directory)
    (address : Address) :
    (records.reindex circle directory).record? other address =
      (records.record? other address).map fun record =>
        if other = circle then
          { record with index := (directory.position? address).getD record.index }
        else record := by
  rw [Records.reindex, record?_map _ (by intro record; split <;> (try split) <;> simp)]
  cases found : records.record? other address with
  | none => rfl
  | some record =>
    obtain ⟨rfl, rfl⟩ := isOf_of_record? found
    simp only [Option.map_some]
    split
    · cases placed : directory.position? record.address <;> simp
    · rfl

theorem status_reindex (records : Records) (circle other : Nat) (directory : Directory)
    (address : Address) :
    ((records.reindex circle directory).record? other address).map (·.status) =
      (records.record? other address).map (·.status) := by
  rw [record?_reindex, Option.map_map]
  congr 1
  funext record
  simp only [Function.comp]
  split <;> rfl

end SavingsCircle.Records
