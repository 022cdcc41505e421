import SavingsCircle.Proofs.Circle.Invariant

/-!
# The register of members

The records of the members of all circles stand in one list, which every change of a roster edits in
its own way: it changes records, drops one, or gives an address a fresh one in place of an old one.
All of these leave at most one record for an address in a circle (`Records.Revises`). Circles are
never removed and bear the numbers of their places, so every record belongs to a circle that is
there (`Books.Registered`).
-/

namespace SavingsCircle

namespace MemberRecord

def key (record : MemberRecord) : Nat × Address := (record.circle, record.address)

theorem isOf_iff_key {record : MemberRecord} {circle : Nat} {address : Address} :
    record.isOf circle address = true ↔ record.key = (circle, address) := by
  rw [isOf_eq_true_iff, key, Prod.mk.injEq]

end MemberRecord

namespace Records

def keys (records : Records) : List (Nat × Address) := records.map (·.key)

theorem mem_keys_iff {records : Records} {circle : Nat} {address : Address} :
    (circle, address) ∈ records.keys ↔ (records.record? circle address).isSome := by
  rw [record?, List.find?_isSome]
  simp only [keys, List.mem_map, MemberRecord.isOf_iff_key]

/-- Records that are left after changes of records of one circle. -/
structure Revises (circle : Nat) (former records : Records) : Prop where
  nodup : former.keys.Nodup → records.keys.Nodup
  mem {key} : key ∈ records.keys → key ∈ former.keys ∨ key.1 = circle

namespace Revises

variable {circle : Nat} {former records others : Records} {address : Address}

theorem of_keys_eq (same : records.keys = former.keys) : Revises circle former records where
  nodup := fun nodup => same ▸ nodup
  mem := fun mem => .inl (same ▸ mem)

theorem refl (circle : Nat) (records : Records) : Revises circle records records := of_keys_eq rfl

theorem trans (first : Revises circle former records) (second : Revises circle records others) :
    Revises circle former others where
  nodup := fun nodup => second.nodup (first.nodup nodup)
  mem := fun mem => (second.mem mem).elim first.mem .inr

/-- Changing a record leaves it the record of the same address. -/
theorem update {change : MemberRecord → MemberRecord}
    (keeps : ∀ record, record.isOf circle address = true →
      (change record).isOf circle address = true) :
    Revises circle records (records.update circle address change) := by
  apply of_keys_eq
  rw [keys, Records.update, List.map_map]
  apply List.map_congr_left
  intro record _
  simp only [Function.comp]
  split
  · next theirs =>
    rw [MemberRecord.isOf_iff_key.1 (keeps record theirs), MemberRecord.isOf_iff_key.1 theirs]
  · rfl

theorem setStatus {record : MemberRecord} (recorded : records.record? circle address = some record)
    (status : Status) :
    Revises circle records (records.update circle address fun _ => { record with status }) := by
  apply update
  intro other _
  simpa using isOf_of_record? recorded

theorem remove : Revises circle records (records.remove circle address) := by
  have fewer : (records.remove circle address).keys.Sublist records.keys :=
    List.filter_sublist.map _
  exact ⟨fun nodup => nodup.sublist fewer, fun mem => .inl (fewer.subset mem)⟩

theorem reindex {directory : Directory} :
    Revises circle records (records.reindex circle directory) := by
  apply of_keys_eq
  rw [keys, Records.reindex, List.map_map]
  apply List.map_congr_left
  intro record _
  simp only [Function.comp]
  split
  · split <;> rfl
  · rfl

/-- An address that takes a seat gets the only record that it has. -/
theorem enroll {index : Nat} {now : Number} :
    Revises circle records (records.enroll circle address index now) := by
  have isFresh : (MemberRecord.fresh circle address index now).isOf circle address = true := by
    simp [MemberRecord.fresh]
  rw [Records.enroll]
  split
  · exact update fun _ _ => isFresh
  · next absent =>
    have keys_eq : Records.keys (records ++ [MemberRecord.fresh circle address index now]) =
        records.keys ++ [(circle, address)] := by
      simp [keys, MemberRecord.key, MemberRecord.fresh]
    constructor
    · intro nodup
      rw [keys_eq]
      apply nodup.append (List.nodup_singleton _)
      rw [List.disjoint_singleton]
      exact fun mem => absent (mem_keys_iff.1 mem)
    · intro key mem
      rw [keys_eq, List.mem_append, List.mem_singleton] at mem
      exact mem.imp_right fun same => by rw [same]

end Revises

end Records

section

variable {host : Host} {moment : Moment} {books : Books} {circle : Circle} {caller : Address}
variable {operation : Operation} {change : Change}

theorem Swapping.revises {former successor : Address}
    (swapping : Swapping moment books circle former successor change) :
    Records.Revises circle.id books.records change.records := by
  cases swapping with
  | same => exact .refl ..
  | renamed _ _ _ _ _ _ areRecords =>
      subst areRecords
      exact ((Records.Revises.remove.trans .enroll).trans (.update (by simp))).trans .reindex

/-- A call on a circle revises records of that circle. -/
theorem Deed.revises (deed : Deed host moment books circle caller operation change) :
    Records.Revises circle.id books.records change.records := by
  cases deed with
  | swap _ swapping | swapByAdmin swapping => exact swapping.revises
  | join => exact .enroll
  | kick _ _ _ _ _ _ _ _ _ _ areRecords =>
      subst areRecords
      exact Records.Revises.reindex.trans .remove
  | eject _ _ recorded _ areRecords =>
      subst areRecords
      exact .setStatus recorded _
  | requestExit _ _ recorded => exact .setStatus recorded _
  | fillVacancy _ _ _ _ _ _ _ _ _ areRecords =>
      subst areRecords
      exact ((Records.Revises.update (by simp)).trans .reindex).trans .enroll
  | contribute => exact .update (by simp)
  | _ => exact .refl ..

end

/-- Circles are numbered by their places, an address has at most one record in a circle, and every
record belongs to one of the circles. -/
structure Books.Registered (books : Books) : Prop where
  numbered {position : Nat} {circle : Circle} :
    books.circles[position]? = some circle → circle.id = position + 1
  count : books.circleCount = books.circles.length
  nodup : books.records.keys.Nodup
  filed : ∀ record ∈ books.records, record.circle ∈ books.circles.map (·.id)

namespace Books.Registered

variable {books : Books} {circle : Circle}

/-- A founded circle takes the next number. -/
theorem found (registered : books.Registered) (number : circle.id = books.circleCount + 1) :
    Registered
      { books with
        circleCount := books.circleCount + 1
        circles := books.circles ++ [circle] } where
  numbered := by
    intro position other here
    by_cases inside : position < books.circles.length
    · rw [List.getElem?_append_left inside] at here
      exact registered.numbered here
    · rw [List.getElem?_append_right (Nat.le_of_not_lt inside)] at here
      obtain ⟨rfl, rfl⟩ : position = books.circles.length ∧ other = circle := by
        rw [List.getElem?_singleton] at here
        split at here
        · exact ⟨by omega, (Option.some.inj here).symm⟩
        · simp at here
      rw [number, registered.count]
  count := by simp [registered.count]
  nodup := registered.nodup
  filed := by
    intro record mem
    rw [List.map_append]
    exact List.mem_append_left _ (registered.filed record mem)

/-- A call on a circle leaves the register in order. -/
theorem install {host : Host} {moment : Moment} {caller : Address} {operation : Operation}
    {change : Change} (registered : books.Registered) (mem : circle ∈ books.circles)
    (deed : Deed host moment books circle caller operation change) :
    (books.install change).books.Registered where
  numbered := by
    intro position other here
    -- Only the numbers matter, and replacing a circle leaves the list of these alone.
    have sameIds := books.map_id_replaceCircle change.circle
    have named : ((books.replaceCircle change.circle).circles.map (·.id))[position]? =
        some other.id := by
      rw [List.getElem?_map]
      exact congrArg (Option.map (·.id)) here
    rw [sameIds, List.getElem?_map, Option.map_eq_some_iff] at named
    obtain ⟨former, stands, same⟩ := named
    exact same ▸ registered.numbered stands
  count := by
    show books.circleCount = (books.replaceCircle change.circle).circles.length
    rw [replaceCircle, List.length_map, registered.count]
  nodup := deed.revises.nodup registered.nodup
  filed := by
    intro record isRecord
    change record.circle ∈ (books.replaceCircle change.circle).circles.map (·.id)
    rw [map_id_replaceCircle]
    have isKey : record.key ∈ change.records.keys := List.mem_map_of_mem isRecord
    rcases deed.revises.mem isKey with former | own
    · obtain ⟨other, isOther, same⟩ := List.mem_map.1 former
      have circles : other.circle = record.circle := congrArg Prod.fst same
      exact circles ▸ registered.filed other isOther
    · have circles : record.circle = circle.id := own
      exact circles ▸ List.mem_map_of_mem mem

end Books.Registered

/-- Every call leaves the register in order. -/
theorem booksKept_registered (host : Host) :
    BooksKept host (fun _ => True) fun books _ => books.Registered where
  reset _ _ := ⟨by simp [Books.opened], rfl, List.nodup_nil, by simp [Books.opened]⟩
  write := by
    intro books _ _ _ _ _ registered performed _ _
    cases performs_of_perform performed with
    | claimProtocol | adminAction | setProtocolFee | deposit | emergencyWithdraw =>
        exact ⟨registered.numbered, registered.count, registered.nodup, registered.filed⟩
    | createCircle _ _ _ _ _ _ _ _ _ isCircle => exact registered.found (by rw [isCircle])
    | byAdmin _ found _ _ deed =>
        have next := registered.install (Books.mem_of_circle found) deed
        exact ⟨next.numbered, next.count, next.nodup, next.filed⟩
    | byMember _ found _ _ deed => exact registered.install (Books.mem_of_circle found) deed

end SavingsCircle
