import SavingsCircle.Circle.Directory

/-!
# What the directory of a roster finds

The directory drawn up from a roster finds exactly the addresses that stand in it, each at the last
of its positions. In a roster that names nobody twice this is the only one, and the directory lists
the roster as it stands. It goes on doing so when an address is entered at the end.
-/

namespace SavingsCircle.Directory

/-- An entry drawn up from a roster says where its address stands last. -/
theorem mem_entriesFrom {first position : Nat} {address : Address} {roster : List Address} :
    (address, position) ∈ entriesFrom first roster ↔
      ∃ skipped, position = first + skipped ∧ roster[skipped]? = some address ∧
        address ∉ roster.drop (skipped + 1) := by
  induction roster generalizing first with
  | nil => simp [entriesFrom]
  | cons head rest ih =>
    have split :
        (∃ skipped, position = first + skipped ∧ (head :: rest)[skipped]? = some address ∧
          address ∉ (head :: rest).drop (skipped + 1)) ↔
        (position = first ∧ head = address ∧ address ∉ rest) ∨
          (address, position) ∈ entriesFrom (first + 1) rest := by
      rw [ih]
      constructor
      · rintro ⟨skipped, at_, here, last⟩
        cases skipped with
        | zero => exact .inl ⟨by simpa using at_, by simpa using here, by simpa using last⟩
        | succ skipped =>
          exact .inr ⟨skipped, by omega, by simpa using here, by simpa using last⟩
      · rintro (⟨rfl, rfl, last⟩ | ⟨skipped, rfl, here, last⟩)
        · exact ⟨0, by simp, by simp, by simpa using last⟩
        · exact ⟨skipped + 1, by omega, by simpa using here, by simpa using last⟩
    rw [split, entriesFrom]
    by_cases again : head ∈ rest
    · rw [if_pos again]
      constructor
      · exact .inr
      · rintro (⟨_, rfl, last⟩ | later)
        · exact absurd again last
        · exact later
    · rw [if_neg again, List.mem_cons]
      constructor
      · rintro (equal | later)
        · obtain ⟨rfl, rfl⟩ := Prod.mk.inj equal
          exact .inl ⟨rfl, rfl, again⟩
        · exact .inr later
      · rintro (⟨rfl, rfl, _⟩ | later)
        · exact .inl rfl
        · exact .inr later

/-- An address that stands in a roster is in its directory. -/
theorem exists_mem_entriesFrom (first : Nat) {address : Address} {roster : List Address}
    (mem : address ∈ roster) :
    ∃ position, (address, position) ∈ entriesFrom first roster := by
  induction roster generalizing first with
  | nil => simp at mem
  | cons head rest ih =>
    rw [entriesFrom]
    by_cases later : address ∈ rest
    · obtain ⟨position, found⟩ := ih (first + 1) later
      exact ⟨position, by split <;> simp [found]⟩
    · obtain rfl : address = head := by simpa [later] using mem
      exact ⟨first, by simp [later]⟩

/-- In the directory of a roster an address has the position where it stands last. -/
theorem position?_ofRoster_eq_some_iff {roster : List Address} {address : Address}
    {position : Nat} :
    (ofRoster roster).position? address = some position ↔
      roster[position]? = some address ∧ address ∉ roster.drop (position + 1) := by
  have entry (position : Nat) : (address, position) ∈ entriesFrom 0 roster ↔
      roster[position]? = some address ∧ address ∉ roster.drop (position + 1) := by
    simp [mem_entriesFrom]
  rw [← entry]
  simp only [position?, ofRoster, Option.map_eq_some_iff]
  constructor
  · rintro ⟨found, isFound, rfl⟩
    obtain rfl : found.1 = address := by simpa using List.find?_some isFound
    exact List.mem_of_find?_eq_some isFound
  · intro mem
    cases found : (entriesFrom 0 roster).find? (fun entry => entry.1 == address) with
    | none => exact absurd (List.find?_eq_none.1 found _ mem) (by simp)
    | some other =>
      obtain ⟨name, place⟩ := other
      obtain rfl : name = address := by simpa using List.find?_some found
      obtain ⟨there, lastThere⟩ := (entry place).1 (List.mem_of_find?_eq_some found)
      obtain ⟨here, lastHere⟩ := (entry position).1 mem
      have later {i j : Nat} (behind : i < j) (stands : roster[j]? = some name) :
          name ∈ roster.drop (i + 1) :=
        List.mem_iff_getElem?.2 ⟨j - (i + 1), by
          rw [List.getElem?_drop, ← stands]
          congr 1
          omega⟩
      refine ⟨_, rfl, Nat.le_antisymm (Nat.le_of_not_lt fun behind => ?_)
        (Nat.le_of_not_lt fun behind => ?_)⟩
      · exact lastHere (later behind there)
      · exact lastThere (later behind here)

@[simp] theorem isSome_position?_ofRoster {roster : List Address} {address : Address} :
    ((ofRoster roster).position? address).isSome ↔ address ∈ roster := by
  rw [Option.isSome_iff_exists]
  constructor
  · rintro ⟨position, found⟩
    exact List.mem_of_getElem? (position?_ofRoster_eq_some_iff.1 found).1
  · intro mem
    obtain ⟨position, found⟩ := exists_mem_entriesFrom 0 mem
    obtain ⟨_, rfl, stands⟩ := mem_entriesFrom.1 found
    exact ⟨_, position?_ofRoster_eq_some_iff.2 (by simpa using stands)⟩

/-- In the directory of a roster that names nobody twice an address has the position where it
stands. -/
theorem position?_ofRoster_of_nodup {roster : List Address} (nodup : roster.Nodup)
    {address : Address} {position : Nat} :
    (ofRoster roster).position? address = some position ↔ roster[position]? = some address := by
  rw [position?_ofRoster_eq_some_iff]
  refine ⟨And.left, fun stands => ⟨stands, fun again => ?_⟩⟩
  obtain ⟨offset, standsAgain⟩ := List.mem_iff_getElem?.1 again
  rw [List.getElem?_drop] at standsAgain
  obtain ⟨_, rfl⟩ := List.getElem?_eq_some_iff.1 stands
  obtain ⟨behind, same⟩ := List.getElem?_eq_some_iff.1 standsAgain
  exact List.pairwise_iff_getElem.1 nodup _ _ _ behind (by omega) same.symm

theorem entriesFrom_of_nodup (first : Nat) {roster : List Address} (nodup : roster.Nodup) :
    entriesFrom first roster = roster.zipIdx first := by
  induction roster generalizing first with
  | nil => rfl
  | cons address roster ih =>
    rw [List.nodup_cons] at nodup
    rw [entriesFrom, if_neg nodup.1, ih (first + 1) nodup.2, List.zipIdx_cons]

theorem entries_enter {directory : Directory} {address : Address} (position : Nat)
    (absent : address ∉ directory.entries.map (·.1)) (apart : address ≠ reserved) :
    (directory.enter address position).entries = directory.entries ++ [(address, position)] := by
  have kept : directory.entries.filter (fun entry => entry.1 != address) = directory.entries := by
    rw [List.filter_eq_self]
    intro entry mem
    have differ : entry.1 ≠ address := fun same => absent (same ▸ List.mem_map_of_mem mem)
    simpa using differ
  rw [enter, if_neg apart, kept]

end SavingsCircle.Directory
