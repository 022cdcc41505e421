import Mathlib.Data.List.Perm.Basic
import SavingsCircle.Proofs.Circle.Roster

/-!
# The seats of a circle tallied

What the seats say about the running cycle does not depend on their order. A seat that a call
changes can therefore be taken out of the others (`Tallied.uncons`) and put back as the call leaves
it (`Tallied.cons`), and sums over the seats change by that one seat.
-/

namespace SavingsCircle

section

variable {α : Type} {xs : List α} {i : Nat} {x : α}

theorem perm_cons_eraseIdx (here : xs[i]? = some x) : xs.Perm (x :: xs.eraseIdx i) := by
  obtain ⟨inside, rfl⟩ := List.getElem?_eq_some_iff.1 here
  exact (List.getElem_cons_eraseIdx_perm inside).symm

/-- An element taken out of a list and put back changed. -/
theorem modify_perm_cons_eraseIdx (here : xs[i]? = some x) (change : α → α) :
    (xs.modify i change).Perm (change x :: xs.eraseIdx i) := by
  have isSet : xs.modify i change = xs.set i (change x) := by
    apply List.ext_getElem?
    intro j
    rw [List.getElem?_modify, List.getElem?_set']
    by_cases same : i = j
    · subst same
      simp [here]
    · simp [same]
  rw [isSet]
  obtain ⟨inside, rfl⟩ := List.getElem?_eq_some_iff.1 here
  exact List.set_perm_cons_eraseIdx inside _

theorem forall_mem_modify {change : α → α} {P : α → Prop} (here : xs[i]? = some x)
    (all : ∀ y ∈ xs, P y) (changed : P (change x)) : ∀ y ∈ xs.modify i change, P y := by
  intro y mem
  rcases List.mem_cons.1 ((modify_perm_cons_eraseIdx here change).mem_iff.1 mem) with rfl | other
  · exact changed
  · exact all y (List.mem_of_mem_eraseIdx other)

theorem mem_modify (here : xs[i]? = some x) (change : α → α) : change x ∈ xs.modify i change :=
  (modify_perm_cons_eraseIdx here change).mem_iff.2 List.mem_cons_self

end

/-- Seats as they can stand in a cycle: no member has two, none has more than one contribution paid
in, and nothing is paid in for a member who takes part and has not contributed. -/
structure Tallied (contribution : Amount) (isEjected : Address → Bool)
    (contributors : List Address) (seats : List Seat) : Prop where
  nodup : (seats.map (·.holder)).Nodup
  entry : ∀ seat ∈ seats, seat.paidIn ≤ contribution
  idle : ∀ seat ∈ seats, seat.hasContributed = false → isEjected seat.holder = false →
    seat.paidIn = 0
  contributors : ∀ address, address ∈ contributors ↔
    ∃ seat ∈ seats, seat.holder = address ∧ seat.hasContributed = true

namespace Tallied

variable {contribution : Amount} {isEjected put : Address → Bool}
variable {contributors others : List Address} {seat next : Seat} {seats rest : List Seat}

theorem perm (tallied : Tallied contribution isEjected contributors seats)
    (same : seats.Perm rest) : Tallied contribution isEjected contributors rest where
  nodup := (same.map _).nodup_iff.1 tallied.nodup
  entry seat mem := tallied.entry seat (same.mem_iff.2 mem)
  idle seat mem := tallied.idle seat (same.mem_iff.2 mem)
  contributors address := by
    simp only [tallied.contributors, same.mem_iff]

theorem mono (tallied : Tallied contribution isEjected contributors seats)
    (putOut : ∀ seat ∈ seats, isEjected seat.holder = true → put seat.holder = true) :
    Tallied contribution put contributors seats where
  nodup := tallied.nodup
  entry := tallied.entry
  idle seat mem fresh active := by
    refine tallied.idle seat mem fresh (Bool.eq_false_iff.2 fun out => ?_)
    exact absurd (putOut seat mem out) (by simp [active])
  contributors := tallied.contributors

theorem holder_ne (tallied : Tallied contribution isEjected contributors (seat :: rest))
    (mem : next ∈ rest) : next.holder ≠ seat.holder := by
  intro same
  exact (List.nodup_cons.1 tallied.nodup).1 (List.mem_map.2 ⟨next, mem, same⟩)

theorem mem_contributors_iff
    (tallied : Tallied contribution isEjected contributors (seat :: rest)) :
    seat.holder ∈ contributors ↔ seat.hasContributed = true := by
  rw [tallied.contributors]
  constructor
  · rintro ⟨other, mem, same, contributed⟩
    rcases List.mem_cons.1 mem with rfl | mem
    · exact contributed
    · exact absurd same (tallied.holder_ne mem)
  · exact fun contributed => ⟨seat, List.mem_cons_self, rfl, contributed⟩

/-- Whoever else is a contributor, the holder of a seat is one if the seat says so. -/
theorem mem_contributors_iff_of_seat
    (tallied : Tallied contribution isEjected contributors (seat :: rest)) (address : Address) :
    address ∈ contributors ↔
      address = seat.holder ∧ seat.hasContributed = true ∨
        address ≠ seat.holder ∧ address ∈ contributors := by
  by_cases same : address = seat.holder
  · simp [same, tallied.mem_contributors_iff]
  · simp [same]

theorem uncons (tallied : Tallied contribution isEjected contributors (seat :: rest)) :
    Tallied contribution isEjected (contributors.filter (· ≠ seat.holder)) rest where
  nodup := (List.nodup_cons.1 tallied.nodup).2
  entry other mem := tallied.entry other (List.mem_cons_of_mem _ mem)
  idle other mem := tallied.idle other (List.mem_cons_of_mem _ mem)
  contributors address := by
    simp only [List.mem_filter, tallied.contributors, List.mem_cons, decide_eq_true_eq]
    constructor
    · rintro ⟨⟨other, rfl | mem, rfl, contributed⟩, differ⟩
      · exact absurd rfl differ
      · exact ⟨other, mem, rfl, contributed⟩
    · rintro ⟨other, mem, rfl, contributed⟩
      exact ⟨⟨other, .inr mem, rfl, contributed⟩, tallied.holder_ne mem⟩

theorem cons (tallied : Tallied contribution isEjected contributors rest)
    (apart : seat.holder ∉ rest.map (·.holder)) (entry : seat.paidIn ≤ contribution)
    (idle : seat.hasContributed = false → isEjected seat.holder = false → seat.paidIn = 0)
    (joined : ∀ address, address ∈ others ↔
      address = seat.holder ∧ seat.hasContributed = true ∨ address ∈ contributors) :
    Tallied contribution isEjected others (seat :: rest) where
  nodup := List.nodup_cons.2 ⟨apart, tallied.nodup⟩
  entry := List.forall_mem_cons.2 ⟨entry, tallied.entry⟩
  idle := List.forall_mem_cons.2 ⟨idle, tallied.idle⟩
  contributors address := by
    rw [joined, tallied.contributors]
    constructor
    · rintro (⟨rfl, contributed⟩ | ⟨other, mem, same, contributed⟩)
      · exact ⟨seat, List.mem_cons_self, rfl, contributed⟩
      · exact ⟨other, List.mem_cons_of_mem _ mem, same, contributed⟩
    · rintro ⟨other, mem, rfl, contributed⟩
      rcases List.mem_cons.1 mem with rfl | mem
      · exact .inl ⟨rfl, contributed⟩
      · exact .inr ⟨other, mem, rfl, contributed⟩

/-- A member's seat is changed. -/
theorem change (tallied : Tallied contribution isEjected contributors (seat :: rest))
    (same : next.holder = seat.holder) (entry : next.paidIn ≤ contribution)
    (idle : next.hasContributed = false → isEjected seat.holder = false → next.paidIn = 0)
    (joined : ∀ address, address ∈ others ↔
      address = seat.holder ∧ next.hasContributed = true ∨
        address ≠ seat.holder ∧ address ∈ contributors) :
    Tallied contribution isEjected others (next :: rest) := by
  refine tallied.uncons.cons ?_ entry (same ▸ idle) fun address => ?_
  · rw [same]
    exact (List.nodup_cons.1 tallied.nodup).1
  · rw [joined, same, List.mem_filter]
    simp [and_comm]

/-- The cycle begins anew: nobody has contributed. -/
theorem renew (tallied : Tallied contribution isEjected contributors seats)
    (renewed : Seat → Seat) (holder : ∀ seat ∈ seats, (renewed seat).holder = seat.holder)
    (fresh : ∀ seat ∈ seats, (renewed seat).hasContributed = false)
    (entry : ∀ seat ∈ seats, (renewed seat).paidIn ≤ contribution)
    (idle : ∀ seat ∈ seats, isEjected seat.holder = false → (renewed seat).paidIn = 0) :
    Tallied contribution isEjected [] (seats.map renewed) where
  nodup := by
    rw [List.map_map, List.map_congr_left (g := (·.holder)) holder]
    exact tallied.nodup
  entry := by simpa using entry
  idle := by
    intro seat isSeat _
    obtain ⟨former, mem, rfl⟩ := List.mem_map.1 isSeat
    rw [holder former mem]
    exact idle former mem
  contributors address := by
    simp only [List.not_mem_nil, List.mem_map, exists_exists_and_eq_and, false_iff]
    rintro ⟨seat, mem, _, contributed⟩
    simp [fresh seat mem] at contributed

/-- A member's seat goes to someone who has none. -/
theorem rename {former successor : Address}
    (tallied : Tallied contribution isEjected contributors seats)
    (absent : successor ∉ seats.map (·.holder))
    (putOut : ∀ seat ∈ seats, isEjected seat.holder = true →
      put (Circle.renamed former successor seat.holder) = true) :
    Tallied contribution put (contributors.map (Circle.renamed former successor))
      (seats.map fun seat => { seat with holder := Circle.renamed former successor seat.holder })
    where
  nodup := by
    have mapped : (seats.map fun seat => { seat with
        holder := Circle.renamed former successor seat.holder }).map (·.holder) =
          (seats.map (·.holder)).map (Circle.renamed former successor) := by
      simp
    rw [mapped]
    exact Circle.nodup_map_renamed tallied.nodup absent
  entry := by simpa using tallied.entry
  idle := by
    intro seat isSeat fresh active
    obtain ⟨seat, mem, rfl⟩ := List.mem_map.1 isSeat
    refine tallied.idle seat mem fresh (Bool.eq_false_iff.2 fun out => ?_)
    exact absurd (putOut seat mem out) (by simp [active])
  contributors address := by
    simp only [List.mem_map, tallied.contributors]
    constructor
    · rintro ⟨_, ⟨seat, mem, rfl, contributed⟩, rfl⟩
      exact ⟨_, ⟨seat, mem, rfl⟩, rfl, contributed⟩
    · rintro ⟨_, ⟨seat, mem, rfl⟩, rfl, contributed⟩
      exact ⟨_, ⟨seat, mem, rfl, contributed⟩, rfl⟩

end Tallied

end SavingsCircle
