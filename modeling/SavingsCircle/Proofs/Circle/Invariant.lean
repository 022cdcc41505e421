import Mathlib.Data.List.Nodup
import SavingsCircle.Proofs.Run.Invariant
import SavingsCircle.Proofs.Service.Frame
import SavingsCircle.Proofs.Service.Opening

/-!
# Invariants of circles

What holds of every circle, its members' records and its history is shown for a single circle: it
holds of a circle just founded, and every call on the circle keeps it. Calls on other circles change
nothing that it speaks of, because circles are told apart by their numbers (`Books.Numbered`).
-/

namespace SavingsCircle

/-- A circle as its founder leaves it. -/
structure Circle.IsNew (circle : Circle) : Prop where
  positive : 0 < circle.contribution
  safe : circle.contribution ≤ Number.maxSafe
  seats : circle.seats = []
  directory : circle.directory = .empty
  payoutQueue : circle.payoutQueue = []
  isDissolved : circle.isDissolved = false
  balance : circle.balance = 0
  reserve : circle.reserve = 0
  insurance : circle.insurance = 0
  dissolutionVotes : circle.dissolutionVotes = []
  proposedLateFeeRate : circle.proposedLateFeeRate = none
  proposalVotes : circle.proposalVotes = []
  lateFeeRate : circle.lateFeeRate ≤ Fees.wholeRate
  cycle : circle.cycle = 1
  payouts : circle.payouts = 0
  volume : circle.volume = 0
  isInsuranceUsed : circle.isInsuranceUsed = false

theorem Number.safeNat?_le {value : Number} {n : Nat} (safe : value.safeNat? = some n) :
    n ≤ Number.maxSafe := by
  rw [Number.safeNat?, Option.bind_eq_some_iff] at safe
  obtain ⟨m, _, safe⟩ := safe
  split at safe
  · next small => exact Option.some.inj safe ▸ small
  · simp at safe

theorem Fees.rate?_le {value : Number} {rate : Nat} (isRate : rate? value = some rate) :
    rate ≤ wholeRate := by
  rw [rate?, Option.bind_eq_some_iff] at isRate
  obtain ⟨n, _, isRate⟩ := isRate
  split at isRate
  · next small => exact Option.some.inj isRate ▸ small
  · simp at isRate

namespace Books

/-- Circles are numbered one by one. -/
structure Numbered (books : Books) : Prop where
  nodup : (books.circles.map (·.id)).Nodup
  bounded : ∀ circle ∈ books.circles, circle.id ≤ books.circleCount

/-- Something holds of every circle, the member records and the circle's history. -/
def Every (C : Circle → Records → List Event → Prop) (books : Books) (events : List Event) :
    Prop :=
  ∀ circle ∈ books.circles, C circle books.records (history circle.id events)

variable {books : Books} {circle next : Circle} {id : Number}

theorem mem_of_circle (found : books.circle id = .ok circle) : circle ∈ books.circles := by
  obtain ⟨number, _, found⟩ := Option.bind_eq_some_iff.1 (demandSome_eq_ok.1 found)
  exact List.mem_of_find?_eq_some found

theorem nat?_of_circle (found : books.circle id = .ok circle) : id.nat? = some circle.id := by
  obtain ⟨number, isNumber, found⟩ := Option.bind_eq_some_iff.1 (demandSome_eq_ok.1 found)
  rw [circle?] at found
  have same : circle.id = number := by simpa using List.find?_some found
  rw [isNumber, same]

theorem Numbered.eq_of_id_eq (numbered : books.Numbered) {other : Circle}
    (mem : circle ∈ books.circles) (memOther : other ∈ books.circles)
    (same : other.id = circle.id) : other = circle :=
  List.inj_on_of_nodup_map numbered.nodup memOther mem same

theorem mem_replaceCircle (mem : circle ∈ (books.replaceCircle next).circles) :
    circle = next ∨ circle ∈ books.circles ∧ circle.id ≠ next.id := by
  obtain ⟨former, isFormer, rfl⟩ := List.mem_map.1 mem
  by_cases same : former.id = next.id
  · exact .inl (if_pos same)
  · rw [if_neg same]
    exact .inr ⟨isFormer, same⟩

theorem mem_replaceCircle_self (mem : circle ∈ books.circles) (same : next.id = circle.id) :
    next ∈ (books.replaceCircle next).circles :=
  List.mem_map.2 ⟨circle, mem, if_pos same.symm⟩

theorem mem_replaceCircle_other (mem : circle ∈ books.circles) (apart : circle.id ≠ next.id) :
    circle ∈ (books.replaceCircle next).circles :=
  List.mem_map.2 ⟨circle, mem, if_neg apart⟩

theorem Numbered.circle?_eq (numbered : books.Numbered) (mem : circle ∈ books.circles) :
    books.circle? circle.id = some circle := by
  have known : (books.circle? circle.id).isSome := by
    rw [circle?, List.find?_isSome]
    exact ⟨circle, mem, beq_self_eq_true _⟩
  obtain ⟨other, found⟩ := Option.isSome_iff_exists.1 known
  rw [circle?] at found ⊢
  have same : other.id = circle.id := by simpa using List.find?_some found
  rw [found, numbered.eq_of_id_eq mem (List.mem_of_find?_eq_some found) same]

theorem map_id_replaceCircle (books : Books) (next : Circle) :
    (books.replaceCircle next).circles.map (·.id) = books.circles.map (·.id) := by
  rw [replaceCircle, List.map_map]
  apply List.map_congr_left
  intro circle _
  by_cases same : circle.id = next.id <;> simp [same]

theorem replaceCircle_replaceCircle (books : Books) {next last : Circle}
    (same : last.id = next.id) :
    (books.replaceCircle next).replaceCircle last = books.replaceCircle last := by
  simp only [replaceCircle, List.map_map, Books.mk.injEq, true_and, and_true]
  refine List.map_congr_left fun circle _ => ?_
  by_cases here : circle.id = next.id <;> simp [here, same]

theorem circle?_replaceCircle (books : Books) (next : Circle) (number : Nat) :
    (books.replaceCircle next).circle? number =
      (books.circle? number).map fun circle => if circle.id = next.id then next else circle := by
  rw [circle?, replaceCircle, List.find?_map, circle?]
  congr 2
  funext circle
  by_cases same : circle.id = next.id <;> simp [same]

theorem circle?_of_circle (found : books.circle id = .ok circle) :
    books.circle? circle.id = some circle := by
  obtain ⟨number, isNumber, named⟩ := Option.bind_eq_some_iff.1 (demandSome_eq_ok.1 found)
  rwa [← Option.some.inj (isNumber.symm.trans (nat?_of_circle found))]

theorem circle_replaceCircle (found : books.circle id = .ok circle) (same : next.id = circle.id) :
    (books.replaceCircle next).circle id = .ok next := by
  obtain ⟨number, isNumber, named⟩ := Option.bind_eq_some_iff.1 (demandSome_eq_ok.1 found)
  refine demandSome_eq_ok.2 ?_
  rw [isNumber, Option.bind_some, circle?_replaceCircle, named, Option.map_some, if_pos same.symm]

theorem Numbered.replaceCircle (numbered : books.Numbered) (next : Circle) :
    (books.replaceCircle next).Numbered where
  nodup := by
    rw [map_id_replaceCircle]
    exact numbered.nodup
  bounded circle mem := by
    have number : circle.id ∈ (books.replaceCircle next).circles.map (·.id) :=
      List.mem_map_of_mem mem
    rw [map_id_replaceCircle] at number
    obtain ⟨former, isFormer, same⟩ := List.mem_map.1 number
    exact same ▸ numbered.bounded former isFormer

end Books

/-- What a call does to the circles: it leaves all of them alone, founds one, or is a call on one of
them. -/
inductive Touches (host : Host) (moment : Moment) (books : Books) (operation : Operation)
    (effect : Effect) : Prop where
  | aside (unnamed : operation.circleId? = none)
      (circles : effect.books.circles = books.circles)
      (count : effect.books.circleCount = books.circleCount)
      (records : effect.books.records = books.records)
      (unnamedEvents : ∀ event ∈ effect.events, event.circle? = none)
  | founding {circle admin} (unnamed : operation.circleId? = none) (isNew : circle.IsNew)
      (number : circle.id = books.circleCount + 1)
      (circles : effect.books.circles = books.circles ++ [circle])
      (count : effect.books.circleCount = books.circleCount + 1)
      (records : effect.books.records = books.records)
      (events : effect.events = [.circleCreated circle.id admin circle.contribution])
  | deed {id circle caller change} (named : operation.circleId? = some id)
      (found : books.circle id = .ok circle)
      (isCaller : host.authorize operation.proof = .ok caller)
      (deed : Deed host moment books circle caller operation change)
      (circles : effect.books.circles = (books.replaceCircle change.circle).circles)
      (count : effect.books.circleCount = books.circleCount)
      (records : effect.books.records = change.records) (events : effect.events = change.events)
      (receipt : effect.receipt = change.receipt)

theorem Performs.touches {host : Host} {moment : Moment} {books : Books} {operation : Operation}
    {effect : Effect} (performs : Performs host moment books operation effect) :
    Touches host moment books operation effect := by
  cases performs with
  | claimProtocol | adminAction | deposit | emergencyWithdraw => exact .aside rfl rfl rfl rfl nofun
  | setProtocolFee => exact .aside rfl rfl rfl rfl (List.forall_mem_singleton.2 rfl)
  | createCircle _ priced positive isLateFeeRate _ _ _ _ _ isCircle =>
      have safe := Number.safeNat?_le priced
      have rate := Fees.rate?_le isLateFeeRate
      subst isCircle
      refine .founding rfl ?_ rfl rfl rfl rfl rfl
      exact ⟨positive, safe, rfl, rfl, rfl, rfl, rfl, rfl, rfl, rfl, rfl, rfl, rate, rfl, rfl, rfl,
        rfl⟩
  | byAdmin named found isCaller _ deed =>
      exact .deed named found isCaller deed rfl rfl rfl rfl rfl
  | byMember named found isCaller _ deed =>
      exact .deed named found isCaller deed rfl rfl rfl rfl rfl

/-- Every call keeps the numbers of circles. -/
theorem Touches.numbered {host : Host} {moment : Moment} {books : Books} {operation : Operation}
    {effect : Effect} (numbered : books.Numbered)
    (touches : Touches host moment books operation effect) : effect.books.Numbered := by
  cases touches with
  | aside _ circles count =>
      refine ⟨circles ▸ numbered.nodup, ?_⟩
      rw [circles, count]
      exact numbered.bounded
  | founding _ _ number circles count =>
      constructor
      · rw [circles, List.map_append, List.nodup_append]
        refine ⟨numbered.nodup, List.nodup_singleton _, ?_⟩
        simp only [List.mem_map, List.map_cons, List.map_nil, List.mem_singleton]
        rintro _ ⟨circle, mem, rfl⟩ _ rfl
        have := numbered.bounded circle mem
        omega
      · rw [circles, count]
        intro circle mem
        rcases List.mem_append.1 mem with mem | mem
        · exact Nat.le_succ_of_le (numbered.bounded circle mem)
        · obtain rfl := List.mem_singleton.1 mem
          exact Nat.le_of_eq number
  | @deed _ _ _ change _ _ _ _ circles count =>
      have next := numbered.replaceCircle change.circle
      refine ⟨circles ▸ next.nodup, ?_⟩
      rw [circles, count]
      exact next.bounded

/-- Something that holds of every circle, the member records and the circle's history because
every call keeps it. A call may assume that the circle it leaves behind is of some kind. -/
structure CircleInvariant (host : Host) (Fits : Circle → Prop)
    (C : Circle → Records → List Event → Prop) : Prop where
  /-- Only the records of the circle's own members matter. -/
  congr {circle records others past} : C circle records past →
    (∀ address, Records.record? others circle.id address =
      Records.record? records circle.id address) →
    C circle others past
  founded {circle records} : circle.IsNew → C circle records []
  deed {moment books circle caller operation change past} : C circle books.records past →
    Deed host moment books circle caller operation change → Fits change.circle →
    C change.circle change.records (past ++ change.events)

/-- All circles of a world are of some kind. -/
def AllFit (Fits : Circle → Prop) (passage : Passage) : Prop :=
  ∀ circle ∈ passage.world.books.circles, Fits circle

namespace CircleInvariant

variable {host : Host} {Fits : Circle → Prop} {C : Circle → Records → List Event → Prop}
variable {books : Books} {events : List Event}

/-- A call on a circle keeps what holds of all circles. -/
theorem install (invariant : CircleInvariant host Fits C) {moment : Moment} {circle : Circle}
    {caller : Address} {operation : Operation} {change : Change}
    (holds : books.Every C events) (mem : circle ∈ books.circles)
    (deed : Deed host moment books circle caller operation change) (fits : Fits change.circle) :
    (books.install change).books.Every C (events ++ change.events) := by
  have lasts := deed.lasts
  intro other isOther
  rcases Books.mem_replaceCircle isOther with rfl | ⟨isOther, apart⟩
  · rw [lasts.id, history_append_own deed.continues]
    exact invariant.deed (holds circle mem) deed fits
  · rw [lasts.id] at apart
    have others : ∀ event ∈ change.events, event.circle? ≠ some other.id := fun event mem same =>
      apart (Option.some.inj (same.symm.trans (deed.continues event mem).circle))
    rw [history_append_other others]
    exact invariant.congr (holds other isOther) fun address => deed.record?_other apart address

/-- Founding a circle keeps what holds of all circles. -/
theorem found (invariant : CircleInvariant host Fits C) {circle : Circle} {admin : Address}
    {contribution : Amount} (numbered : books.Numbered) (holds : books.Every C events)
    (isNew : circle.IsNew) (number : circle.id = books.circleCount + 1) :
    ∀ other ∈ books.circles ++ [circle],
      C other books.records (history other.id
        (events ++ [.circleCreated (books.circleCount + 1) admin contribution])) := by
  intro other isOther
  rcases List.mem_append.1 isOther with isOther | isOther
  · have bounded := numbered.bounded other isOther
    rw [history_append_other]
    · exact holds other isOther
    · simp only [List.mem_singleton, forall_eq, Event.circle?, ne_eq, Option.some.injEq]
      omega
  · obtain rfl := List.mem_singleton.1 isOther
    rw [number, history_founded]
    exact invariant.founded isNew

/-- Every call keeps what holds of all circles, and the numbers of circles. -/
theorem booksKept (invariant : CircleInvariant host Fits C) :
    BooksKept host (AllFit Fits) fun books events => books.Numbered ∧ books.Every C events where
  reset _ _ := ⟨⟨List.nodup_nil, by simp [Books.opened]⟩, by simp [Books.Every, Books.opened]⟩
  write := by
    rintro books events moment operation effect written ⟨numbered, holds⟩ performed fit isBooks
    have fits : ∀ circle ∈ effect.books.circles, Fits circle := by
      rw [← isBooks]
      exact fit
    have touches := (performs_of_perform performed).touches
    refine ⟨touches.numbered numbered, ?_⟩
    cases touches with
    | aside _ circles _ records others =>
        intro circle mem
        rw [circles] at mem
        rw [records, history_append_other fun event mem same => by simp [others event mem] at same]
        exact holds circle mem
    | founding _ isNew number circles _ records recorded =>
        rw [Books.Every, circles, records, recorded, number]
        exact invariant.found numbered holds isNew number
    | @deed _ _ _ change _ found _ deed circles _ records recorded _ =>
        have mem := Books.mem_of_circle found
        have fit := fits change.circle (circles ▸ Books.mem_replaceCircle_self mem deed.lasts.id)
        rw [Books.Every, circles, records, recorded]
        exact invariant.install holds mem deed fit

/-- An invariant holds of every circle in every world that a run without earlier history goes
through. -/
theorem holds (invariant : CircleInvariant host Fits C) {now clock : Number} {nonce : String}
    {draws : Draws} {steps : List Step} {world : World} {circle : Circle}
    (fits : ∀ passage ∈ runCourse host steps (.opened now clock nonce draws),
      ∀ circle ∈ passage.world.books.circles, Fits circle)
    (visits : Visits host (.opened now clock nonce draws) steps world)
    (mem : circle ∈ world.books.circles) :
    C circle world.books.records (history circle.id world.trail.events) :=
  (invariant.booksKept.holds fits visits).2 circle mem

theorem and {D : Circle → Records → List Event → Prop} (first : CircleInvariant host Fits C)
    (second : CircleInvariant host Fits D) :
    CircleInvariant host Fits fun circle records past =>
      C circle records past ∧ D circle records past where
  congr holds same := ⟨first.congr holds.1 same, second.congr holds.2 same⟩
  founded isNew := ⟨first.founded isNew, second.founded isNew⟩
  deed holds deed fits := ⟨first.deed holds.1 deed fits, second.deed holds.2 deed fits⟩

end CircleInvariant

end SavingsCircle
