import Mathlib.Data.List.Permutation
import Mathlib.Data.Set.Card
import Mathlib.Data.Set.Function
import SavingsCircle.Proofs.Circle.Invariant

/-!
# Random order is fair

A shuffle exchanges items from the last position down to the second, each with the one at a drawn
position not behind it. Once a position has been dealt with it is not touched again, so the item
that ends up there is the one at the drawn position, and the order that comes out tells the draws
one by one (`arrange_injective`). Conversely every order can be dealt: the draw that a position asks
for is the place where its item stands by then (`exists_arrange_eq`). Different draws therefore lead
to different orders, and to all of them.

The source of the draws matters only through the numbers that it gives. `walk` makes each draw just
before the exchange that it is for, from any source, and `walk_eq_arrange` says which draws it asks
for.
-/

namespace SavingsCircle

namespace Shuffle

variable {α σ : Type}

/-- Numbers drawn for bounds, each below its own. -/
abbrev Within (picks bounds : List Nat) : Prop := List.Forall₂ (· < ·) picks bounds

/-- The numbers that a source gives when it is asked for bounds one after the other, and what
becomes of the source. -/
def drawn (next : σ → Nat → Nat × σ) (source : σ) : List Nat → List Nat × σ
  | [] => ([], source)
  | bound :: bounds =>
    let (pick, source) := next source bound
    let (picks, source) := drawn next source bounds
    (pick :: picks, source)

/-- The shuffle as a loop: from the given position down to the second, a position not behind it is
drawn and the items at the two are exchanged. -/
def walk (next : σ → Nat → Nat × σ) : Nat → List α → σ → List α × σ
  | 0, items, source => (items, source)
  | last + 1, items, source =>
    let (pick, source) := next source (last + 2)
    walk next last (exchange items (last + 1) pick) source

@[simp] theorem arrange_zero (picks : List Nat) (items : List α) :
    arrange 0 picks items = items := by
  cases picks <;> rfl

@[simp] theorem bounds_succ (last : Nat) :
    bounds (last + 2) = (last + 2) :: bounds (last + 1) := by
  simp [bounds, List.range'_concat, Nat.add_comm]

theorem bounds_eq (length : Nat) :
    bounds length = (List.range (length - 1)).map (length - ·) := by
  apply List.ext_getElem (by simp)
  intro i inside _
  rw [length_bounds] at inside
  simp only [bounds, List.getElem_reverse, List.getElem_range', List.length_range',
    List.getElem_map, List.getElem_range]
  omega

theorem drawn_draws (draws : Draws) (bounds : List Nat) :
    drawn Draws.next draws bounds = draws.take bounds := by
  induction bounds generalizing draws with
  | nil => rfl
  | cons bound bounds ih => simp [drawn, Draws.take, ih]

/-- The loop asks for the bounds in turn, and arranges the items by what it is given. -/
theorem walk_eq_arrange (next : σ → Nat → Nat × σ) (last : Nat) (items : List α) (source : σ) :
    walk next last items source =
      (arrange last (drawn next source (bounds (last + 1))).1 items,
        (drawn next source (bounds (last + 1))).2) := by
  induction last generalizing items source with
  | zero => rfl
  | succ last ih => simp only [walk, ih, bounds_succ, drawn, arrange]

theorem walk_length (next : σ → Nat → Nat × σ) (items : List α) (source : σ) :
    walk next (items.length - 1) items source =
      (arrange (items.length - 1) (drawn next source (bounds items.length)).1 items,
        (drawn next source (bounds items.length)).2) := by
  rw [walk_eq_arrange]
  cases items with
  | nil => rfl
  | cons item items => rfl

theorem run_eq_walk (items : List α) (draws : Draws) :
    run items draws = walk Draws.next (items.length - 1) items draws := by
  rw [walk_length, drawn_draws, run]

theorem drawn_within {next : σ → Nat → Nat × σ}
    (bounded : ∀ source bound, 0 < bound → (next source bound).1 < bound) {bounds : List Nat}
    (positive : ∀ bound ∈ bounds, 0 < bound) (source : σ) :
    Within (drawn next source bounds).1 bounds := by
  induction bounds generalizing source with
  | nil => exact .nil
  | cons bound bounds ih =>
      rw [List.forall_mem_cons] at positive
      exact .cons (bounded source bound positive.1) (ih positive.2 _)

theorem pos_of_mem_bounds {length bound : Nat} (mem : bound ∈ bounds length) : 0 < bound := by
  rw [bounds, List.mem_reverse, List.mem_range'_1] at mem
  omega

theorem next_lt (draws : Draws) (bound : Nat) (positive : 0 < bound) :
    (draws.next bound).1 < bound :=
  Nat.mod_lt _ positive

/-- Whatever can be drawn is given by the source that has just these values. -/
theorem take_ofValues {picks bounds : List Nat} (within : Within picks bounds) :
    ((Draws.ofValues picks).take bounds).1 = picks := by
  -- The source goes through its values once, so what it has given is a front part of them.
  have rest (front : List Nat) {picks bounds : List Nat} (within : Within picks bounds) :
      (Draws.take ⟨front ++ picks, front.length⟩ bounds).1 = picks := by
    induction within generalizing front with
    | nil => rfl
    | @cons pick bound picks bounds below _ ih =>
        have here : (front ++ pick :: picks).getD
            (front.length % (front ++ pick :: picks).length) 0 = pick := by
          rw [Nat.mod_eq_of_lt (by simp), List.getD_eq_getElem?_getD]
          simp
        have others := ih (front ++ [pick])
        rw [List.append_assoc, List.singleton_append, List.length_append, List.length_singleton]
          at others
        simp only [Draws.take, Draws.next, here, Nat.mod_eq_of_lt below, others]
  exact rest [] within

section

variable {items order : List α} {i j : Nat}

@[simp] theorem length_exchange (items : List α) (i j : Nat) :
    (exchange items i j).length = items.length := by
  rw [exchange]
  split <;> simp

/-- An exchange gives the item of one position to the other and leaves the rest alone. -/
theorem getElem?_exchange (inside : i < items.length) (within : j < items.length) (k : Nat) :
    (exchange items i j)[k]? = items[if k = i then j else if k = j then i else k]? := by
  simp only [exchange, List.getElem?_eq_getElem inside, List.getElem?_eq_getElem within]
  by_cases second : j = k
  · subst second
    by_cases same : i = j
    · subst same
      simp [inside]
    · simp [inside, within, Ne.symm same]
  · by_cases first : i = k
    · subst first
      simp [inside, within, second]
    · simp [first, second, Ne.symm first, Ne.symm second]

theorem exchange_perm (items : List α) (i j : Nat) : (exchange items i j).Perm items := by
  rw [exchange]
  split
  · next a b first second =>
    obtain ⟨inside, rfl⟩ := List.getElem?_eq_some_iff.1 first
    obtain ⟨within, rfl⟩ := List.getElem?_eq_some_iff.1 second
    exact List.set_set_perm inside within
  · rfl

/-- Arranging only reorders. -/
theorem arrange_perm (last : Nat) (picks : List Nat) (items : List α) :
    (arrange last picks items).Perm items := by
  induction last generalizing picks items with
  | zero => rw [arrange_zero]
  | succ last ih =>
      cases picks with
      | nil => rfl
      | cons pick picks => exact (ih picks _).trans (exchange_perm ..)

/-- Positions behind the one that arranging starts with are left alone. -/
theorem getElem?_arrange {last : Nat} {picks : List Nat}
    (within : Within picks (bounds (last + 1))) (inside : last < items.length) {k : Nat}
    (behind : last < k) : (arrange last picks items)[k]? = items[k]? := by
  induction last generalizing picks items with
  | zero => rw [arrange_zero]
  | succ last ih =>
      rw [bounds_succ] at within
      cases within with
      | @cons pick _ picks _ below within =>
          rw [arrange, ih within (by simpa using Nat.lt_of_succ_lt inside) (by omega),
            getElem?_exchange inside (by omega), if_neg (by omega), if_neg (by omega)]

theorem getElem?_arrange_last {last pick : Nat} {picks : List Nat} (below : pick < last + 2)
    (within : Within picks (bounds (last + 1))) (inside : last + 1 < items.length) :
    (arrange (last + 1) (pick :: picks) items)[last + 1]? = items[pick]? := by
  rw [arrange, getElem?_arrange within (by simpa using Nat.lt_of_succ_lt inside) (by omega),
    getElem?_exchange inside (by omega), if_pos rfl]

/-- Where no item occurs twice, the order that comes out tells all draws. -/
theorem arrange_injective {last : Nat} {picks others : List Nat} (distinct : items.Nodup)
    (inside : last < items.length) (within : Within picks (bounds (last + 1)))
    (within' : Within others (bounds (last + 1)))
    (same : arrange last picks items = arrange last others items) : picks = others := by
  induction last generalizing picks others items with
  | zero =>
      cases within
      cases within'
      rfl
  | succ last ih =>
      rw [bounds_succ] at within within'
      cases within with
      | @cons pick _ picks _ below within =>
          cases within' with
          | @cons other _ others _ below' within' =>
              have here := getElem?_arrange_last below within inside
              rw [same, getElem?_arrange_last below' within' inside] at here
              obtain rfl : other = pick := (List.getElem?_inj (by omega) distinct).1 here
              have fewer : last < (exchange items (last + 1) other).length := by
                simpa using Nat.lt_of_succ_lt inside
              have apart := (exchange_perm items (last + 1) other).nodup_iff.2 distinct
              rw [ih apart fewer within within' same]

/-- Where no item occurs twice, every order that agrees with the items behind a position is dealt
from that position by some draws. -/
theorem exists_arrange_eq {last : Nat} (distinct : items.Nodup) (reorders : order.Perm items)
    (inside : last < items.length) (agrees : ∀ k, last < k → order[k]? = items[k]?) :
    ∃ picks, Within picks (bounds (last + 1)) ∧ arrange last picks items = order := by
  have distinct' := reorders.nodup_iff.2 distinct
  have length := reorders.length_eq
  induction last generalizing items with
  | zero =>
      refine ⟨[], .nil, ?_⟩
      -- All but the first place agree, and one item is left for the first.
      obtain ⟨first, items, rfl⟩ := List.exists_cons_of_length_pos inside
      obtain ⟨other, order, rfl⟩ := List.exists_cons_of_length_pos (length ▸ inside)
      have rest : order = items := List.ext_getElem? fun k => agrees (k + 1) (by omega)
      subst rest
      have least : other ∈ first :: order := reorders.subset List.mem_cons_self
      rw [List.mem_cons, or_iff_left (List.nodup_cons.1 distinct').1] at least
      rw [least, arrange_zero]
  | succ last ih =>
      have there : last + 1 < order.length := by omega
      obtain ⟨pick, below, stands⟩ :=
        List.mem_iff_getElem.1 (reorders.subset (List.getElem_mem there))
      have stands? : items[pick]? = order[last + 1]? := by
        rw [List.getElem?_eq_getElem below, List.getElem?_eq_getElem there, stands]
      have first : pick < last + 2 := by
        by_contra late
        rw [← agrees pick (by omega)] at stands?
        have := (List.getElem?_inj (by omega) distinct').1 stands?
        omega
      have apart := exchange_perm items (last + 1) pick
      have behind (k : Nat) (late : last < k) :
          order[k]? = (exchange items (last + 1) pick)[k]? := by
        rw [getElem?_exchange inside below]
        split
        · next same => rw [same, stands?]
        · rw [if_neg (by omega), agrees k (by omega)]
      have fewer : last < (exchange items (last + 1) pick).length := by
        simpa using Nat.lt_of_succ_lt inside
      obtain ⟨picks, within, dealt⟩ := ih (apart.nodup_iff.2 distinct) (reorders.trans apart.symm)
        fewer behind (by simpa using length)
      refine ⟨pick :: picks, ?_, dealt⟩
      rw [bounds_succ]
      exact .cons first within

/-- Where no item occurs twice, draws within the bounds and orders of the items correspond. -/
theorem bijOn_arrange (distinct : items.Nodup) :
    Set.BijOn (fun picks => arrange (items.length - 1) picks items)
      {picks | Within picks (bounds items.length)} {order | order.Perm items} := by
  cases items with
  | nil =>
      refine ⟨fun picks _ => arrange_perm 0 picks [], ?_, ?_⟩
      · rintro picks (within : Within picks []) others (within' : Within others []) _
        rw [List.forall₂_nil_right_iff.1 within, List.forall₂_nil_right_iff.1 within']
      · rintro order reorders
        exact ⟨[], .nil, (List.Perm.eq_nil reorders).symm⟩
  | cons item items =>
      refine ⟨fun picks _ => arrange_perm .., ?_, ?_⟩
      · intro picks within others within' same
        exact arrange_injective distinct (Nat.lt_succ_self _) within within' same
      · intro order reorders
        obtain ⟨picks, within, dealt⟩ := exists_arrange_eq distinct reorders
          (Nat.lt_succ_self items.length) (by
            intro k behind
            have length := reorders.length_eq
            rw [List.length_cons] at length
            rw [List.getElem?_eq_none (by omega), List.getElem?_eq_none (by simpa using behind)])
        exact ⟨picks, within, dealt⟩

/-- Items that do not repeat have as many orders as the factorial of their number. -/
theorem ncard_perm (distinct : items.Nodup) :
    {order : List α | order.Perm items}.ncard = items.length.factorial := by
  classical
  have listed : {order : List α | order.Perm items} =
      (items.permutations.toFinset : Set (List α)) := by
    ext order
    simp
  rw [listed, Set.ncard_coe_finset,
    List.toFinset_card_of_nodup (List.nodup_permutations _ distinct), List.length_permutations]

end

/-- A queue that is put in random order is the roster as its draws arrange it, and the roster stays
in its own order. -/
theorem queue_of_finalize {host : Host} {moment : Moment} {books : Books} {proof : Option Proof}
    {id : Number} {circle : Circle} {effect : Effect} (shuffles : host.shuffle = run)
    (found : books.circle id = .ok circle) (isRandom : circle.isRandomQueue = true)
    (unqueued : circle.payoutQueue = [])
    (performed : (Operation.finalize proof id).perform host moment books = .ok effect) :
    ∃ queued ∈ effect.books.circles, queued.id = circle.id ∧ queued.members = circle.members ∧
      (queued.payoutQueue, effect.draws) = run circle.members moment.draws := by
  obtain ⟨change, _, deed, rfl⟩ := deed_of_administrator rfl rfl found performed
  have mem := Books.mem_of_circle found
  cases deed with
  | finalizeAgain _ queued => exact absurd unqueued queued
  | finalize _ _ _ isQueue =>
      rw [if_pos isRandom, shuffles] at isQueue
      exact ⟨_, Books.mem_replaceCircle_self mem rfl, rfl, rfl, isQueue⟩

/-- A shuffle asks its source for one number fewer than there are items, below their number, the one
below that, and so on down to two, and what it is given decides the order. Every outcome of the
draws is possible, and all of them only reorder the items. Where no item occurs twice, outcomes and
orders correspond one to one, so that each of the `n!` orders comes from one outcome. A circle that
puts its queue in random order keeps its roster in the order in which it was. -/
theorem shuffle_is_fair (items : List α) :
    let asked := bounds items.length
    let dealt (picks : List Nat) := arrange (items.length - 1) picks items
    asked = (List.range (items.length - 1)).map (items.length - ·) ∧
    (∀ (next : σ → Nat → Nat × σ) (source : σ),
      (∀ source bound, 0 < bound → (next source bound).1 < bound) →
      Within (drawn next source asked).1 asked ∧
        walk next (items.length - 1) items source =
          (dealt (drawn next source asked).1, (drawn next source asked).2)) ∧
    (∀ draws, run items draws = walk Draws.next (items.length - 1) items draws) ∧
    (∀ picks, Within picks asked →
      (dealt picks).Perm items ∧
        ∃ draws : Draws, (draws.take asked).1 = picks ∧ (run items draws).1 = dealt picks) ∧
    (items.Nodup →
      Set.BijOn dealt {picks | Within picks asked} {order | order.Perm items} ∧
        {order : List α | order.Perm items}.ncard = items.length.factorial) ∧
    ∀ (host : Host) (moment : Moment) (books : Books) (proof : Option Proof) (id : Number)
      (circle : Circle) (effect : Effect), host.shuffle = run → books.circle id = .ok circle →
      circle.isRandomQueue = true → circle.payoutQueue = [] →
      (Operation.finalize proof id).perform host moment books = .ok effect →
      ∃ queued ∈ effect.books.circles, queued.id = circle.id ∧ queued.members = circle.members ∧
        (queued.payoutQueue, effect.draws) = run circle.members moment.draws := by
  intro asked dealt
  refine ⟨bounds_eq _, ?_, run_eq_walk items, ?_, ?_, ?_⟩
  · intro next source bounded
    exact ⟨drawn_within bounded (fun _ => pos_of_mem_bounds) source, walk_length ..⟩
  · intro picks within
    have given := take_ofValues within
    refine ⟨arrange_perm .., .ofValues picks, given, ?_⟩
    rw [run_eq_walk, walk_length, drawn_draws, given]
  · intro distinct
    exact ⟨bijOn_arrange distinct, ncard_perm distinct⟩
  · intro host moment books proof id circle effect shuffles found isRandom unqueued performed
    exact queue_of_finalize shuffles found isRandom unqueued performed

/-- Three members are put in random order by two draws. -/
theorem shuffle_is_fair_of_three :
    let items := ["a", "b", "c"]
    let host := { Host.sample with shuffle := run }
    let proof := host.proofOf
    let id := Number.ofNat 1
    let start : World := .opened (.ofNat 1700000000) (.ofNat 1700000000000) "0" (.ofValues [1, 0])
    let terms := { CircleTerms.sample with isRandomQueue := true }
    let world := (runAll host
      [.call (.createCircle (proof "a") terms) [], .call (.join (proof "a") id) [],
        .call (.join (proof "b") id) [], .call (.join (proof "c") id) []] start).1
    bounds items.length = [3, 2] ∧ Within [1, 0] [3, 2] ∧
      Within (drawn Draws.next world.draws [3, 2]).1 [3, 2] ∧
      (arrange 2 [1, 0] items).Perm items ∧ items.Nodup ∧
      Set.BijOn (arrange 2 · items) {picks | Within picks [3, 2]} {order | order.Perm items} ∧
      ∃ effect, (Operation.finalize (proof "a") id).perform host world.moment world.books =
          .ok effect ∧
        ∃ queued ∈ effect.books.circles, queued.members = items ∧
          queued.payoutQueue = ["c", "a", "b"] := by
  intro items host proof id start terms world
  have within : Within [1, 0] [3, 2] := by decide
  have distinct : items.Nodup := by decide
  obtain ⟨_, asks, _, deals, fair, queues⟩ := shuffle_is_fair (σ := Draws) items
  have isCircle : (world.books.circle id).toOption.map (fun circle =>
      (circle.isRandomQueue, circle.payoutQueue, circle.members)) = some (true, [], items) := by
    decide +kernel
  have goes : ((Operation.finalize (proof "a") id).perform host world.moment
      world.books).toOption.isSome := by
    decide +kernel
  have dealt : (run items world.moment.draws).1 = ["c", "a", "b"] := by decide +kernel
  obtain ⟨circle, found, facts⟩ := exists_ok_of_map_toOption isCircle
  simp only [Prod.mk.injEq] at facts
  obtain ⟨isRandom, unqueued, members⟩ := facts
  obtain ⟨effect, performed⟩ := Option.isSome_iff_exists.1 goes
  rw [toOption_eq_some_iff] at performed
  obtain ⟨queued, isQueued, _, same, order⟩ := queues host world.moment world.books (proof "a") id
    circle effect rfl found isRandom unqueued performed
  refine ⟨rfl, within, (asks Draws.next world.draws next_lt).1, (deals _ within).1, distinct,
    (fair distinct).1, effect, performed, queued, isQueued, same.trans members, ?_⟩
  rw [members] at order
  exact (congrArg Prod.fst order).trans dealt

end Shuffle

end SavingsCircle
