import Mathlib.Algebra.Order.BigOperators.Group.Finset
import SavingsCircle.Proofs.Custody.Payment

/-!
# The supply of an asset

Units of an asset come about by minting only, and a transfer takes out of one account just what it
brings into another. What all holders have of an asset together is therefore what was minted of it
(`Ledger.supply_is_what_was_minted`).

The sums in which an account grows are rounded above `Number.maxSafe`. No account holds more than
the supply, though, so that nothing is rounded while no more than that was minted. This is where
the bound on the units minted is needed, and the only place.
-/

namespace SavingsCircle.Ledger

def holders (ledger : Ledger) : Finset Address := (ledger.accounts.map (·.holder)).toFinset

/-- What all holders together have of an asset. -/
def supply (ledger : Ledger) (asset : Asset) : Nat :=
  ∑ holder ∈ ledger.holders, ledger.balance asset holder

section

variable {ledger next : Ledger} {asset other : Asset} {holder source target : Address}
variable {units : Amount} {amount : Number}

theorem balance_eq_zero_of_not_mem_holders (asset : Asset) (stranger : holder ∉ ledger.holders) :
    ledger.balance asset holder = 0 := by
  have none : ledger.account? asset holder = none := by
    refine List.find?_eq_none.2 fun account mem theirs => stranger ?_
    rw [Account.isOf_eq_true_iff] at theirs
    rw [holders, List.mem_toFinset, ← theirs.2]
    exact List.mem_map_of_mem mem
  rw [balance, none]
  rfl

/-- The supply can be counted over any holders without whom nothing is missed. -/
theorem supply_eq_sum {people : Finset Address}
    (others : ∀ holder ∉ people, ledger.balance asset holder = 0) :
    ledger.supply asset = ∑ holder ∈ people, ledger.balance asset holder := by
  calc ledger.supply asset
      = ∑ holder ∈ ledger.holders ∪ people, ledger.balance asset holder :=
        Finset.sum_subset Finset.subset_union_left fun _ _ stranger =>
          balance_eq_zero_of_not_mem_holders asset stranger
    _ = ∑ holder ∈ people, ledger.balance asset holder :=
        (Finset.sum_subset Finset.subset_union_right fun holder _ => others holder).symm

theorem supply_empty (asset : Asset) : empty.supply asset = 0 := rfl

theorem balance_le_supply (ledger : Ledger) (asset : Asset) (holder : Address) :
    ledger.balance asset holder ≤ ledger.supply asset := by
  by_cases known : holder ∈ ledger.holders
  · exact Finset.single_le_sum (fun _ _ => Nat.zero_le _) known
  · rw [balance_eq_zero_of_not_mem_holders asset known]
    exact Nat.zero_le _

/-- A written balance stands in the supply in place of the one before. -/
theorem supply_put (ledger : Ledger) (asset : Asset) (holder : Address) (units : Amount) :
    (ledger.put asset holder units).supply asset + ledger.balance asset holder =
      ledger.supply asset + units := by
  let people := insert holder ledger.holders
  have known : holder ∈ people := Finset.mem_insert_self holder ledger.holders
  have before : ledger.supply asset = ∑ other ∈ people, ledger.balance asset other :=
    supply_eq_sum fun other absent => balance_eq_zero_of_not_mem_holders asset fun known =>
      absent (Finset.mem_insert_of_mem known)
  have after : (ledger.put asset holder units).supply asset =
      ∑ other ∈ people, (ledger.put asset holder units).balance asset other := by
    refine supply_eq_sum fun other absent => ?_
    rw [Finset.mem_insert, not_or] at absent
    rw [balance_put, if_neg fun same => absent.1 same.2,
      balance_eq_zero_of_not_mem_holders asset absent.2]
  have rest : ∑ other ∈ people.erase holder, (ledger.put asset holder units).balance asset other =
      ∑ other ∈ people.erase holder, ledger.balance asset other := by
    refine Finset.sum_congr rfl fun other mem => ?_
    rw [balance_put, if_neg fun same => Finset.ne_of_mem_erase mem same.2]
  have here : (ledger.put asset holder units).balance asset holder = units := by
    rw [balance_put, if_pos ⟨rfl, rfl⟩]
  have own := Finset.add_sum_erase people (ledger.balance asset) known
  have written := Finset.add_sum_erase people ((ledger.put asset holder units).balance asset) known
  rw [here, rest] at written
  lia

theorem supply_put_of_ne (differ : other ≠ asset) (holder : Address) (units : Amount) :
    (ledger.put asset holder units).supply other = ledger.supply other := by
  have same (someone : Address) :
      (ledger.put asset holder units).balance other someone = ledger.balance other someone := by
    rw [balance_put, if_neg fun both => differ both.1]
  calc (ledger.put asset holder units).supply other
      = ∑ someone ∈ ledger.holders, (ledger.put asset holder units).balance other someone :=
        supply_eq_sum fun someone stranger => by
          rw [same, balance_eq_zero_of_not_mem_holders other stranger]
    _ = ledger.supply other := Finset.sum_congr rfl fun someone _ => same someone

theorem supply_credit (small : ledger.supply asset + units ≤ Number.maxSafe) (holder : Address) :
    (ledger.credit asset holder units).supply asset = ledger.supply asset + units := by
  have held := ledger.balance_le_supply asset holder
  have written := ledger.supply_put asset holder (ledger.balance asset holder + units)
  have exact : Amount.add (ledger.balance asset holder) units =
      ledger.balance asset holder + units := Amount.add_eq (by lia)
  rw [credit, exact]
  lia

theorem supply_credit_of_ne (differ : other ≠ asset) (holder : Address) (units : Amount) :
    (ledger.credit asset holder units).supply other = ledger.supply other :=
  supply_put_of_ne differ holder _

theorem mint_eq_ok (minted : ledger.mint asset target amount = .ok next) :
    ∃ units, amount.safeNat? = some units ∧ 0 < units ∧
      next = ledger.credit asset target units := by
  simp only [mint, bind_eq_ok, demandSome_eq_ok, demand_eq_ok] at minted
  obtain ⟨units, given, _, positive, ⟨⟩⟩ := minted
  exact ⟨units, given, positive, rfl⟩

/-- A minting that is accepted adds just its units to the supply of its asset, as long as that is
exact. -/
theorem supply_mint (minted : ledger.mint asset target amount = .ok next)
    (small : ledger.supply other + (if asset = other then amount.toNat else 0) ≤ Number.maxSafe) :
    next.supply other = ledger.supply other + if asset = other then amount.toNat else 0 := by
  obtain ⟨units, given, -, rfl⟩ := mint_eq_ok minted
  rw [Number.toNat_of_safeNat? given] at small ⊢
  by_cases own : asset = other
  · subst own
    rw [if_pos rfl] at small ⊢
    exact supply_credit small target
  · rw [if_neg own, supply_credit_of_ne (Ne.symm own)]
    rfl

/-- A transfer leaves the supply of every asset, as long as it is exact. -/
theorem supply_transfer (made : ledger.transfer asset source target amount = .ok next)
    (small : ledger.supply other ≤ Number.maxSafe) : next.supply other = ledger.supply other := by
  obtain ⟨units, -, ⟨-, rfl⟩ | ⟨-, enough, rfl⟩⟩ := transfer_eq_ok made
  · rfl
  · by_cases own : other = asset
    · subst own
      have held := ledger.balance_le_supply other source
      have paid := ledger.supply_put other source (ledger.balance other source - units)
      rw [Amount.sub_eq (held.trans small), supply_credit (by lia)]
      lia
    · rw [supply_credit_of_ne own, supply_put_of_ne own]

end

/-! ## Requests one after the other -/

inductive Request where
  | mint (asset : Asset) (target : Address) (amount : Number)
  | transfer (asset : Asset) (source target : Address) (amount : Number)

namespace Request

def asset : Request → Asset
  | .mint asset .. | .transfer asset .. => asset

/-- Those whose accounts a request is about. -/
def parties : Request → List Address
  | .mint _ target _ => [target]
  | .transfer _ source target _ => [source, target]

/-- The units of an asset that a request brings in if it is granted. -/
def issue (asset : Asset) : Request → Nat
  | .mint named _ amount => if named = asset then amount.toNat else 0
  | .transfer .. => 0

end Request

def grant (ledger : Ledger) : Request → Except Failure Ledger
  | .mint asset target amount => ledger.mint asset target amount
  | .transfer asset source target amount => ledger.transfer asset source target amount

/-- The ledger after a request, and why the request was refused if it was. -/
def handle (ledger : Ledger) (request : Request) : Ledger × Option Failure :=
  match ledger.grant request with
  | .ok next => (next, none)
  | .error failure => (ledger, some failure)

def handleAll (ledger : Ledger) (requests : List Request) : Ledger :=
  requests.foldl (fun ledger request => (ledger.handle request).1) ledger

/-- The units of an asset that requests bring in, those that are refused not counted. -/
def minted (asset : Asset) : Ledger → List Request → Nat
  | _, [] => 0
  | ledger, request :: requests =>
    (if (ledger.handle request).2.isNone then request.issue asset else 0) +
      minted asset (ledger.handle request).1 requests

section

variable {ledger next : Ledger} {asset other : Asset} {holder : Address} {request : Request}
variable {requests : List Request}

theorem handle_of_ok (granted : ledger.grant request = .ok next) :
    ledger.handle request = (next, none) := by
  rw [handle, granted]

theorem handle_of_error {failure : Failure} (refused : ledger.grant request = .error failure) :
    ledger.handle request = (ledger, some failure) := by
  rw [handle, refused]

theorem handle_of_isSome (refused : (ledger.handle request).2.isSome) :
    (ledger.handle request).1 = ledger := by
  rw [handle] at refused ⊢
  split at refused
  · cases refused
  · rfl

/-- A request adds to the supply what it brings in, as long as the supply stays exact. -/
theorem supply_handle
    (small : ledger.supply asset +
      (if (ledger.handle request).2.isNone then request.issue asset else 0) ≤ Number.maxSafe) :
    (ledger.handle request).1.supply asset = ledger.supply asset +
      if (ledger.handle request).2.isNone then request.issue asset else 0 := by
  cases granted : ledger.grant request with
  | error failure =>
      rw [handle_of_error granted]
      rfl
  | ok next =>
      rw [handle_of_ok granted] at small ⊢
      simp only [Option.isNone_none, if_true] at small ⊢
      cases request with
      | mint named target amount => exact supply_mint granted small
      | transfer moved source target amount => exact supply_transfer granted small

/-- Requests add to the supply what they bring in, as long as the supply stays exact. -/
theorem supply_handleAll
    (small : ledger.supply asset + minted asset ledger requests ≤ Number.maxSafe) :
    (ledger.handleAll requests).supply asset =
      ledger.supply asset + minted asset ledger requests := by
  induction requests generalizing ledger with
  | nil => rfl
  | cons request requests ih =>
      rw [minted, ← Nat.add_assoc] at small ⊢
      have step : (ledger.handle request).1.supply asset = _ :=
        supply_handle (Nat.le_trans (Nat.le_add_right _ _) small)
      rw [← step] at small ⊢
      exact ih small

/-- A request changes no balances but those of its own asset and its own parties. -/
theorem balance_handle
    (elsewhere : ¬(other = request.asset ∧ holder ∈ request.parties)) :
    (ledger.handle request).1.balance other holder = ledger.balance other holder := by
  cases granted : ledger.grant request with
  | error failure => rw [handle_of_error granted]
  | ok next =>
      rw [handle_of_ok granted]
      cases request with
      | mint asset target amount =>
          obtain ⟨units, -, -, rfl⟩ := mint_eq_ok granted
          rw [balance_credit, if_neg (by simpa [Request.asset, Request.parties] using elsewhere)]
      | transfer asset source target amount =>
          simp only [Request.asset, Request.parties, List.mem_cons, List.not_mem_nil, or_false,
            not_and, not_or] at elsewhere
          obtain ⟨units, -, ⟨-, rfl⟩ | ⟨-, -, rfl⟩⟩ := transfer_eq_ok granted
          · rfl
          · rw [balance_credit, if_neg fun same => (elsewhere same.1).2 same.2, balance_put,
              if_neg fun same => (elsewhere same.1).1 same.2]

/-- Whatever is asked of an empty ledger, as long as no more of an asset was minted than is exact,
no balance of it exceeds that either, and all balances of it come to just what was minted. A request
that is refused changes nothing, and one that is granted changes only balances of its own asset and
its own parties. -/
theorem supply_is_what_was_minted (isLedger : ledger = empty.handleAll requests)
    (exact : minted asset empty requests ≤ Number.maxSafe) :
    (∀ holder, ledger.balance asset holder ≤ Number.maxSafe) ∧
      ledger.supply asset = minted asset empty requests ∧
      ∀ request, ((ledger.handle request).2.isSome → (ledger.handle request).1 = ledger) ∧
        ∀ other holder,
          (ledger.handle request).1.balance other holder ≠ ledger.balance other holder →
            other = request.asset ∧ holder ∈ request.parties := by
  have total : ledger.supply asset = minted asset empty requests := by
    rw [isLedger, supply_handleAll (by rwa [supply_empty, Nat.zero_add]), supply_empty,
      Nat.zero_add]
  refine ⟨fun holder => ?_, total, fun request => ⟨handle_of_isSome, fun other holder => ?_⟩⟩
  · exact (ledger.balance_le_supply asset holder).trans (total ▸ exact)
  · exact Not.imp_symm balance_handle

end

/-- Of seven requests three are refused: a minting of half a unit more than two, a transfer of a
negative amount and one by someone without an account. The units minted of an asset stay where two
holders have them together. -/
theorem supply_is_what_was_minted_of_refusals :
    let requests : List Request :=
      [.mint "USDC" "a" (.ofNat 100), .mint "USDC" "a" (.finite (5 / 2)),
        .mint "EUR" "b" (.ofNat 7), .transfer "USDC" "a" "b" (.ofNat 30),
        .transfer "USDC" "b" "b" (.ofNat 500), .transfer "USDC" "b" "a" (.ofInt (-1)),
        .transfer "USDC" "x" "a" (.ofNat 1)]
    let ledger := empty.handleAll requests
    minted "USDC" empty requests = 100 ∧ ledger.supply "USDC" = 100 ∧
      ledger.balance "USDC" "a" = 70 ∧ ledger.balance "USDC" "b" = 30 := by
  intro requests ledger
  have issued : minted "USDC" empty requests = 100 := by decide +kernel
  have isLedger : ledger = empty.handleAll requests := rfl
  obtain ⟨_, total, _⟩ := supply_is_what_was_minted isLedger
    (issued ▸ by decide : minted "USDC" empty requests ≤ Number.maxSafe)
  exact ⟨issued, total.trans issued, by decide +kernel, by decide +kernel⟩

end SavingsCircle.Ledger
