import Mathlib.Algebra.BigOperators.Group.List.Basic
import SavingsCircle.Proofs.Custody.Payment

/-!
# Clearing

Where nobody who pays is paid as well, transfers one after the other come to what they come to all
at once: they are made if every account covers what is taken out of it altogether, and what is left
there does not depend on their order (`Ledger.balance_transferAll`). What is brought into an account
is added up one by one, and sums above `Number.maxSafe` are rounded. The order of different amounts
can therefore show in the account that receives them (`Ledger.transferAll_perm`).
-/

namespace SavingsCircle

namespace Transfer

variable {transfer : Transfer} {asset : Asset} {holder : Address}

def units (transfer : Transfer) : Nat := transfer.amount.safeNat?.getD 0

def moves (transfer : Transfer) : Bool := transfer.units ≠ 0 && transfer.source ≠ transfer.target

def isFrom (asset : Asset) (holder : Address) (transfer : Transfer) : Bool :=
  transfer.moves && transfer.asset = asset && transfer.source = holder

def isTo (asset : Asset) (holder : Address) (transfer : Transfer) : Bool :=
  transfer.moves && transfer.asset = asset && transfer.target = holder

theorem moves_iff : transfer.moves = true ↔
    transfer.units ≠ 0 ∧ transfer.source ≠ transfer.target := by
  simp [moves]

theorem isFrom_iff : transfer.isFrom asset holder = true ↔
    transfer.moves = true ∧ transfer.asset = asset ∧ transfer.source = holder := by
  simp [isFrom, and_assoc]

theorem isTo_iff : transfer.isTo asset holder = true ↔
    transfer.moves = true ∧ transfer.asset = asset ∧ transfer.target = holder := by
  simp [isTo, and_assoc]

end Transfer

def debits (transfers : List Transfer) (asset : Asset) (holder : Address) : Nat :=
  ((transfers.filter (·.isFrom asset holder)).map (·.units)).sum

/-- What transfers bring into an account, one after the other. -/
def credits (transfers : List Transfer) (asset : Asset) (holder : Address) : List Nat :=
  (transfers.filter (·.isTo asset holder)).map (·.units)

/-- Nobody who pays is paid as well. -/
def OneWay (transfers : List Transfer) : Prop :=
  ∀ first ∈ transfers, ∀ second ∈ transfers, first.moves = true → second.moves = true →
    first.source ≠ second.target

section

variable {transfer : Transfer} {transfers : List Transfer} {asset : Asset} {holder : Address}

theorem debits_cons (transfer : Transfer) (transfers : List Transfer) (asset : Asset)
    (holder : Address) : debits (transfer :: transfers) asset holder =
      (if transfer.isFrom asset holder then transfer.units else 0) +
        debits transfers asset holder := by
  rw [debits, List.filter_cons]
  split
  · rw [List.map_cons, List.sum_cons]
    rfl
  · rw [Nat.zero_add]
    rfl

theorem credits_cons (transfer : Transfer) (transfers : List Transfer) (asset : Asset)
    (holder : Address) : credits (transfer :: transfers) asset holder =
      if transfer.isTo asset holder then transfer.units :: credits transfers asset holder
      else credits transfers asset holder := by
  rw [credits, List.filter_cons]
  split <;> rfl

theorem OneWay.tail (oneWay : OneWay (transfer :: transfers)) : OneWay transfers :=
  fun first isFirst second isSecond =>
    oneWay first (List.mem_cons_of_mem _ isFirst) second (List.mem_cons_of_mem _ isSecond)

theorem OneWay.perm {others : List Transfer} (oneWay : OneWay transfers)
    (perm : transfers.Perm others) : OneWay others :=
  fun first isFirst second isSecond =>
    oneWay first (perm.mem_iff.2 isFirst) second (perm.mem_iff.2 isSecond)

/-- Whoever is paid first does not pay later. -/
theorem OneWay.debits_eq_zero (oneWay : OneWay (transfer :: transfers))
    (paid : transfer.isTo asset holder = true) : debits transfers asset holder = 0 := by
  obtain ⟨moves, -, rfl⟩ := Transfer.isTo_iff.1 paid
  have nobody : transfers.filter (·.isFrom asset transfer.target) = [] := by
    rw [List.filter_eq_nil_iff]
    intro other mem pays
    obtain ⟨alsoMoves, -, same⟩ := Transfer.isFrom_iff.1 pays
    exact oneWay other (List.mem_cons_of_mem _ mem) transfer List.mem_cons_self alsoMoves moves same
  rw [debits, nobody]
  rfl

theorem debits_perm {others : List Transfer} (perm : transfers.Perm others) (asset : Asset)
    (holder : Address) : debits others asset holder = debits transfers asset holder :=
  (((perm.filter _).map _).sum_eq).symm

end

/-! ## Sums one by one -/

namespace Amount

variable {start : Amount} {amounts others : List Nat}

theorem foldl_add_eq_of_le (small : amounts.foldl add start ≤ Number.maxSafe) :
    amounts.foldl add start = start + amounts.sum := by
  induction amounts generalizing start with
  | nil => rfl
  | cons amount amounts ih =>
      have whole := ih small
      rw [List.foldl_cons] at small ⊢
      have first : add start amount ≤ Number.maxSafe :=
        Nat.le_trans (Nat.le_add_right _ _) (whole ▸ small)
      rw [whole, add_eq_of_le first, List.sum_cons, Nat.add_assoc]

theorem foldl_add_eq (small : start + amounts.sum ≤ Number.maxSafe) :
    amounts.foldl add start = start + amounts.sum := by
  induction amounts generalizing start with
  | nil => rfl
  | cons amount amounts ih =>
      rw [List.sum_cons, ← Nat.add_assoc] at small ⊢
      rw [List.foldl_cons, add_eq (Nat.le_trans (Nat.le_add_right _ _) small), ih small]

/-- The order does not matter to sums that come out safe, nor to sums of equal amounts. -/
theorem foldl_add_perm (perm : amounts.Perm others)
    (blind : (∀ a ∈ amounts, ∀ b ∈ amounts, a = b) ∨ amounts.foldl add start ≤ Number.maxSafe) :
    others.foldl add start = amounts.foldl add start := by
  rcases blind with alike | small
  · have same : others = amounts := by
      cases amounts with
      | nil => exact perm.symm.eq_nil
      | cons amount amounts =>
          have equal : ∀ b ∈ amount :: amounts, b = amount := fun b mem =>
            alike b mem amount List.mem_cons_self
          rw [List.eq_replicate_of_mem equal] at perm ⊢
          exact List.perm_replicate.1 perm.symm
    rw [same]
  · have whole := foldl_add_eq_of_le small
    rw [whole] at small ⊢
    rw [perm.sum_eq] at small ⊢
    exact foldl_add_eq small

end Amount

/-! ## Transfers one after the other -/

namespace Ledger

def transferAll (ledger : Ledger) : List Transfer → Except Failure Ledger
  | [] => .ok ledger
  | transfer :: transfers => do
    let next ← ledger.transfer transfer.asset transfer.source transfer.target transfer.amount
    next.transferAll transfers

variable {ledger next : Ledger} {transfer : Transfer} {transfers others : List Transfer}
variable {asset : Asset} {holder : Address}

theorem transferAll_append (ledger : Ledger) (transfers others : List Transfer) :
    ledger.transferAll (transfers ++ others) =
      (ledger.transferAll transfers).bind (·.transferAll others) := by
  induction transfers generalizing ledger with
  | nil => rfl
  | cons transfer transfers ih =>
      rw [List.cons_append, transferAll, transferAll]
      cases ledger.transfer transfer.asset transfer.source transfer.target transfer.amount with
      | error _ => rfl
      | ok next => exact ih next

/-- The accounts that transfers take something out of hold no more than is exact. -/
def CoversSafely (ledger : Ledger) (transfers : List Transfer) : Prop :=
  ∀ transfer ∈ transfers, transfer.moves = true →
    ledger.balance transfer.asset transfer.source ≤ Number.maxSafe

/-- What it takes for a transfer to be made. -/
theorem transfer_eq_ok_iff :
    ledger.transfer transfer.asset transfer.source transfer.target transfer.amount = .ok next ↔
      transfer.amount.safeNat?.isSome ∧
        if transfer.moves then
          transfer.units ≤ ledger.balance transfer.asset transfer.source ∧
            next = (ledger.put transfer.asset transfer.source
              (Amount.sub (ledger.balance transfer.asset transfer.source) transfer.units)).credit
                transfer.asset transfer.target transfer.units
        else next = ledger := by
  rw [Ledger.transfer]
  cases given : transfer.amount.safeNat? with
  | none => simp [demandSome, bind, Except.bind]
  | some units =>
      have same : transfer.units = units := by simp [Transfer.units, given]
      rw [same]
      simp only [bind_eq_ok, demandSome_eq_ok, Option.some.injEq, exists_eq_left',
        Option.isSome_some, true_and]
      by_cases moves : transfer.moves = true
      · rw [if_pos moves]
        rw [Transfer.moves_iff, same] at moves
        rw [if_neg (not_or.2 moves)]
        simp only [bind_eq_ok, demand_eq_ok]
        constructor
        · rintro ⟨_, enough, made⟩
          exact ⟨enough, (Except.ok.inj made).symm⟩
        · rintro ⟨enough, rfl⟩
          exact ⟨(), enough, rfl⟩
      · rw [if_neg moves]
        rw [Transfer.moves_iff, same, not_and_or, not_not, not_not] at moves
        rw [if_pos moves]
        exact ⟨fun made => (Except.ok.inj made).symm, fun same => same ▸ rfl⟩

/-- What accounts hold once a transfer is made. -/
theorem balance_of_transfer
    (made : ledger.transfer transfer.asset transfer.source transfer.target transfer.amount =
      .ok next)
    (safe : transfer.moves = true →
      ledger.balance transfer.asset transfer.source ≤ Number.maxSafe)
    (asset : Asset) (holder : Address) :
    next.balance asset holder =
      if transfer.isFrom asset holder then ledger.balance asset holder - transfer.units
      else if transfer.isTo asset holder then
        Amount.add (ledger.balance asset holder) transfer.units
      else ledger.balance asset holder := by
  obtain ⟨-, made⟩ := transfer_eq_ok_iff.1 made
  by_cases moves : transfer.moves = true
  · rw [if_pos moves] at made
    obtain ⟨-, rfl⟩ := made
    have apart := (Transfer.moves_iff.1 moves).2
    simp only [balance_credit, balance_put, Transfer.isFrom_iff, Transfer.isTo_iff, moves, true_and,
      Amount.sub_eq (safe moves), apart.symm, and_false, if_false]
    by_cases pays : transfer.asset = asset ∧ transfer.source = holder
    · obtain ⟨rfl, rfl⟩ := pays
      simp [apart]
    · by_cases gains : transfer.asset = asset ∧ transfer.target = holder
      · obtain ⟨rfl, rfl⟩ := gains
        simp [apart]
      · rw [if_neg pays, if_neg gains, if_neg fun same => gains ⟨same.1.symm, same.2.symm⟩,
          if_neg fun same => pays ⟨same.1.symm, same.2.symm⟩]
  · rw [if_neg moves] at made
    simp [Transfer.isFrom, Transfer.isTo, moves, made]

/-- A transfer leaves as much as is to be paid afterwards. -/
theorem CoversSafely.tail (oneWay : OneWay (transfer :: transfers))
    (safe : ledger.CoversSafely (transfer :: transfers))
    (made : ledger.transfer transfer.asset transfer.source transfer.target transfer.amount =
      .ok next) : next.CoversSafely transfers := by
  intro other mem moves
  have before := safe other (List.mem_cons_of_mem _ mem) moves
  have left := balance_of_transfer made (safe transfer List.mem_cons_self) other.asset other.source
  rw [left]
  split
  · exact Nat.le_trans (Nat.sub_le _ _) before
  · split
    · next paid =>
      obtain ⟨alsoMoves, -, same⟩ := Transfer.isTo_iff.1 paid
      exact absurd same.symm
        (oneWay other (List.mem_cons_of_mem _ mem) transfer List.mem_cons_self moves alsoMoves)
    · exact before

/-- Transfers that are made come to what they come to all at once. -/
theorem balance_transferAll (oneWay : OneWay transfers) (safe : ledger.CoversSafely transfers)
    (made : ledger.transferAll transfers = .ok next) (asset : Asset) (holder : Address) :
    debits transfers asset holder ≤ ledger.balance asset holder ∧
      next.balance asset holder = (credits transfers asset holder).foldl Amount.add
        (ledger.balance asset holder - debits transfers asset holder) := by
  induction transfers generalizing ledger with
  | nil =>
      obtain rfl := Except.ok.inj made
      exact ⟨Nat.zero_le _, rfl⟩
  | cons transfer transfers ih =>
      rw [transferAll, bind_eq_ok] at made
      obtain ⟨mid, first, others⟩ := made
      obtain ⟨enough, whole⟩ := ih oneWay.tail (safe.tail oneWay first) others
      have left := balance_of_transfer first (safe transfer List.mem_cons_self) asset holder
      rw [debits_cons, credits_cons]
      by_cases pays : transfer.isFrom asset holder = true
      · have noGain : ¬transfer.isTo asset holder = true := fun gains => by
          obtain ⟨moves, -, rfl⟩ := Transfer.isFrom_iff.1 pays
          exact (Transfer.moves_iff.1 moves).2 (Transfer.isTo_iff.1 gains).2.2.symm
        obtain ⟨moves, rfl, rfl⟩ := Transfer.isFrom_iff.1 pays
        have covered := (transfer_eq_ok_iff.1 first).2
        rw [if_pos moves] at covered
        rw [if_pos pays] at left ⊢
        rw [if_neg noGain, whole, left, Nat.sub_sub]
        rw [left] at enough
        exact ⟨by have := covered.1; omega, rfl⟩
      · rw [if_neg pays] at left ⊢
        rw [Nat.zero_add]
        by_cases gains : transfer.isTo asset holder = true
        · rw [if_pos gains] at left ⊢
          rw [whole, left, oneWay.debits_eq_zero gains]
          exact ⟨Nat.zero_le _, rfl⟩
        · rw [if_neg gains] at left ⊢
          rw [whole, left]
          exact ⟨left ▸ enough, rfl⟩

theorem safeNat?_of_transferAll (made : ledger.transferAll transfers = .ok next) :
    ∀ transfer ∈ transfers, transfer.amount.safeNat?.isSome := by
  induction transfers generalizing ledger with
  | nil => exact List.forall_mem_nil _
  | cons transfer transfers ih =>
      rw [transferAll, bind_eq_ok] at made
      obtain ⟨mid, first, others⟩ := made
      exact List.forall_mem_cons.2 ⟨(transfer_eq_ok_iff.1 first).1, ih others⟩

/-- Transfers are made if every account covers what is taken out of it altogether. -/
theorem exists_transferAll (oneWay : OneWay transfers) (safe : ledger.CoversSafely transfers)
    (given : ∀ transfer ∈ transfers, transfer.amount.safeNat?.isSome)
    (enough : ∀ asset holder, debits transfers asset holder ≤ ledger.balance asset holder) :
    ∃ next, ledger.transferAll transfers = .ok next := by
  induction transfers generalizing ledger with
  | nil => exact ⟨ledger, rfl⟩
  | cons transfer transfers ih =>
      rw [List.forall_mem_cons] at given
      obtain ⟨mid, first⟩ : ∃ mid, ledger.transfer transfer.asset transfer.source transfer.target
          transfer.amount = .ok mid := by
        simp only [transfer_eq_ok_iff, given.1, true_and]
        by_cases moves : transfer.moves = true
        · have own : transfer.isFrom transfer.asset transfer.source = true := by
            simp [Transfer.isFrom_iff, moves]
          have covered := enough transfer.asset transfer.source
          rw [debits_cons, if_pos own] at covered
          simp only [if_pos moves]
          exact ⟨_, Nat.le_trans (Nat.le_add_right _ _) covered, rfl⟩
        · simp only [if_neg moves]
          exact ⟨ledger, rfl⟩
      have left (asset : Asset) (holder : Address) :
          debits transfers asset holder ≤ mid.balance asset holder := by
        have covered := enough asset holder
        rw [debits_cons] at covered
        rw [balance_of_transfer first (safe transfer List.mem_cons_self)]
        split
        · next pays =>
          rw [if_pos pays] at covered
          omega
        · next pays =>
          rw [if_neg pays, Nat.zero_add] at covered
          split
          · next gains =>
            rw [oneWay.debits_eq_zero gains]
            exact Nat.zero_le _
          · exact covered
      obtain ⟨next, others⟩ := ih oneWay.tail (safe.tail oneWay first) given.2 left
      exact ⟨next, by rw [transferAll, first]; exact others⟩

/-- Transfers that are made can be made in any order. An account that receives equal amounts, or
that holds no more than is exact in the end, holds the same in the end. -/
theorem transferAll_perm (oneWay : OneWay transfers) (safe : ledger.CoversSafely transfers)
    (made : ledger.transferAll transfers = .ok next) (perm : transfers.Perm others) :
    ∃ last, ledger.transferAll others = .ok last ∧ ∀ asset holder,
      ((∀ a ∈ credits transfers asset holder, ∀ b ∈ credits transfers asset holder, a = b) ∨
        next.balance asset holder ≤ Number.maxSafe) →
      last.balance asset holder = next.balance asset holder := by
  have given := safeNat?_of_transferAll made
  have cleared := balance_transferAll oneWay safe made
  have othersSafe : ledger.CoversSafely others := fun transfer mem => safe _ (perm.mem_iff.2 mem)
  have othersOneWay := oneWay.perm perm
  obtain ⟨last, isLast⟩ := exists_transferAll othersOneWay othersSafe
    (fun transfer mem => given _ (perm.mem_iff.2 mem)) fun asset holder => by
      rw [debits_perm perm]
      exact (cleared asset holder).1
  refine ⟨last, isLast, fun asset holder blind => ?_⟩
  have whole := (cleared asset holder).2
  rw [whole] at blind
  rw [(balance_transferAll othersOneWay othersSafe isLast asset holder).2, debits_perm perm, whole]
  exact Amount.foldl_add_perm ((perm.filter _).map _) blind

end Ledger

end SavingsCircle
