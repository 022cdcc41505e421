import SavingsCircle.Amount
import SavingsCircle.Failure
import SavingsCircle.Number.Shortest
import SavingsCircle.Text.Units
import SavingsCircle.Token

/-!
# The asset ledger

What every account holds of every asset. Minting brings new units into an account and a transfer
moves units from one account to another; both refuse amounts that are no safe whole numbers, and
a transfer refuses to move more than the account holds. An account that was never touched holds
nothing.
-/

namespace SavingsCircle

abbrev Asset := String

/-- What one holder has of one asset. -/
structure Account where
  asset : Asset
  holder : Address
  balance : Amount
  deriving DecidableEq

namespace Account

def isOf (account : Account) (asset : Asset) (holder : Address) : Bool :=
  account.asset == asset && account.holder == holder

@[simp] theorem isOf_eq_true_iff {account : Account} {asset : Asset} {holder : Address} :
    account.isOf asset holder = true ↔ account.asset = asset ∧ account.holder = holder := by
  simp [isOf]

/-- The order of accounts by asset and then holder. -/
def le (a b : Account) : Bool :=
  if a.asset = b.asset then Text.le a.holder b.holder else Text.le a.asset b.asset

end Account

/-- The accounts of all holders, at most one for a holder and an asset. -/
structure Ledger where
  accounts : List Account
  deriving DecidableEq

namespace Ledger

def empty : Ledger := ⟨[]⟩

def account? (ledger : Ledger) (asset : Asset) (holder : Address) : Option Account :=
  ledger.accounts.find? (·.isOf asset holder)

def balance (ledger : Ledger) (asset : Asset) (holder : Address) : Amount :=
  ((ledger.account? asset holder).map (·.balance)).getD 0

def put (ledger : Ledger) (asset : Asset) (holder : Address) (balance : Amount) : Ledger :=
  if (ledger.account? asset holder).isSome then
    ⟨ledger.accounts.map fun account =>
      if account.isOf asset holder then { account with balance } else account⟩
  else ⟨ledger.accounts ++ [⟨asset, holder, balance⟩]⟩

def credit (ledger : Ledger) (asset : Asset) (holder : Address) (amount : Amount) : Ledger :=
  ledger.put asset holder (Amount.add (ledger.balance asset holder) amount)

def shortfall (asset : Asset) (source : Address) (available amount : Amount) : Failure :=
  .circle .insufficientAllowance
    (source ++ " holds " ++ (Number.ofNat available).text ++ " of " ++ asset ++ ", needs " ++
      (Number.ofNat amount).text ++ ".")

def mint (ledger : Ledger) (asset : Asset) (target : Address) (amount : Number) :
    Except Failure Ledger := do
  let units ← demandSome amount.safeNat?
    (.invalidAmount "Mint amount must be a positive integer.")
  demand (0 < units) (.invalidAmount "Mint amount must be a positive integer.")
  return ledger.credit asset target units

/-- Moves units of an asset from one account to another. Moving nothing, or to the same account,
asks nothing of the source. -/
def transfer (ledger : Ledger) (asset : Asset) (source target : Address) (amount : Number) :
    Except Failure Ledger := do
  let units ← demandSome amount.safeNat?
    (.invalidAmount "Transfer amount must be a non-negative integer.")
  if units = 0 ∨ source = target then
    return ledger
  let available := ledger.balance asset source
  demand (units ≤ available) (shortfall asset source available units)
  return (ledger.put asset source (Amount.sub available units)).credit asset target units

/-- The accounts that hold something, by asset and then holder. -/
def holdings (ledger : Ledger) : List Account :=
  (ledger.accounts.filter (·.balance != 0)).mergeSort Account.le

@[simp] theorem balance_empty (asset : Asset) (holder : Address) :
    empty.balance asset holder = 0 := rfl

theorem account?_map (ledger : Ledger) (change : Account → Account)
    (keeps : ∀ account, (change account).asset = account.asset ∧
      (change account).holder = account.holder) (asset : Asset) (holder : Address) :
    (Ledger.mk (ledger.accounts.map change)).account? asset holder =
      (ledger.account? asset holder).map change := by
  have same : (Account.isOf · asset holder) ∘ change = (Account.isOf · asset holder) := by
    funext account
    simp [Account.isOf, keeps account]
  simp only [account?, List.find?_map]
  rw [same]

theorem isOf_of_account? {ledger : Ledger} {asset : Asset} {holder : Address} {account : Account}
    (found : ledger.account? asset holder = some account) :
    account.asset = asset ∧ account.holder = holder := by
  simpa using List.find?_some found

/-- A written balance is what the account holds then; all other accounts keep theirs. -/
theorem balance_put (ledger : Ledger) (asset other : Asset) (holder someone : Address)
    (balance : Amount) :
    (ledger.put asset holder balance).balance other someone =
      if other = asset ∧ someone = holder then balance else ledger.balance other someone := by
  unfold put
  split
  · next present =>
    rw [Ledger.balance, account?_map _ _ (by intro account; split <;> simp)]
    cases found : ledger.account? other someone with
    | none =>
      have apart : ¬(other = asset ∧ someone = holder) := by
        rintro ⟨rfl, rfl⟩
        simp [found] at present
      simp [Ledger.balance, found, apart]
    | some account =>
      obtain ⟨rfl, rfl⟩ := isOf_of_account? found
      simp only [Option.map_some, Option.getD_some, Account.isOf_eq_true_iff, Ledger.balance, found]
      split <;> rfl
  · next absent =>
    simp only [Option.not_isSome_iff_eq_none] at absent
    by_cases here : other = asset ∧ someone = holder
    · obtain ⟨rfl, rfl⟩ := here
      have none : ledger.accounts.find? (·.isOf other someone) = none := absent
      simp [Ledger.balance, account?, List.find?_append, none]
    · have apart : (Account.mk asset holder balance).isOf other someone = false := by
        simp only [← Bool.not_eq_true, Account.isOf_eq_true_iff]
        rintro ⟨rfl, rfl⟩
        exact here ⟨rfl, rfl⟩
      simp [Ledger.balance, account?, List.find?_append, apart, here]

theorem balance_credit (ledger : Ledger) (asset other : Asset) (holder someone : Address)
    (amount : Amount) :
    (ledger.credit asset holder amount).balance other someone =
      if other = asset ∧ someone = holder then Amount.add (ledger.balance asset holder) amount
      else ledger.balance other someone :=
  balance_put ..

end Ledger

end SavingsCircle
