import SavingsCircle.Service.Effect

/-!
# Deposits in custody

Users can deposit assets outside any circle. They get them back once no administrator has been
active for longer than the emergency delay.
-/

namespace SavingsCircle.Books

def addDeposit (books : Books) (user : Address) (asset : Asset) (amount : Amount) :
    List CustodyEntry :=
  if books.custody.any (·.isOf user asset) then
    books.custody.map fun entry =>
      if entry.isOf user asset then { entry with amount := Amount.add entry.amount amount }
      else entry
  else books.custody ++ [⟨user, asset, amount⟩]

/-- Deposits an amount of an asset. -/
def deposit (books : Books) (host : Host) (moment : Moment) (proof : Option Proof) (asset : Asset)
    (amount : Number) : Except Failure Effect := do
  let user ← host.authorize proof
  let amount ← demandPositive amount "Deposit amount must be a positive integer."
  return {
    books := { books with custody := books.addDeposit user asset amount }
    draws := moment.draws
    events := []
    transfers := [⟨asset, user, host.custody, .ofNat amount⟩]
    receipt := .deposited user asset }

def isUnlocked (books : Books) (now : Number) : Bool :=
  (books.lastActiveAt.add (.ofNat emergencyDelay)).lt now

/-- Takes back all that the caller has deposited of an asset. -/
def emergencyWithdraw (books : Books) (host : Host) (moment : Moment) (proof : Option Proof)
    (asset : Asset) : Except Failure Effect := do
  let user ← host.authorize proof
  demand (books.isUnlocked moment.now) (.ofKind .emergencyWithdrawalNotAvailable)
  let amount := books.deposited user asset
  return {
    books := { books with custody := books.custody.filter fun entry => !entry.isOf user asset }
    draws := moment.draws
    events := []
    transfers := if 0 < amount then [⟨asset, host.custody, user, .ofNat amount⟩] else []
    receipt := .settled (.amount amount) }

end SavingsCircle.Books
