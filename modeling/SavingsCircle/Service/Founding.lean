import SavingsCircle.Service.Effect
import SavingsCircle.Text.Blank

/-!
# Founding and handing over circles

Anyone can found a circle and then administers it, until the administration is handed to someone
else. The first deadline is one cycle after the founding.
-/

namespace SavingsCircle

/-- The terms of a circle as its founder gives them. Rates not given are zero, and a duration not
given is the usual one. -/
structure CircleTerms where
  contribution : Number
  asset : Option Asset
  isRandomQueue : Bool
  cycleDuration : Option Number
  lateFeeRate : Option Number
  insuranceFeeRate : Option Number

namespace Books

/-- Founds a circle without members and answers its number. -/
def createCircle (books : Books) (host : Host) (moment : Moment) (proof : Option Proof)
    (terms : CircleTerms) : Except Failure Effect := do
  let admin ← host.authorize proof
  let contribution ← demandPositive terms.contribution
    "Contribution must be a positive integer."
  let lateFeeRate ← demandRate (terms.lateFeeRate.getD (.ofNat 0))
    "Late fee must be between 0 and 10000 basis points."
  let insuranceFeeRate ← demandRate (terms.insuranceFeeRate.getD (.ofNat 0))
    "Insurance fee must be between 0 and 10000 basis points."
  let cycleDuration ← demandPositive (terms.cycleDuration.getD host.defaultCycleDuration)
    "Cycle duration must be a positive number of seconds."
  let asset ← demandSome terms.asset .malformed
  demand (Text.hasInk asset) (.request 400 "INVALID_ASSET" "Asset is required.")
  let id := books.circleCount + 1
  let circle : Circle :=
    { id, admin, asset, contribution
      seats := []
      directory := .empty
      isRandomQueue := terms.isRandomQueue
      payoutQueue := []
      cycle := 1
      payouts := 0
      volume := 0
      isDissolved := false
      dissolutionVotes := []
      balance := 0
      cycleDuration
      deadline := moment.now.add (.ofNat cycleDuration)
      lateFeeRate
      reserve := 0
      insuranceFeeRate
      insurance := 0
      isInsuranceUsed := false
      proposedLateFeeRate := none
      proposalVotes := []
      createdAt := moment.now }
  return {
    books := { books with circleCount := id, circles := books.circles ++ [circle] }
    draws := moment.draws
    events := [.circleCreated id admin contribution]
    transfers := []
    receipt := .settled (.amount id) }

def transferAdmin (books : Books) (host : Host) (moment : Moment) (proof : Option Proof)
    (id : Number) (admin : Option Address) : Except Failure Effect :=
  books.byAdmin host moment proof id fun circle => do
    let admin ← demandSome admin .malformed
    demand (Text.hasInk admin)
      (.request 400 "INVALID_ADDRESS" "New admin address is required.")
    let circle := { circle with admin }
    return circle.answering books.records moment (.circle circle)

end Books

end SavingsCircle
