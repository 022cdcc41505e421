import SavingsCircle.Number.Basic

/-!
# Fees

A rate is a number of basis points, ten thousand of them making the whole. The share of an amount
at a rate is the product divided by ten thousand and cut to a whole number. Product and quotient
are rounded to the binary64 format on the way, so shares of large amounts can be off by one.
-/

namespace SavingsCircle.Fees

/-- The rate that makes the whole amount. -/
def wholeRate : Nat := 10000

/-- The rate that a number is: a whole number of basis points, at most the whole. -/
def rate? (value : Number) : Option Nat :=
  value.nat?.bind fun rate => if rate ≤ wholeRate then some rate else none

def isRate (value : Number) : Bool := (rate? value).isSome

/-- The share of an amount at a rate. A share of nothing, or at rate zero, is zero. -/
def share (amount rate : Number) : Number :=
  if rate.isZero || amount.isZero then .ofNat 0
  else ((amount.mul rate).divNat wholeRate).floor

/-- A gross payout parted into the fee and what the recipient keeps. -/
structure Split where
  fee : Number
  net : Number
  deriving DecidableEq

def split (gross rate : Number) : Split :=
  let fee := share gross rate
  { fee, net := gross.sub fee }

/-- The surcharge on a contribution made after the deadline. -/
def lateFee (contribution rate now deadline : Number) : Number :=
  if deadline.lt now then share contribution rate else .ofNat 0

/-- The surcharge that every contribution pays into the insurance fund. -/
def insuranceFee (contribution rate : Number) : Number := share contribution rate

structure Terms where
  contribution : Number
  lateFeeRate : Number
  insuranceFeeRate : Number
  reserve : Number
  insurance : Number
  deadline : Number

/-- What a circle has to hold before a payout: the contribution and the surcharges on it, each at
most what its earmark holds. -/
def payoutTarget (terms : Terms) (now : Number) : Number :=
  let late := Number.min
    (lateFee terms.contribution terms.lateFeeRate now terms.deadline) terms.reserve
  let insurance := Number.min
    (insuranceFee terms.contribution terms.insuranceFeeRate) terms.insurance
  (terms.contribution.add late).add insurance

def saturatingSub (value amount : Number) : Number :=
  if amount.lt value then value.sub amount else .ofNat 0

end SavingsCircle.Fees
