/-!
# Failures

Why a request is refused. The service's own refusals have a kind, and each kind has a name, a
stable number, a status and a default wording. Malformed amounts, assets and addresses are
refused as bad requests with a code of their own, and a collaborator outside the service can
fail with a text that the service passes on. A part of a call can be missing or of the wrong kind,
and a call that has to be dated fails while the clock shows no date.
-/

namespace SavingsCircle

/-- The kinds of refusal of the circle service. -/
inductive FailureKind where
  | circleNotFound
  | unauthorized
  | alreadyJoined
  | maxMembersReached
  | alreadyVoted
  | notMember
  | alreadyDissolved
  | notDissolved
  | invalidFeeConfig
  | penaltyExceedsContribution
  | memberAlreadyExists
  | emergencyWithdrawalNotAvailable
  | circleNotFinalized
  | cycleNotComplete
  | payoutAlreadyReceived
  | invalidCircleState
  | memberNotFound
  | insufficientBalance
  | insufficientAllowance
  | memberLimitExceeded
  deriving DecidableEq

/-- What the catalogue of failures says about a kind. -/
structure FailureEntry where
  name : String
  code : Nat
  status : Nat
  message : String

namespace FailureKind

def all : List FailureKind :=
  [.circleNotFound, .unauthorized, .alreadyJoined, .maxMembersReached, .alreadyVoted, .notMember,
    .alreadyDissolved, .notDissolved, .invalidFeeConfig, .penaltyExceedsContribution,
    .memberAlreadyExists, .emergencyWithdrawalNotAvailable, .circleNotFinalized, .cycleNotComplete,
    .payoutAlreadyReceived, .invalidCircleState, .memberNotFound, .insufficientBalance,
    .insufficientAllowance, .memberLimitExceeded]

/-- The catalogue of failures. -/
def entry : FailureKind → FailureEntry
  | .circleNotFound => ⟨"CircleNotFound", 1001, 404, "Circle not found."⟩
  | .unauthorized => ⟨"Unauthorized", 1002, 403, "Caller is not authorized for this action."⟩
  | .alreadyJoined => ⟨"AlreadyJoined", 1003, 409, "Already a member of this circle."⟩
  | .maxMembersReached =>
    ⟨"MaxMembersReached", 1004, 409, "Circle has reached its member limit."⟩
  | .alreadyVoted => ⟨"AlreadyVoted", 1005, 409, "Vote already cast."⟩
  | .notMember => ⟨"NotMember", 1006, 403, "Caller is not an active member of this circle."⟩
  | .alreadyDissolved => ⟨"AlreadyDissolved", 1007, 409, "Circle is dissolved."⟩
  | .notDissolved => ⟨"NotDissolved", 1008, 409, "Circle is not dissolved."⟩
  | .invalidFeeConfig => ⟨"InvalidFeeConfig", 1009, 400, "Invalid fee configuration."⟩
  | .penaltyExceedsContribution =>
    ⟨"PenaltyExceedsContribution", 1010, 400, "Penalty exceeds the member's contributions."⟩
  | .memberAlreadyExists =>
    ⟨"MemberAlreadyExists", 1011, 409, "Member already exists in this circle."⟩
  | .emergencyWithdrawalNotAvailable =>
    ⟨"EmergencyWithdrawalNotAvailable", 1012, 409, "Emergency withdrawal is not available yet."⟩
  | .circleNotFinalized =>
    ⟨"CircleNotFinalized", 1013, 409, "Circle payout queue is not finalized."⟩
  | .cycleNotComplete => ⟨"CycleNotComplete", 1014, 409, "Current cycle is not complete."⟩
  | .payoutAlreadyReceived =>
    ⟨"PayoutAlreadyReceived", 1015, 409, "Member already received a payout this cycle."⟩
  | .invalidCircleState =>
    ⟨"InvalidCircleState", 1016, 409, "Circle is not in a valid state for this action."⟩
  | .memberNotFound => ⟨"MemberNotFound", 1017, 404, "Member not found."⟩
  | .insufficientBalance =>
    ⟨"InsufficientBalance", 1018, 422, "Insufficient custodied balance."⟩
  | .insufficientAllowance =>
    ⟨"InsufficientAllowance", 1019, 422, "Insufficient funds for transfer."⟩
  | .memberLimitExceeded => ⟨"MemberLimitExceeded", 1020, 409, "Member limit exceeded."⟩

def name (kind : FailureKind) : String := kind.entry.name

def code (kind : FailureKind) : Nat := kind.entry.code

def status (kind : FailureKind) : Nat := kind.entry.status

/-- The wording used where a refusal has none of its own. -/
def message (kind : FailureKind) : String := kind.entry.message

def ofName? (name : String) : Option FailureKind := all.find? fun kind => kind.name == name

theorem mem_all (kind : FailureKind) : kind ∈ all := by cases kind <;> decide

end FailureKind

/-- What is found in the catalogue under a name: a kind of failure, or a page without number, status
and wording. Every catalogue has such pages, under the same few names. -/
inductive Listing where
  | known (kind : FailureKind)
  | blank (name : String)
  deriving DecidableEq

namespace Listing

/-- The names under which every catalogue has a page that says nothing. -/
def blankNames : List String :=
  ["constructor", "hasOwnProperty", "isPrototypeOf", "propertyIsEnumerable", "toLocaleString",
    "toString", "valueOf", "__defineGetter__", "__defineSetter__", "__lookupGetter__",
    "__lookupSetter__", "__proto__"]

def ofName? (name : String) : Option Listing :=
  match FailureKind.ofName? name with
  | some kind => some (.known kind)
  | none => if name ∈ blankNames then some (.blank name) else none

def name : Listing → String
  | .known kind => kind.name
  | .blank name => name

def code? : Listing → Option Nat
  | .known kind => some kind.code
  | .blank _ => none

def status? : Listing → Option Nat
  | .known kind => some kind.status
  | .blank _ => none

def message : Listing → String
  | .known kind => kind.message
  | .blank _ => ""

end Listing

/-- Why a request is refused. -/
inductive Failure where
  /-- A refusal of the circle service, in the given words. -/
  | circle (kind : FailureKind) (message : String)
  /-- A refusal of the request itself. -/
  | request (status : Nat) (code message : String)
  /-- A failure that a collaborator reports in its own words. -/
  | fault (message : String)
  /-- Something was asked for that does not exist. -/
  | unknown
  /-- A part of what was asked for is missing or of the wrong kind. -/
  | malformed
  /-- A date was needed while the clock showed none. -/
  | undated
  deriving DecidableEq

namespace Failure

def ofKind (kind : FailureKind) : Failure := .circle kind kind.message

def invalidAmount (message : String) : Failure := .request 400 "INVALID_AMOUNT" message

def message : Failure → String
  | .circle _ message | .request _ _ message | .fault message => message
  | .unknown => "Unexpected error."
  | .malformed => "A part of the request is missing."
  | .undated => "The clock shows no date."

end Failure

/-- Goes on if a condition holds, and fails otherwise. -/
def demand (condition : Prop) [Decidable condition] (failure : Failure) : Except Failure Unit :=
  if condition then .ok () else .error failure

/-- Goes on with a value that is there, and fails otherwise. -/
def demandSome {α : Type} (found : Option α) (failure : Failure) : Except Failure α :=
  match found with
  | some a => .ok a
  | none => .error failure

@[simp] theorem demand_bind_eq_ok {α : Type} {condition : Prop} [Decidable condition]
    {failure : Failure} {next : Unit → Except Failure α} {a : α} :
    (demand condition failure >>= next) = .ok a ↔ condition ∧ next () = .ok a := by
  by_cases h : condition <;> simp [demand, h, bind, Except.bind]

@[simp] theorem demandSome_bind_eq_ok {α β : Type} {found : Option α} {failure : Failure}
    {next : α → Except Failure β} {b : β} :
    (demandSome found failure >>= next) = .ok b ↔ ∃ a, found = some a ∧ next a = .ok b := by
  cases found <;> simp [demandSome, bind, Except.bind]

end SavingsCircle
