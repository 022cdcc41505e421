import SavingsCircle.Fees
import SavingsCircle.Json.Plain
import SavingsCircle.Number.Decimal
import SavingsCircle.Text.Blank
import SavingsCircle.Text.Units

/-!
# Schemas

Reading typed values out of JSON. A reader takes a value that may be missing and either returns
what it read or says everything that is wrong with it. A value of the wrong type has that one
issue; a value of the right type is held against all of its rules, and every broken rule is an
issue of its own. The parts of an object are read side by side, so that their issues add up.
-/

namespace SavingsCircle

inductive IssueCode where
  | invalidType
  | invalidEnumValue
  | tooSmall
  | tooBig
  deriving DecidableEq

namespace IssueCode

def name : IssueCode → String
  | .invalidType => "invalid_type"
  | .invalidEnumValue => "invalid_enum_value"
  | .tooSmall => "too_small"
  | .tooBig => "too_big"

end IssueCode

/-- Something wrong with a value, or with the part of it at a path. -/
structure Issue where
  path : List String
  code : IssueCode
  message : String
  deriving DecidableEq

/-- What was read, or all that is wrong. -/
abbrev Checked (α : Type) := Except (List Issue) α

namespace Checked

variable {α β : Type}

/-- Reads two parts side by side; the issues of both add up. -/
def both (first : Checked (α → β)) (second : Checked α) : Checked β :=
  match first, second with
  | .ok f, .ok a => .ok (f a)
  | .ok _, .error issues => .error issues
  | .error issues, .ok _ => .error issues
  | .error issues, .error others => .error (issues ++ others)

def under (name : String) (part : Checked α) : Checked α :=
  match part with
  | .ok a => .ok a
  | .error issues => .error (issues.map fun issue => { issue with path := name :: issue.path })

def apply (f : α → β) (read : Checked α) : Checked β := both (.ok f) read

theorem both_eq_ok {first : Checked (α → β)} {second : Checked α} {b : β} :
    both first second = .ok b ↔ ∃ f a, first = .ok f ∧ second = .ok a ∧ f a = b := by
  cases first <;> cases second <;> simp [both]

end Checked

namespace Schema

/-- A reader of a value that may be missing. -/
abbrev Reader (α : Type) := Option Json → Checked α

variable {α : Type}

def typeName : Json → String
  | .null => "null"
  | .bool _ => "boolean"
  | .number .nan => "nan"
  | .number _ => "number"
  | .text _ => "string"
  | .array _ => "array"
  | .object _ => "object"

/-- A value of the wrong type, or no value where one is needed. -/
def wrongType (expected : String) (value : Option Json) : Checked α :=
  let message := match value with
    | none => "Required"
    | some value => "Expected " ++ expected ++ ", received " ++ typeName value
  .error [⟨[], .invalidType, message⟩]

/-- A rule names what is wrong with a value that breaks it. -/
abbrev Rule (α : Type) := α → Option (IssueCode × String)

def obeying (rules : List (Rule α)) (value : α) : Checked α :=
  match rules.filterMap fun rule => rule value with
  | [] => .ok value
  | broken => .error (broken.map fun (code, message) => ⟨[], code, message⟩)

namespace Rule

def whole : Rule Number := fun value =>
  if value.int?.isSome then none
  else some (.invalidType, "Expected integer, received float")

def above (bound : Nat) : Rule Number := fun value =>
  if (Number.ofNat bound).lt value then none
  else some (.tooSmall, "Number must be greater than " ++ (Number.ofNat bound).text)

def atLeast (bound : Nat) : Rule Number := fun value =>
  if (Number.ofNat bound).le value then none
  else some (.tooSmall, "Number must be greater than or equal to " ++ (Number.ofNat bound).text)

def atMost (bound : Nat) : Rule Number := fun value =>
  if value.le (.ofNat bound) then none
  else some (.tooBig, "Number must be less than or equal to " ++ (Number.ofNat bound).text)

def minSize (bound : Nat) : Rule String := fun value =>
  if bound ≤ Text.size value then none
  else some (.tooSmall,
    "String must contain at least " ++ (Number.ofNat bound).text ++ " character(s)")

def maxSize (bound : Nat) : Rule String := fun value =>
  if Text.size value ≤ bound then none
  else some (.tooBig,
    "String must contain at most " ++ (Number.ofNat bound).text ++ " character(s)")

end Rule

def text (rules : List (Rule String)) : Reader String
  | some (.text value) => obeying rules value
  | value => wrongType "string" value

/-- A number that obeys the rules; the undefined number is none. -/
def number (rules : List (Rule Number)) : Reader Number
  | some (.number .nan) => wrongType "number" (some (.number .nan))
  | some (.number value) => obeying rules value
  | value => wrongType "number" value

/-- Either of the two truth values. -/
def flag : Reader Bool
  | some (.bool value) => .ok value
  | value => wrongType "boolean" value

/-- One of the given texts. -/
def oneOf (names : List String) : Reader String
  | some (.text value) =>
    if value ∈ names then .ok value
    else .error [⟨[], .invalidEnumValue,
      "Invalid enum value. Expected " ++ choices ++ ", received '" ++ value ++ "'"⟩]
  | value => wrongType choices value
where
  /-- The texts to choose from, in quotation marks. -/
  choices : String := " | ".intercalate (names.map fun name => "'" ++ name ++ "'")

def optional (reader : Reader α) : Reader (Option α)
  | none => .ok none
  | value => (reader value).apply some

def orElse (reader : Reader α) (default : α) : Reader α
  | none => .ok default
  | value => reader value

/-- The number that a value stands for when a number is wanted: a text is read as a number, and an
array as its plain text is. -/
def asNumber : Json → Number
  | .null => .ofNat 0
  | .bool value => .ofNat (if value then 1 else 0)
  | .number value => value
  | .text value => .ofText value
  | .array items => .ofText (Json.array items).plain
  | .object _ => .nan

/-- A number that may be given as text. -/
def coerced (rules : List (Rule Number)) : Reader Number := fun value =>
  number rules (some (.number ((value.map asNumber).getD .nan)))

def field (members : Json) (name : String) (reader : Reader α) : Checked α :=
  (reader (members.field? name)).under name

/-- An address or the name of an asset: up to 128 characters besides the blanks around it. -/
def address : Reader String
  | some (.text value) => text [.minSize 1, .maxSize 128] (some (.text (Text.trim value)))
  | value => text [] value

def amount : Reader Number := number [.whole, .above 0, .atMost Number.maxSafe]

def rate : Reader Number := number [.whole, .atLeast 0, .atMost Fees.wholeRate]

end Schema

end SavingsCircle
