import SavingsCircle.Number.Basic

/-!
# JSON values

Objects keep the order of their members, because the text of an object, and with it any digest
of that text, depends on the order. `Members.normal` states the order in which an object with
the given written members shows them.
-/

namespace SavingsCircle

inductive Json where
  | null
  | bool (value : Bool)
  | number (value : Number)
  | text (value : String)
  | array (items : List Json)
  | object (members : List (String × Json))

namespace Json

def ofNat (n : Nat) : Json := .number (.ofNat n)

def ofInt (n : Int) : Json := .number (.ofInt n)

/-- A value that may be missing, shown as `null`. -/
def ofOption {α : Type} (encode : α → Json) : Option α → Json
  | some a => encode a
  | none => .null

def texts (items : List String) : Json := .array (items.map .text)

/-- Whether a value counts as true: all do but `null`, `false`, zero, the undefined number and the
empty text. -/
def isTruthy : Json → Bool
  | .null => false
  | .bool value => value
  | .number value => !(value.isZero || value = .nan)
  | .text value => value ≠ ""
  | .array _ | .object _ => true

/-- Identity of values: plain values are identical when equal, while two arrays or objects are
never identical. -/
def identical : Json → Json → Bool
  | .null, .null => true
  | .bool a, .bool b => a == b
  | .number a, .number b => a.equals b
  | .text a, .text b => a == b
  | _, _ => false

/-- The members of an object, and none for any other value. -/
def members : Json → List (String × Json)
  | .object members => members
  | _ => []

def field? (name : String) (value : Json) : Option Json :=
  (value.members.find? fun member => member.1 == name).map (·.2)

def text? : Json → Option String
  | .text value => some value
  | _ => none

/-- The items of an array, and none for any other value. -/
def items : Json → List Json
  | .array items => items
  | _ => []

end Json

namespace Members

variable {α : Type}

/-- Sets a member: a name already there keeps its place and takes the new value. -/
def put (members : List (String × α)) (name : String) (value : α) : List (String × α) :=
  if members.any fun member => member.1 == name then
    members.map fun member => if member.1 == name then (name, value) else member
  else members ++ [(name, value)]

/-- The number that a name writes as an array position: plain decimal digits without a leading
zero, below `2 ^ 32 - 1`. -/
def position? (name : String) : Option Nat :=
  let cs := name.toList
  if cs.isEmpty || !cs.all Char.isDigit || (cs.length != 1 && cs.head? == some '0') then none
  else
    let n := cs.foldl (fun n c => n * 10 + (c.toNat - '0'.toNat)) 0
    if n < 4294967295 then some n else none

/-- Array positions go first, in ascending order, and all other names keep the order in which they
first came. -/
def arrange (members : List (String × α)) : List (String × α) :=
  let positions := members.filter fun member => (position? member.1).isSome
  let others := members.filter fun member => (position? member.1).isNone
  positions.mergeSort (fun a b => (position? a.1).getD 0 ≤ (position? b.1).getD 0) ++ others

/-- The members of an object written with the given members: of a repeated name the last value
counts, at the place of the first. -/
def normal (written : List (String × α)) : List (String × α) :=
  arrange (written.foldl (fun members member => put members member.1 member.2) [])

end Members

end SavingsCircle
