import SavingsCircle.Json.Basic
import SavingsCircle.Number.Shortest

/-!
# Values as plain text

Where a text is wanted and another value stands, the value is shown in plain: a text as it is, an
array as its items with commas between them, and an object as a mark that says no more than that it
is one. So different values can have the same plain text.

An object can bring a member in the place of the rule that shows objects. Such an object, and an
array that holds one, has no plain text.
-/

namespace SavingsCircle.Json

/-- The name of the rule that shows an object in plain. -/
def plainRule : String := "toString"

mutual

def isPlain : Json → Bool
  | .array items => arePlain items
  | .object members => members.all fun member => member.1 != plainRule
  | _ => true

def arePlain : List Json → Bool
  | [] => true
  | item :: items => isPlain item && arePlain items

end

mutual

def plain : Json → String
  | .null => "null"
  | .bool value => if value then "true" else "false"
  | .number value => value.text
  | .text value => value
  | .array items => ",".intercalate (plainItems items)
  | .object _ => "[object Object]"

/-- The plain texts of the items of an array; an empty item has none. -/
def plainItems : List Json → List String
  | [] => []
  | item :: items =>
    (match item with
      | .null => ""
      | _ => plain item) :: plainItems items

end

@[simp] theorem plain_text (value : String) : plain (.text value) = value := by
  simp [plain]

@[simp] theorem isPlain_text (value : String) : isPlain (.text value) = true := by
  simp [isPlain]

end SavingsCircle.Json
