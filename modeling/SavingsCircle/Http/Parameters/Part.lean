import SavingsCircle.Http.Parameters.Key
import SavingsCircle.Json.Basic
import SavingsCircle.Number.Decimal
import SavingsCircle.Number.Shortest
import SavingsCircle.Text.Radix

/-!
# Parts of parameters

Parameters are texts, lists and records, put together one assignment at a time: `Part.ofPath` makes
the parts above a value by the steps that lead to it, and `Part.merge` puts them into what earlier
assignments have made. While lists are put together some of their places can be free; `Part.toJson`
closes the gaps.

A list has at most `maxItems` places. What would go beyond is kept in a record that has positions
for names, and which knows the last of them, so that more items can be appended to it. A list that
was made around a record, because a text came behind it, turns into such a record as soon as named
parts are merged into it; any other list turns into a plain record then.
-/

namespace SavingsCircle.Http.Parameters

/-- A parameter or a part of one. -/
inductive Part where
  /-- A free place of a list. -/
  | gap
  | text (value : String)
  /-- Items, and whether the list was made around a record. -/
  | list (isAround : Bool) (items : List Part)
  /-- Named parts. If the record stands for a list, the last of its positions is known. -/
  | record (last : Option Number) (members : List (String × Part))

/-- How many places a list can have. -/
def maxItems : Nat := 1000

/-- The name that no member can have. -/
def reserved : String := "__proto__"

/-- The position that a name writes, if the position is written as this name. -/
def position? (name : String) : Option Number :=
  let position := Number.ofText name
  if name.toList.all Char.isDigit ∧ position.text = name then some position else none

def next (position : Number) : Number := position.add (.ofNat 1)

/-- The last position of a record to which a name is added. -/
def reach (last : Option Number) (name : String) : Option Number :=
  last.map fun last =>
    match position? name with
    | some position => if last.lt position then position else last
    | none => last

namespace Part

def isStructured : Part → Bool
  | gap | text _ => false
  | list _ _ | record _ _ => true

/-- The items of a list as members named by their positions, counted from the given one. -/
def positions (index : Nat) : List Part → List (String × Part)
  | [] => []
  | gap :: rest => positions (index + 1) rest
  | item :: rest => (Text.radix 10 index, item) :: positions (index + 1) rest

/-- Items as a list, or as a record that stands for it if they are too many. -/
def ofItems (isAround : Bool) (items : List Part) : Part :=
  if maxItems < items.length then
    record (some (.ofNat (items.length - 1))) (positions 0 items)
  else list isAround items

/-- What a step leads from, if it leads to the given part. -/
def above (part : Part) : Step → Part
  | .parameter name => record none (if name = reserved then [] else [(name, part)])
  | .append =>
    match part with
    | list isAround items => list isAround items
    | record (some last) members => record (some last) members
    | part => list false [part]
  | .part name =>
    match position? name with
    | none => record none (if name = reserved then [] else [(name, part)])
    | some position =>
      match position.nat? with
      | some index =>
        if index < maxItems then list false (List.replicate index gap ++ [part])
        else record (some position) [(name, part)]
      | none => record (some position) [(name, part)]

/-- What a path leads from, if it leads to the given part. -/
def ofPath (path : List Step) (part : Part) : Part :=
  path.foldr (fun step part => part.above step) part

/-- Appends a part to another: to the items of a list, or else to a list of its own. -/
def append (target item : Part) : Part :=
  match target with
  | list isAround items => ofItems isAround (items ++ [item])
  | record (some last) members =>
    record (some (next last)) (Members.put members (next last).text item)
  | record none members => list true [record none members, item]
  | single => list false [single, item]

/-- Puts a single part in front of a record. The positions of one that stands for a list move up by
one. -/
def prepend (single : Part) (last : Option Number) (members : List (String × Part)) : Part :=
  match last with
  | none => list false [single, record none members]
  | some last =>
    let moved := members.map fun (name, part) =>
      (((position? name).map fun position => (next position).text).getD name, part)
    record (some (next last)) (("0", single) :: moved)

/-- Sets the item at a place of a list, which gets free places up to there. -/
def setItem (items : List Part) (index : Nat) (item : Part) : List Part :=
  if index < items.length then items.set index item
  else items ++ List.replicate (index - items.length) gap ++ [item]

mutual

/-- Merges a part into another. An empty text adds nothing, and any other text is appended. Lists
are merged place by place and records member by member, a list counting as the record of its
positions where the other is one. -/
def merge (target : Part) : Part → Part
  | gap => target
  | text value => if value = "" then target else target.append (text value)
  | list _ items =>
    match target with
    | list isAround present => ofItems isAround (mergeItems present 0 items)
    | record last members => mergePositions last members 0 items
    | single => ofItems false (single :: items)
  | record last members =>
    match target with
    | list isAround present =>
      let own := if isAround then some (.ofNat (present.length - 1)) else none
      mergeMembers own (positions 0 present) last members
    | record own present => mergeMembers own present last members
    | single => prepend single last members
termination_by structural source => source

/-- Merges items into a list, from a place on. An item whose place is taken is merged into what
stands there if both have parts, and else appended. -/
def mergeItems (present : List Part) (index : Nat) : List Part → List Part
  | [] => present
  | gap :: rest => mergeItems present (index + 1) rest
  | item :: rest =>
    match present[index]? with
    | none | some gap => mergeItems (setItem present index item) (index + 1) rest
    | some taken =>
      if taken.isStructured && item.isStructured then
        mergeItems (present.set index (merge taken item)) (index + 1) rest
      else mergeItems (present ++ [item]) (index + 1) rest
termination_by structural items => items

/-- Merges the items of a list into a record, their positions being names. -/
def mergePositions (last : Option Number) (members : List (String × Part)) (index : Nat) :
    List Part → Part
  | [] => record last members
  | gap :: rest => mergePositions last members (index + 1) rest
  | item :: rest =>
    let name := Text.radix 10 index
    let part := match members.lookup name with
      | some taken => merge taken item
      | none => item
    mergePositions (reach last name) (Members.put members name part) (index + 1) rest
termination_by structural items => items

/-- Merges members into a record. The record stands for a list if one of the two does. -/
def mergeMembers (last : Option Number) (members : List (String × Part))
    (sourceLast : Option Number) : List (String × Part) → Part
  | [] => record last members
  | (name, item) :: rest =>
    let part := match members.lookup name with
      | some taken => merge taken item
      | none => item
    mergeMembers (reach (last.or sourceLast) name) (Members.put members name part) sourceLast rest
termination_by structural written => written

end

mutual

/-- The value that a part is, without gaps. -/
def toJson : Part → Json
  | gap => .null
  | text value => .text value
  | list _ items => .array (itemsToJson items)
  | record _ members => .object (membersToJson members)

/-- The values of the items of a list, without its gaps. -/
def itemsToJson : List Part → List Json
  | [] => []
  | gap :: rest => itemsToJson rest
  | item :: rest => toJson item :: itemsToJson rest

def membersToJson : List (String × Part) → List (String × Json)
  | [] => []
  | (name, part) :: rest => (name, toJson part) :: membersToJson rest

end

end Part

end SavingsCircle.Http.Parameters
