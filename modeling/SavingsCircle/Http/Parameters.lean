import SavingsCircle.Http.Percent
import SavingsCircle.Http.Parameters.Part

/-!
# Query parameters

A query is a list of assignments, each a key and a value. `Parameters.read` puts the values together
by the steps of their keys, so that parameters form lists and records. A key that comes again has
the list of its values, and different keys that begin alike are merged.
-/

namespace SavingsCircle.Http.Parameters

/-- How many assignments of a query are read. -/
def maxAssignments : Nat := 1000

/-- A key or a value of an assignment. One that does not decode stands for itself. -/
def decode (cs : List Char) : String :=
  let spaced := cs.map fun c => if c = '+' then ' ' else c
  (percentDecode? spaced).getD (String.ofList spaced)

/-- Puts brackets in place of their codes. -/
def unveilBrackets : List Char → List Char
  | '%' :: '5' :: c :: rest =>
    if c = 'B' ∨ c = 'b' then '[' :: unveilBrackets rest
    else if c = 'D' ∨ c = 'd' then ']' :: unveilBrackets rest
    else '%' :: '5' :: unveilBrackets (c :: rest)
  | c :: rest => c :: unveilBrackets rest
  | [] => []

/-- How long the key of an assignment is, if the assignment has an equals sign directly behind a
closing bracket. -/
def bracketedKey? : List Char → Option Nat
  | ']' :: '=' :: _ => some 1
  | _ :: rest => (bracketedKey? rest).map (· + 1)
  | [] => none

/-- The key and the value of an assignment. The key ends at the first equals sign behind a closing
bracket, or else at the first equals sign. -/
def assignment (cs : List Char) : String × String :=
  let length := (bracketedKey? cs).getD (cs.takeWhile (· != '=')).length
  (decode (cs.take length), decode (cs.drop (length + 1)))

/-- The values of all keys, in the order in which the keys first come. -/
def assignments (query : List Char) : List (String × List String) :=
  let written := ((unveilBrackets query).splitOn '&').take maxAssignments
  (written.map assignment).foldl (fun values (key, value) =>
    Members.put values key ((values.lookup key).getD [] ++ [value])) []

def partOfValues : List String → Part
  | [value] => .text value
  | values => .list false (values.map .text)

def Part.withValues (parameters : Part) (key : String) (values : List String) : Part :=
  match steps key with
  | [] => parameters
  | path => parameters.merge (.ofPath path (partOfValues values))

def read (query : List Char) : Json :=
  ((assignments query).foldl (fun parameters (key, values) => parameters.withValues key values)
    (Part.record none [])).toJson

end SavingsCircle.Http.Parameters
