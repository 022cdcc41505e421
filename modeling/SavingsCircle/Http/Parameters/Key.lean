/-!
# Keys of a query

A key leads from the parameters to a part of one of them: the name of the parameter stands in front,
and each pair of brackets behind it goes one step further. Brackets can hold brackets, and a pair
ends where as many have been closed as were opened. What stands between two pairs is passed over.

A bracket that is never closed ends the key: all from there on is one name. So is what stands behind
the greatest number of pairs.
-/

namespace SavingsCircle.Http.Parameters

inductive Step where
  /-- To the parameter of a name. -/
  | parameter (name : String)
  /-- To a new item behind those of a list: a pair of brackets with nothing inside. -/
  | append
  /-- To the item or the member that the inside of a pair of brackets names. -/
  | part (name : String)
  deriving DecidableEq

/-- How many pairs of brackets of a key are read. -/
def maxDepth : Nat := 5

/-- Splits the text behind an opening bracket at the bracket that closes it. The depth counts the
brackets that were opened inside and are to be closed first. -/
def splitClosing? : Nat → List Char → Option (List Char × List Char)
  | _, [] => none
  | depth, '[' :: rest =>
    (splitClosing? (depth + 1) rest).map fun (inside, behind) => ('[' :: inside, behind)
  | 0, ']' :: rest => some ([], rest)
  | depth + 1, ']' :: rest =>
    (splitClosing? depth rest).map fun (inside, behind) => (']' :: inside, behind)
  | depth, c :: rest => (splitClosing? depth rest).map fun (inside, behind) => (c :: inside, behind)

def Step.ofBrackets (inside : List Char) : Step :=
  if inside.isEmpty then append else part (String.ofList inside)

/-- The steps that brackets mean, of which at most the given number of pairs is read. -/
def bracketSteps (count : Nat) (cs : List Char) : List Step :=
  match cs.dropWhile (· != '[') with
  | [] => []
  | opening :: rest =>
    match count, splitClosing? 0 rest with
    | count + 1, some (inside, behind) => .ofBrackets inside :: bracketSteps count behind
    | _, _ => [.part (String.ofList (opening :: rest))]

def steps (key : String) : List Step :=
  let cs := key.toList
  let name := cs.takeWhile (· != '[')
  (if name.isEmpty then [] else [.parameter (String.ofList name)]) ++ bracketSteps maxDepth cs

end SavingsCircle.Http.Parameters
