/-!
# Sixteen-bit units

Texts are measured and ordered by the sixteen-bit units of their UTF-16 form: a character above
`U+FFFF` counts twice, as a high and a low surrogate. The order differs from the order of code
points, because the surrogates lie below `U+E000`.

Units that come from elsewhere need not be those of a text: half of a pair can stand alone.
`ofUnits` joins the halves that meet, and reads those that stay alone as the replacement character.
So the units of two texts read differently, but units that differ only in halves standing alone read
the same.
-/

namespace SavingsCircle.Text

def charUnits (c : Char) : List Nat :=
  let code := c.toNat
  if code < 0x10000 then [code]
  else [0xd800 + (code - 0x10000) / 0x400, 0xdc00 + (code - 0x10000) % 0x400]

def units (s : String) : List Nat := s.toList.flatMap charUnits

/-- Whether a unit is half of a surrogate pair. -/
def isHalf (unit : Nat) : Bool := decide (0xd800 ≤ unit ∧ unit < 0xe000)

/-- Puts a unit in front of codes. Where it is the first half of a pair and the second one follows,
the two make one code. -/
def joinUnit (unit : Nat) : List Nat → List Nat
  | code :: codes =>
    if 0xd800 ≤ unit ∧ unit < 0xdc00 ∧ 0xdc00 ≤ code ∧ code < 0xe000 then
      (0x10000 + (unit - 0xd800) * 0x400 + (code - 0xdc00)) :: codes
    else unit :: code :: codes
  | [] => [unit]

/-- The text that units write. All halves that stay alone read the same. -/
def ofUnits (units : List Nat) : String :=
  String.ofList ((units.foldr joinUnit []).map fun code =>
    if isHalf code then Char.ofNat 0xfffd else Char.ofNat code)

/-- The character that stands for a single unit. No character has half of a pair for its code, so
one of the last plane of private use stands for it. -/
def unitChar (unit : Nat) : Char :=
  if isHalf unit then Char.ofNat (0x100000 + unit) else Char.ofNat unit

def charUnit (c : Char) : Nat :=
  if c.toNat < 0x10000 then c.toNat else c.toNat - 0x100000

def size (s : String) : Nat := (units s).length

/-- Lexicographic order of unit sequences. -/
def unitsLe : List Nat → List Nat → Bool
  | [], _ => true
  | _ :: _, [] => false
  | a :: as, b :: bs => if a = b then unitsLe as bs else decide (a < b)

def le (s t : String) : Bool := unitsLe (units s) (units t)

/-- Puts a text in front of the first one of a list that is not below it. -/
def insertInOrder (text : String) : List String → List String
  | [] => [text]
  | head :: rest => if le text head then text :: head :: rest else head :: insertInOrder text rest

def sorted (texts : List String) : List String := texts.foldr insertInOrder []

end SavingsCircle.Text
