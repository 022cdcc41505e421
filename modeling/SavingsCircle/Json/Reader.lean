import SavingsCircle.Json.Basic
import SavingsCircle.Number.Decimal
import SavingsCircle.Text.Units

/-!
# Reading JSON

`Json.read?` accepts exactly the JSON texts: one value with blanks around it. Each reader takes
the characters from where it stands and leaves those after what it read. An object shows its
members in the order of `Members.normal`.

A text is read by its units, each of them standing as a character: half of a surrogate pair can be
written as it is or escaped, and the halves meet only in the text that was quoted. Texts have no
half on its own: each one that stays alone is read as the replacement character, and quoted texts
that differ in such halves only are the same to whoever reads them here.
-/

namespace SavingsCircle.Json

/-- The blanks between the tokens of a JSON text. -/
def isGap (c : Char) : Bool := c = ' ' || c = '\t' || c = '\n' || c = '\r'

def skipGap (cs : List Char) : List Char := cs.dropWhile isGap

def hexCode? (cs : List Char) : Option Nat :=
  if cs.all fun c => (Numeral.digitValue? 16 c).isSome then some (Numeral.ofDigits 16 cs) else none

/-- The character that an escape letter stands for. -/
def unescape? : Char → Option Char
  | '"' => some '"'
  | '\\' => some '\\'
  | '/' => some '/'
  | 'b' => some (Char.ofNat 8)
  | 'f' => some (Char.ofNat 12)
  | 'n' => some '\n'
  | 'r' => some '\r'
  | 't' => some '\t'
  | _ => none

/-- Reads the inside of a quoted text up to its closing quotation mark. The units are collected in
reverse. -/
def readQuoted? (done : List Nat) : List Char → Option (String × List Char)
  | [] => none
  | '"' :: rest => some (Text.ofUnits done.reverse, rest)
  | '\\' :: 'u' :: a :: b :: c :: d :: rest =>
    match hexCode? [a, b, c, d] with
    | none => none
    | some unit => readQuoted? (unit :: done) rest
  | '\\' :: c :: rest =>
    match unescape? c with
    | none => none
    | some char => readQuoted? (char.toNat :: done) rest
  | c :: rest =>
    if c.toNat < 0x20 || c = '\\' then none else readQuoted? (Text.charUnit c :: done) rest

/-- Reads a number: no plus sign, no leading zero, and digits on both sides of a point. -/
def readNumber? (cs : List Char) : Option (Number × List Char) :=
  let (negative, cs) : Bool × List Char :=
    match cs with
    | '-' :: rest => (true, rest)
    | _ => (false, cs)
  let whole := cs.takeWhile Char.isDigit
  let (fraction?, cs) := Numeral.takeFraction (cs.dropWhile Char.isDigit)
  if whole.isEmpty || (whole.length != 1 && whole.head? == some '0') || fraction? == some [] then
    none
  else
    (Numeral.takeExponent? cs).map fun (exponent, cs) =>
      ((Numeral.ofParts negative whole (fraction?.getD []) exponent).toNumber, cs)

mutual

/-- Reads one value. The fuel bounds the number of values and separators still to be read. -/
def readValue? : Nat → List Char → Option (Json × List Char)
  | 0, _ => none
  | fuel + 1, cs =>
    match skipGap cs with
    | 'n' :: 'u' :: 'l' :: 'l' :: rest => some (.null, rest)
    | 't' :: 'r' :: 'u' :: 'e' :: rest => some (.bool true, rest)
    | 'f' :: 'a' :: 'l' :: 's' :: 'e' :: rest => some (.bool false, rest)
    | '"' :: rest => (readQuoted? [] rest).map fun (value, rest) => (.text value, rest)
    | '[' :: rest =>
      match skipGap rest with
      | ']' :: rest => some (.array [], rest)
      | _ => (readItems? fuel [] rest).map fun (items, rest) => (.array items, rest)
    | '{' :: rest =>
      match skipGap rest with
      | '}' :: rest => some (.object [], rest)
      | _ => (readMembers? fuel [] rest).map fun (members, rest) =>
        (.object (Members.normal members), rest)
    | cs => (readNumber? cs).map fun (value, rest) => (.number value, rest)

/-- Reads the items of an array up to its closing bracket, collected in reverse. -/
def readItems? : Nat → List Json → List Char → Option (List Json × List Char)
  | 0, _, _ => none
  | fuel + 1, done, cs =>
    match readValue? fuel cs with
    | none => none
    | some (item, rest) =>
      match skipGap rest with
      | ',' :: rest => readItems? fuel (item :: done) rest
      | ']' :: rest => some ((item :: done).reverse, rest)
      | _ => none

/-- Reads the members of an object up to its closing brace, collected in reverse. -/
def readMembers? :
    Nat → List (String × Json) → List Char → Option (List (String × Json) × List Char)
  | 0, _, _ => none
  | fuel + 1, done, cs =>
    match skipGap cs with
    | '"' :: rest =>
      match readQuoted? [] rest with
      | none => none
      | some (name, rest) =>
        match skipGap rest with
        | ':' :: rest =>
          match readValue? fuel rest with
          | none => none
          | some (value, rest) =>
            match skipGap rest with
            | ',' :: rest => readMembers? fuel ((name, value) :: done) rest
            | '}' :: rest => some (((name, value) :: done).reverse, rest)
            | _ => none
        | _ => none
    | _ => none

end

/-- The value that the units of a whole text write. -/
def readUnits? (units : List Nat) : Option Json :=
  match readValue? (units.length + 1) (units.map Text.unitChar) with
  | some (value, rest) => if (skipGap rest).isEmpty then some value else none
  | none => none

def read? (s : String) : Option Json := readUnits? (Text.units s)

end SavingsCircle.Json
