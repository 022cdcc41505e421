import SavingsCircle.Text.Units

/-!
# Character encodings

How bytes stand for the units of a text, in the Unicode encodings that a sender can name. In the
two-byte encodings each unit is two bytes, and a single byte left over stands for nothing. In the
seven-bit encodings a shift character begins a run of digits in base sixty-four, which stand for
two-byte units; a hyphen ends a run, and right behind the shift it stands for the shift character
itself.

A byte order mark in front stands for nothing. Each run of digits can have one of its own.
-/

namespace SavingsCircle.Text

/-- The encodings that can be decoded. -/
inductive Encoding where
  | utf8
  /-- Two bytes for a unit, the first one weighing less. -/
  | utf16le
  /-- Two bytes for a unit, the first one weighing more. -/
  | utf16be
  /-- Two bytes for a unit, in the order that the bytes suggest. -/
  | utf16
  | utf7
  /-- The seven-bit encoding of mailbox names. -/
  | utf7imap
  deriving DecidableEq

def unitsOfBytes (firstWeighsMore : Bool) : List UInt8 → List Nat
  | a :: b :: rest =>
    (if firstWeighsMore then a.toNat * 256 + b.toNat else b.toNat * 256 + a.toNat) ::
      unitsOfBytes firstWeighsMore rest
  | _ => []

/-- Counts the pairs among bytes of which only the first is zero, and those of which only the second
is. -/
def zeroPairs : List UInt8 → Nat × Nat
  | a :: b :: rest =>
    let (first, second) := zeroPairs rest
    (first + (if a = 0 ∧ b ≠ 0 then 1 else 0), second + (if a ≠ 0 ∧ b = 0 then 1 else 0))
  | _ => (0, 0)

/-- Whether the first byte of a unit seems to weigh more: of the characters of one byte, more are
written with the zero in front. -/
def seemsBigEndian (bytes : List UInt8) : Bool :=
  let (first, second) := zeroPairs (bytes.take 64)
  decide (second < first)

/-- Drops a byte order mark in front. -/
def dropMark : List Nat → List Nat
  | unit :: rest => if unit = 0xfeff then rest else unit :: rest
  | [] => []

/-- How a seven-bit encoding shifts: the shift character, and the digit of value sixty-three besides
the slash. -/
structure Shift where
  mark : Char
  lastDigit : Char

namespace Shift

def digit? (shift : Shift) (c : Char) : Option Nat :=
  if 'A' ≤ c ∧ c ≤ 'Z' then some (c.toNat - 'A'.toNat)
  else if 'a' ≤ c ∧ c ≤ 'z' then some (c.toNat - 'a'.toNat + 26)
  else if '0' ≤ c ∧ c ≤ '9' then some (c.toNat - '0'.toNat + 52)
  else if c = '+' then some 62
  else if c = '/' ∨ c = shift.lastDigit then some 63
  else none

/-- The bytes of digits in base sixty-four; bits that do not fill a byte are dropped. -/
def bytesOfDigits : List Nat → List UInt8
  | a :: b :: c :: d :: rest =>
    UInt8.ofNat (a * 4 + b / 16) :: UInt8.ofNat (b * 16 + c / 4) :: UInt8.ofNat (c * 64 + d) ::
      bytesOfDigits rest
  | [a, b, c] => [UInt8.ofNat (a * 4 + b / 16), UInt8.ofNat (b * 16 + c / 4)]
  | [a, b] => [UInt8.ofNat (a * 4 + b / 16)]
  | _ => []

def run (digits : List Nat) : List Nat := dropMark (unitsOfBytes true (bytesOfDigits digits))

/-- The unit of a character that is not in a run. Only seven bits can be written. -/
def single (c : Char) : Nat := if c.toNat < 0x80 then c.toNat else 0xfffd

/-- The units of a run that nothing ends. Its digits are read by eights, which fill three units;
what is left over makes a run of its own behind the text. -/
def openRun (digits : List Nat) : List Nat × List Nat :=
  let whole := digits.length / 8 * 8
  (run (digits.take whole), run (digits.drop whole))

/-- The units of characters, and those that an open run leaves behind them. What is done and the
digits of the run that is being read, if any, are in reverse. -/
def decode (shift : Shift) (done : List Nat) :
    Option (List Nat) → List Char → List Nat × List Nat
  | none, [] => (done.reverse, [])
  | some digits, [] =>
    let (units, behind) := openRun digits.reverse
    (done.reverse ++ units, behind)
  | none, c :: rest =>
    if c = shift.mark then decode shift done (some []) rest
    else decode shift (single c :: done) none rest
  | some digits, c :: rest =>
    match shift.digit? c with
    | some digit => decode shift done (some (digit :: digits)) rest
    | none =>
      if c = '-' then
        let units := if digits.isEmpty then [single shift.mark] else run digits.reverse
        decode shift (units.reverse ++ done) none rest
      else
        let done := (run digits.reverse).reverse ++ done
        if c = shift.mark then decode shift done (some []) rest
        else decode shift (single c :: done) none rest

def units (shift : Shift) (bytes : List UInt8) : List Nat :=
  let (units, behind) := shift.decode [] none (bytes.map fun byte => Char.ofNat byte.toNat)
  dropMark units ++ behind

end Shift

namespace Encoding

/-- The encoding of a name. Case, punctuation, and four digits behind a colon at the end do not
count. -/
def ofName? (name : String) : Option Encoding :=
  let reversed := name.toLower.toList.reverse
  let isDated := reversed[4]? == some ':' && (reversed.take 4).all Char.isDigit
  let kept := (if isDated then reversed.drop 5 else reversed).filter Char.isAlphanum
  match String.ofList kept.reverse with
  | "utf8" => some .utf8
  | "utf16le" => some .utf16le
  | "utf16be" => some .utf16be
  | "utf16" => some .utf16
  | "utf7" => some .utf7
  | "utf7imap" => some .utf7imap
  | _ => none

/-- The units that the bytes of a text stand for in an encoding. -/
def decode (encoding : Encoding) (written : String) : List Nat :=
  let bytes := written.toUTF8.toList
  match encoding with
  | .utf8 => dropMark (units written)
  | .utf16le => dropMark (unitsOfBytes false bytes)
  | .utf16be => dropMark (unitsOfBytes true bytes)
  | .utf16 => dropMark (unitsOfBytes (seemsBigEndian bytes) bytes)
  | .utf7 => Shift.units ⟨'+', '/'⟩ bytes
  | .utf7imap => Shift.units ⟨'&', ','⟩ bytes

end Encoding

end SavingsCircle.Text
