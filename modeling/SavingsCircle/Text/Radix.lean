/-!
# Digits

Whole numbers written in a base up to thirty-six, with the lower-case letters as digits from ten
on, and bytes written as two hexadecimal digits each.
-/

namespace SavingsCircle.Text

def digitChar (value : Nat) : Char :=
  if value < 10 then Char.ofNat ('0'.toNat + value) else Char.ofNat ('a'.toNat + value - 10)

/-- The digits of a natural number in front of those given. The fuel bounds their count. -/
def prependDigits (base : Nat) : Nat → Nat → List Char → List Char
  | 0, _, done => done
  | fuel + 1, n, done =>
    if n < base then digitChar n :: done
    else prependDigits base fuel (n / base) (digitChar (n % base) :: done)

/-- The digits of a natural number; the base is at least two. -/
def natDigits (base n : Nat) : List Char := prependDigits base (n.log2 + 1) n []

def radix (base : Nat) (n : Int) : String :=
  let digits := natDigits base n.natAbs
  String.ofList (if n < 0 then '-' :: digits else digits)

/-- The decimal digits of a natural number, filled with zeros to the given width. -/
def padded (width n : Nat) : String :=
  let digits := natDigits 10 n
  String.ofList (List.replicate (width - digits.length) '0' ++ digits)

def byteDigits (byte : UInt8) : List Char :=
  [digitChar (byte.toNat / 16), digitChar (byte.toNat % 16)]

def hexText (bytes : List UInt8) : String := String.ofList (bytes.flatMap byteDigits)

@[simp] theorem length_byteDigits (byte : UInt8) : (byteDigits byte).length = 2 := rfl

theorem length_flatMap_byteDigits (bytes : List UInt8) :
    (bytes.flatMap byteDigits).length = 2 * bytes.length := by
  induction bytes with
  | nil => rfl
  | cons byte bytes ih => simp [ih]; omega

end SavingsCircle.Text
