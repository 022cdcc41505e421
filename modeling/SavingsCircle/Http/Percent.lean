import SavingsCircle.Number.Decimal

/-!
# Percent-encoding

A percent sign and two hexadecimal digits stand for a byte, every other character stands for the
bytes of its UTF-8 form, and the bytes have to form a text again.
-/

namespace SavingsCircle.Http

/-- The bytes that percent-encoded characters stand for. -/
def percentBytes? : List Char → Option (List UInt8)
  | [] => some []
  | '%' :: high :: low :: rest =>
    match Numeral.digitValue? 16 high, Numeral.digitValue? 16 low with
    | some h, some l => (percentBytes? rest).map (UInt8.ofNat (h * 16 + l) :: ·)
    | _, _ => none
  | c :: rest =>
    if c = '%' then none
    else (percentBytes? rest).map (String.utf8EncodeChar c ++ ·)

/-- The text that percent-encoded characters stand for. -/
def percentDecode? (cs : List Char) : Option String :=
  (percentBytes? cs).bind fun bytes => String.fromUTF8? ⟨bytes.toArray⟩

end SavingsCircle.Http
