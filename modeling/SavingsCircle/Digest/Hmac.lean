import SavingsCircle.Digest.Sha256

/-!
# Keyed digests

HMAC over SHA-256. A key longer than a block is replaced by its digest, and every key is filled
with zeros to a block of sixty-four bytes.
-/

namespace SavingsCircle.Hmac

/-- A key as one block. -/
def keyBlock (key : List UInt8) : List UInt8 :=
  let short := if 64 < key.length then Sha256.digest key else key
  short ++ List.replicate (64 - short.length) 0

def digest (key message : List UInt8) : List UInt8 :=
  let block := keyBlock key
  let inner := Sha256.digest (block.map (· ^^^ 0x36) ++ message)
  Sha256.digest (block.map (· ^^^ 0x5c) ++ inner)

def hex (secret text : String) : String :=
  Text.hexText (digest secret.toUTF8.toList text.toUTF8.toList)

@[simp] theorem length_digest (key message : List UInt8) : (digest key message).length = 32 := rfl

end SavingsCircle.Hmac
