import SavingsCircle.Digest.Hmac

/-!
# Bearer tokens

A token is the address of its principal, a dot, and a signature of the address. Addresses may
contain dots themselves; signatures never do, so the last dot of a token is the one that parts
the two.

An address is a text, in which no half of a surrogate pair stands alone, and so is a token.
-/

namespace SavingsCircle

/-- The name of an account. It is a text: names with half of a surrogate pair on its own are left
out. -/
abbrev Address := String

/-- A caller's evidence of acting for a principal. -/
structure Proof where
  principal : Address
  token : String
  deriving DecidableEq

/-- Whoever issues tokens: the signature that goes with each address. -/
structure Authority where
  sign : Address → String

namespace Authority

/-- The authority that signs with a keyed digest under a secret. -/
def keyed (secret : String) : Authority where
  sign := Hmac.hex secret

def issue (authority : Authority) (principal : Address) : String :=
  principal ++ "." ++ authority.sign principal

def proofOf (authority : Authority) (principal : Address) : Proof where
  principal
  token := authority.issue principal

def verify (authority : Authority) (proof : Proof) : Bool :=
  authority.issue proof.principal == proof.token

/-- The part of a token before its last dot, if that part is not empty. -/
def principal? (token : String) : Option Address :=
  match token.toList.reverse.dropWhile (· != '.') with
  | [] | [_] => none
  | _ :: front => some (String.ofList front.reverse)

/-- The proof that a token gives, if it is the token of its principal. -/
def parse? (authority : Authority) (token : String) : Option Proof :=
  (principal? token).bind fun principal =>
    let proof : Proof := { principal, token }
    if authority.verify proof then some proof else none

@[simp] theorem verify_eq_true_iff {authority : Authority} {proof : Proof} :
    authority.verify proof = true ↔ proof.token = authority.issue proof.principal := by
  simp only [verify, beq_iff_eq]
  exact eq_comm

@[simp] theorem verify_proofOf (authority : Authority) (principal : Address) :
    authority.verify (authority.proofOf principal) = true :=
  verify_eq_true_iff.mpr rfl

end Authority

end SavingsCircle
