import Mathlib.Logic.Function.Basic
import SavingsCircle.Token

/-!
# Tokens and their principals

A token is read from its end: what stands behind the last dot should be a signature, and what
stands in front of it is the principal. A signature written in hexadecimal has no dots, so the last
dot of an issued token is the one that was put behind the principal, however many dots the principal
has and even if the principal is a token itself. Nothing else about signatures matters here: the
digits alone make tokens readable, and their fixed number keeps the tokens of two principals apart.
-/

namespace SavingsCircle

namespace Text

def hexDigits : List Char := "0123456789abcdef".toList

theorem digitChar_mem_hexDigits {value : Nat} (small : value < 16) :
    digitChar value ∈ hexDigits := by
  have all : ∀ value : Fin 16, digitChar value ∈ hexDigits := by decide
  exact all ⟨value, small⟩

theorem mem_hexDigits_of_mem_hexText {bytes : List UInt8} {c : Char}
    (mem : c ∈ (hexText bytes).toList) : c ∈ hexDigits := by
  rw [hexText, String.toList_ofList, List.mem_flatMap] at mem
  obtain ⟨byte, -, mem⟩ := mem
  have bound := byte.toNat_lt
  simp only [byteDigits, List.mem_cons, List.not_mem_nil, or_false] at mem
  obtain rfl | rfl := mem
  · exact digitChar_mem_hexDigits (by omega)
  · exact digitChar_mem_hexDigits (by omega)

end Text

namespace Authority

/-- Every signature is sixty-four lower-case hexadecimal digits. -/
structure SignsInHex (authority : Authority) : Prop where
  length (principal : Address) : (authority.sign principal).length = 64
  digits (principal : Address) :
    ∀ c ∈ (authority.sign principal).toList, c ∈ Text.hexDigits

theorem signsInHex_keyed (secret : String) : (keyed secret).SignsInHex where
  length principal := by
    change (Text.hexText _).length = 64
    rw [Text.hexText, String.length_ofList, Text.length_flatMap_byteDigits, Hmac.length_digest]
  digits _ _ mem := Text.mem_hexDigits_of_mem_hexText mem

namespace SignsInHex

variable {authority : Authority}

theorem dot_not_mem (hex : authority.SignsInHex) (principal : Address) :
    '.' ∉ (authority.sign principal).toList := by
  intro mem
  have digit := hex.digits principal '.' mem
  exact absurd digit (by decide)

end SignsInHex

theorem principal?_ne_empty {token : String} {principal : Address}
    (found : principal? token = some principal) : principal ≠ "" := by
  simp only [principal?] at found
  split at found
  · cases found
  · cases found
  · next front several _ =>
    obtain rfl := Option.some.inj found
    intro empty
    rw [← String.ofList_nil, String.ofList_inj, List.reverse_eq_nil_iff] at empty
    exact several empty

/-- A text that ends in a dot and something without dots is parted at that dot. -/
theorem principal?_append (principal : Address) {signature : String}
    (plain : '.' ∉ signature.toList) :
    principal? (principal ++ "." ++ signature) =
      if principal = "" then none else some principal := by
  have passed : ∀ c ∈ signature.toList.reverse, (c != '.') = true := by
    intro c mem
    rw [bne_iff_ne]
    rintro rfl
    exact plain (List.mem_reverse.1 mem)
  have parted : (principal ++ "." ++ signature).toList.reverse.dropWhile (· != '.') =
      '.' :: principal.toList.reverse := by
    have chars : (principal ++ "." ++ signature).toList.reverse =
        signature.toList.reverse ++ '.' :: principal.toList.reverse := by
      simp [String.toList_append]
    rw [chars, List.dropWhile_append_of_pos passed]
    rfl
  rw [principal?, parted]
  split
  · next impossible => cases impossible
  · next single =>
    have empty : principal = "" := by
      have nil := (List.cons.inj single).2
      rwa [List.reverse_eq_nil_iff, String.toList_eq_nil_iff] at nil
    rw [if_pos empty]
  · next c front several same =>
    obtain ⟨rfl, rfl⟩ := List.cons.inj same
    have nonempty : principal ≠ "" := by
      rintro rfl
      exact several rfl
    rw [if_neg nonempty, List.reverse_reverse, String.ofList_toList]

variable {authority : Authority} {token : String} {proof : Proof}

theorem principal?_issue (hex : authority.SignsInHex) (principal : Address) :
    principal? (authority.issue principal) = if principal = "" then none else some principal :=
  principal?_append principal (hex.dot_not_mem principal)

/-- A token is accepted only as the one that belongs to the principal it names. -/
theorem eq_of_parse?_eq_some (parsed : authority.parse? token = some proof) :
    proof.principal ≠ "" ∧ proof = authority.proofOf proof.principal ∧
      token = authority.issue proof.principal := by
  rw [parse?, Option.bind_eq_some_iff] at parsed
  obtain ⟨principal, found, accepted⟩ := parsed
  dsimp only at accepted
  split at accepted
  · next verified =>
    obtain rfl := Option.some.inj accepted
    obtain issued : token = authority.issue principal := verify_eq_true_iff.1 verified
    exact ⟨principal?_ne_empty found, by rw [proofOf, issued], issued⟩
  · cases accepted

/-- The token of a principal gives the proof that the principal can give. -/
theorem parse?_issue (hex : authority.SignsInHex) (principal : Address) :
    authority.parse? (authority.issue principal) =
      if principal = "" then none else some (authority.proofOf principal) := by
  rw [parse?, principal?_issue hex]
  split
  · rfl
  · exact if_pos (verify_proofOf authority principal)

theorem parse?_eq_some_iff (hex : authority.SignsInHex) :
    authority.parse? token = some proof ↔ proof.principal ≠ "" ∧ proof.token = token ∧
      token = authority.issue proof.principal := by
  constructor
  · intro parsed
    obtain ⟨nonempty, own, issued⟩ := eq_of_parse?_eq_some parsed
    exact ⟨nonempty, by rw [own, issued, proofOf], issued⟩
  · rintro ⟨nonempty, rfl, issued⟩
    rw [issued, parse?_issue hex, if_neg nonempty, proofOf, ← issued]

theorem parse?_eq_none_iff (hex : authority.SignsInHex) :
    authority.parse? token = none ↔
      ¬ ∃ principal, principal ≠ "" ∧ token = authority.issue principal := by
  constructor
  · rintro refused ⟨principal, nonempty, rfl⟩
    rw [parse?_issue hex, if_neg nonempty] at refused
    cases refused
  · intro unissued
    rw [Option.eq_none_iff_forall_ne_some]
    intro proof parsed
    obtain ⟨nonempty, _, issued⟩ := eq_of_parse?_eq_some parsed
    exact unissued ⟨proof.principal, nonempty, issued⟩

/-- Two principals have different tokens: signatures are equally long, so equal tokens have the dot
at the same place. -/
theorem issue_injective (hex : authority.SignsInHex) : Function.Injective authority.issue := by
  intro principal other same
  have chars : principal.toList ++ ('.' :: (authority.sign principal).toList) =
      other.toList ++ ('.' :: (authority.sign other).toList) := by
    simpa [issue, String.toList_append] using congrArg String.toList same
  have lengths : ('.' :: (authority.sign principal).toList).length =
      ('.' :: (authority.sign other).toList).length := by
    rw [List.length_cons, List.length_cons, String.length_toList, String.length_toList,
      hex.length, hex.length]
  exact String.toList_inj.1 (List.append_inj_left' chars lengths)

/-- Tokens under a secret, and under any authority whose signatures are sixty-four hexadecimal
digits. A text is accepted as a token exactly if it is a principal that is not empty, a dot and the
signature of the principal, and then it gives that principal; issuing and reading are inverse to
each other on all principals but the empty one, whose token is not accepted; no two principals share
a token; and a proof is genuine exactly if it holds the token of its principal. -/
theorem tokens_name_their_principals :
    (∀ secret, (keyed secret).SignsInHex) ∧
    ∀ authority : Authority, authority.SignsInHex →
      (∀ token proof, authority.parse? token = some proof ↔
        proof.principal ≠ "" ∧ proof.token = token ∧
          token = proof.principal ++ "." ++ authority.sign proof.principal) ∧
      (∀ token, authority.parse? token = none ↔
        ¬ ∃ principal, principal ≠ "" ∧
          token = principal ++ "." ++ authority.sign principal) ∧
      (∀ principal, principal ≠ "" → authority.parse? (authority.issue principal) =
        some ⟨principal, authority.issue principal⟩) ∧
      authority.parse? (authority.issue "") = none ∧
      Function.Injective authority.issue ∧
      ∀ principal token,
        authority.verify ⟨principal, token⟩ = true ↔ token = authority.issue principal := by
  refine ⟨signsInHex_keyed, fun authority hex => ?_⟩
  refine ⟨fun _ _ => parse?_eq_some_iff hex, fun _ => parse?_eq_none_iff hex, ?_, ?_,
    issue_injective hex, fun _ _ => verify_eq_true_iff⟩
  · intro principal nonempty
    rw [parse?_issue hex, if_neg nonempty, proofOf]
  · rw [parse?_issue hex, if_pos rfl]

/-- A principal with dots in it is read back whole from its token. -/
theorem token_of_dotted_principal :
    (keyed "secret").SignsInHex ∧
      (keyed "secret").parse? ((keyed "secret").issue "alice.savings.eth") =
        some ⟨"alice.savings.eth", (keyed "secret").issue "alice.savings.eth"⟩ := by
  have hex := tokens_name_their_principals.1 "secret"
  obtain ⟨_, _, readBack, _⟩ := tokens_name_their_principals.2 (keyed "secret") hex
  exact ⟨hex, readBack "alice.savings.eth" (by decide)⟩

end Authority

end SavingsCircle
