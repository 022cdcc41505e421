import SavingsCircle.Text.Units.Lemmas
import SavingsCircle.Token

/-!
# Proofs as they are written

A proof is written in sixteen-bit units, and nothing keeps half of a surrogate pair from standing
alone in it. The token is compared with the one that belongs to the principal byte by byte, and all
such halves have the same bytes: a token is accepted if and only if it reads like that of its
principal (`accepts_eq_verify`). For proofs that are texts this is to be that token
(`accepts_eq_true_iff`). Two principals that are no texts can read alike, and then each of them is
let in with the token of the other (`accepts_of_alike`).

Everywhere else a proof is what it reads like, and an address is a text.
-/

namespace SavingsCircle

namespace Text

/-- Whether units are those of a text, in which no half of a pair stands alone. -/
def isText (units : List Nat) : Bool :=
  units.all (· < 0x10000) && (units.foldr joinUnit []).all (!isHalf ·)

/-- The bytes of units. A half that stands alone has those of the replacement character. -/
def bytes (units : List Nat) : List UInt8 := (ofUnits units).toUTF8.data.toList

theorem units_append (s t : String) : units (s ++ t) = units s ++ units t := by
  rw [units, String.toList_append, List.flatMap_append]
  rfl

theorem isText_units (s : String) : isText (units s) = true := by
  simp only [isText, Bool.and_eq_true, List.all_eq_true, decide_eq_true_eq]
  constructor
  · intro unit mem
    obtain ⟨c, -, mem⟩ := List.mem_flatMap.1 mem
    have valid : c.toNat < 0xd800 ∨ 0xdfff < c.toNat ∧ c.toNat < 0x110000 := c.valid
    rw [charUnits] at mem
    split at mem <;> simp only [List.mem_cons, List.not_mem_nil, or_false] at mem <;> omega
  · intro code mem
    rw [units, foldr_joinUnit_flatMap_charUnits, List.mem_map] at mem
    obtain ⟨c, -, rfl⟩ := mem
    have valid : c.toNat < 0xd800 ∨ 0xdfff < c.toNat ∧ c.toNat < 0x110000 := c.valid
    simp only [isHalf, Bool.not_eq_true', decide_eq_false_iff_not]
    omega

def codeUnits (code : Nat) : List Nat :=
  if code < 0x10000 then [code]
  else [0xd800 + (code - 0x10000) / 0x400, 0xdc00 + (code - 0x10000) % 0x400]

/-- Joining halves loses no unit. -/
theorem flatMap_codeUnits_foldr_joinUnit {us : List Nat} (small : ∀ unit ∈ us, unit < 0x10000) :
    (us.foldr joinUnit []).flatMap codeUnits = us := by
  induction us with
  | nil => rfl
  | cons unit us ih =>
      rw [List.forall_mem_cons] at small
      have rest := ih small.2
      rw [List.foldr_cons]
      generalize us.foldr joinUnit [] = codes at rest
      cases codes with
      | nil =>
          rw [← rest]
          simp [joinUnit, codeUnits, small.1]
      | cons code codes =>
          rw [joinUnit]
          split
          · next pair =>
            rw [List.flatMap_cons] at rest ⊢
            rw [← rest, codeUnits, codeUnits, if_neg (by omega), if_pos (by omega)]
            simp only [List.cons_append, List.nil_append, List.cons.injEq, and_true]
            omega
          · rw [List.flatMap_cons, rest, codeUnits, if_pos small.1]
            rfl

theorem mem_foldr_joinUnit_lt {us : List Nat} (small : ∀ unit ∈ us, unit < 0x10000) :
    ∀ code ∈ us.foldr joinUnit [], code < 0x110000 := by
  induction us with
  | nil => simp
  | cons unit us ih =>
      rw [List.forall_mem_cons] at small
      have rest := ih small.2
      rw [List.foldr_cons]
      generalize us.foldr joinUnit [] = codes at rest
      cases codes with
      | nil =>
          simp only [joinUnit, List.forall_mem_singleton]
          omega
      | cons code codes =>
          rw [joinUnit]
          split
          · rw [List.forall_mem_cons] at rest ⊢
            exact ⟨by omega, rest.2⟩
          · exact List.forall_mem_cons.2 ⟨by omega, rest⟩

/-- Units that are those of a text are those of the text that they write. -/
theorem units_ofUnits {us : List Nat} (whole : isText us = true) : units (ofUnits us) = us := by
  simp only [isText, Bool.and_eq_true, List.all_eq_true, decide_eq_true_eq, Bool.not_eq_true']
    at whole
  obtain ⟨small, apart⟩ := whole
  have read : ∀ code ∈ us.foldr joinUnit [],
      charUnits (if isHalf code then Char.ofNat 0xfffd else Char.ofNat code) = codeUnits code := by
    intro code mem
    have single := apart code mem
    have low := mem_foldr_joinUnit_lt small code mem
    have valid : code.isValidChar := by
      simp only [isHalf, decide_eq_false_iff_not] at single
      rcases Nat.lt_or_ge code 0xd800 with below | above
      · exact .inl below
      · exact .inr ⟨by omega, low⟩
    rw [if_neg (by rw [single]; decide), charUnits, toNat_ofNat_of_valid valid]
    rfl
  rw [units, ofUnits, String.toList_ofList, List.flatMap_map, List.flatMap_def,
    List.map_congr_left read, ← List.flatMap_def, flatMap_codeUnits_foldr_joinUnit small]

/-- Codes that do not begin with the second half of a pair stay apart from what stands in front of
them. -/
theorem foldr_joinUnit_append (us : List Nat) {codes : List Nat}
    (single : ∀ code ∈ codes.head?, code < 0xdc00) :
    us.foldr joinUnit codes = us.foldr joinUnit [] ++ codes := by
  induction us with
  | nil => rfl
  | cons unit us ih =>
      rw [List.foldr_cons, List.foldr_cons, ih]
      cases us.foldr joinUnit [] with
      | cons code front =>
          rw [List.cons_append, joinUnit, joinUnit]
          split <;> rfl
      | nil =>
          cases codes with
          | nil => rfl
          | cons code codes =>
              rw [List.nil_append, joinUnit, if_neg (by have := single code rfl; omega)]
              rfl

/-- Units in front of a text that begins with a dot are read by themselves. -/
theorem ofUnits_append_dot (us : List Nat) (s : String) :
    ofUnits (us ++ units ("." ++ s)) = ofUnits us ++ "." ++ s := by
  have dotted : (units ("." ++ s)).foldr joinUnit [] = 46 :: s.toList.map Char.toNat := by
    rw [units, foldr_joinUnit_flatMap_charUnits, String.toList_append]
    rfl
  have read := ofUnits_units ("." ++ s)
  rw [ofUnits, dotted] at read
  rw [ofUnits, List.foldr_append, dotted, foldr_joinUnit_append us (by simp), List.map_append,
    String.ofList_append, read, String.append_assoc]
  rfl

end Text

/-- A proof in units, as it is written. -/
structure WrittenProof where
  principal : List Nat
  token : List Nat
  deriving DecidableEq

namespace WrittenProof

def read (proof : WrittenProof) : Proof where
  principal := Text.ofUnits proof.principal
  token := Text.ofUnits proof.token

/-- Whether the proof consists of texts. -/
def isText (proof : WrittenProof) : Bool :=
  Text.isText proof.principal && Text.isText proof.token

end WrittenProof

namespace Authority

/-- The token of a principal, in units. What is signed are the bytes of the principal. -/
def issueUnits (authority : Authority) (principal : List Nat) : List Nat :=
  principal ++ Text.units ("." ++ authority.sign (Text.ofUnits principal))

/-- The proof that a principal can give, in units. -/
def writtenProofOf (authority : Authority) (principal : List Nat) : WrittenProof where
  principal
  token := authority.issueUnits principal

/-- Whether the token of a proof has the bytes of the one that belongs to its principal. -/
def accepts (authority : Authority) (proof : WrittenProof) : Bool :=
  decide (Text.bytes (authority.issueUnits proof.principal) = Text.bytes proof.token)

variable {authority : Authority} {proof : WrittenProof}

theorem ofUnits_issueUnits (authority : Authority) (principal : List Nat) :
    Text.ofUnits (authority.issueUnits principal) = authority.issue (Text.ofUnits principal) :=
  Text.ofUnits_append_dot principal _

/-- A proof is accepted if what it reads like is verified. -/
theorem accepts_eq_verify (authority : Authority) (proof : WrittenProof) :
    authority.accepts proof = authority.verify proof.read := by
  rw [Bool.eq_iff_iff, accepts, verify_eq_true_iff, decide_eq_true_eq, Text.bytes, Text.bytes,
    Array.toList_inj, ← ByteArray.ext_iff, String.toUTF8, String.toUTF8, String.toByteArray_inj,
    ofUnits_issueUnits]
  exact eq_comm

/-- A proof that consists of texts is the one of the principal that it reads like, if it reads like
a proof of some principal. -/
theorem eq_writtenProofOf (whole : proof.isText = true) {principal : Address}
    (same : proof.read = authority.proofOf principal) :
    proof = authority.writtenProofOf (Text.units principal) := by
  simp only [WrittenProof.isText, Bool.and_eq_true] at whole
  have named : Text.ofUnits proof.principal = principal := congrArg Proof.principal same
  have signed : Text.ofUnits proof.token = authority.issue principal := congrArg Proof.token same
  calc proof
    _ = ⟨Text.units principal, Text.units (authority.issue principal)⟩ := by
      rw [← signed, ← named, Text.units_ofUnits whole.1, Text.units_ofUnits whole.2]
    _ = authority.writtenProofOf (Text.units principal) := by
      rw [writtenProofOf, issueUnits, Text.ofUnits_units, issue, String.append_assoc,
        Text.units_append]

/-- A proof that consists of texts is accepted if and only if it is the one of its principal. -/
theorem accepts_eq_true_iff (whole : proof.isText = true) :
    authority.accepts proof = true ↔ proof = authority.writtenProofOf proof.principal := by
  rw [accepts_eq_verify, verify_eq_true_iff]
  constructor
  · intro accepted
    have same : proof.read = authority.proofOf proof.read.principal := by
      rw [proofOf, ← accepted]
    have named := Text.units_ofUnits (Bool.and_eq_true_iff.1 whole).1
    have own := eq_writtenProofOf whole same
    rwa [WrittenProof.read, named] at own
  · intro own
    rw [own]
    exact ofUnits_issueUnits authority proof.principal

/-- The token of another principal that reads alike is accepted as well. -/
theorem accepts_of_alike {principal other : List Nat}
    (alike : Text.ofUnits principal = Text.ofUnits other) :
    authority.accepts ⟨principal, authority.issueUnits other⟩ = true := by
  rw [accepts_eq_verify, verify_eq_true_iff]
  simp only [WrittenProof.read, ofUnits_issueUnits, alike]

end Authority

end SavingsCircle
