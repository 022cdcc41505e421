import Mathlib.Data.List.Basic
import Mathlib.Data.List.Induction
import Mathlib.Data.List.Pairwise
import SavingsCircle.Audit.Trail

/-!
# Chains of digests

When a trail is looked through, the digest of one entry goes into the text that the digest of the
next entry is taken of. Digests have no bars in them, so a text tells which digest stands before it.
Two chains that come to the same digest can therefore be traced back from it, text by text, as long
as no two of the texts have the same digest (`hashedFrom_eq_of_tip_eq`). Both traces end at the
same place: what stands before the first entry is too short for a digest.
-/

namespace SavingsCircle

namespace Text

theorem digitChar_ne_bar {value : Nat} (small : value < 16) : digitChar value ≠ '|' := by
  have all : ∀ value : Fin 16, digitChar value ≠ '|' := by decide
  exact all ⟨value, small⟩

theorem bar_not_mem_hexText (bytes : List UInt8) : '|' ∉ (hexText bytes).toList := by
  simp only [hexText, String.toList_ofList, List.mem_flatMap, byteDigits, List.mem_cons,
    List.not_mem_nil, or_false, not_exists, not_and, not_or]
  intro byte _
  have bound := byte.toNat_lt
  exact ⟨(digitChar_ne_bar (by omega)).symm, (digitChar_ne_bar (by omega)).symm⟩

/-- Lists without bars can be told from what a bar parts them from. -/
theorem append_cons_bar_inj {front otherFront back otherBack : List Char} (plain : '|' ∉ front)
    (otherPlain : '|' ∉ otherFront) (same : front ++ '|' :: back = otherFront ++ '|' :: otherBack) :
    front = otherFront ∧ back = otherBack := by
  induction front generalizing otherFront with
  | nil =>
      cases otherFront with
      | nil => exact ⟨rfl, (List.cons.inj same).2⟩
      | cons c _ =>
          obtain rfl : '|' = c := (List.cons.inj same).1
          exact absurd List.mem_cons_self otherPlain
  | cons c front ih =>
      cases otherFront with
      | nil =>
          obtain rfl : c = '|' := (List.cons.inj same).1
          exact absurd List.mem_cons_self plain
      | cons d otherFront =>
          obtain ⟨rfl, rest⟩ := List.cons.inj same
          rw [List.mem_cons, not_or] at plain otherPlain
          obtain ⟨rfl, behind⟩ := ih plain.2 otherPlain.2 rest
          exact ⟨rfl, behind⟩

theorem append_bar_inj {front otherFront back otherBack : String} (plain : '|' ∉ front.toList)
    (otherPlain : '|' ∉ otherFront.toList)
    (same : front ++ ("|" ++ back) = otherFront ++ ("|" ++ otherBack)) :
    front = otherFront ∧ back = otherBack := by
  have chars := congrArg String.toList same
  rw [String.toList_append, String.toList_append, String.toList_append, String.toList_append]
    at chars
  obtain ⟨fronts, backs⟩ := append_cons_bar_inj plain otherPlain chars
  exact ⟨String.toList_inj.1 fronts, String.toList_inj.1 backs⟩

end Text

namespace Sha256

/-- No two of the texts have the same digest. -/
def Separates (texts : List String) : Prop :=
  ∀ text ∈ texts, ∀ other ∈ texts, hex text = hex other → text = other

theorem separates_iff_pairwise {texts : List String} : Separates texts ↔
    texts.Pairwise fun text other => hex text = hex other → text = other := by
  constructor
  · intro separates
    exact List.pairwise_of_forall_mem_list separates
  · intro apart
    refine apart.forall_of_forall_of_flip (fun _ _ _ => rfl) (apart.imp ?_)
    intro text other same equal
    exact (same equal.symm).symm

instance (texts : List String) : Decidable (Separates texts) :=
  decidable_of_iff _ separates_iff_pairwise.symm

theorem Separates.mono {texts fewer : List String} (separates : Separates texts)
    (subset : fewer ⊆ texts) : Separates fewer :=
  fun _ mem _ memOther same => separates _ (subset mem) _ (subset memOther) same

theorem length_hex (text : String) : (hex text).length = 64 := by
  rw [hex, Text.hexText, String.length_ofList, Text.length_flatMap_byteDigits, length_digest]

theorem bar_not_mem_hex (text : String) : '|' ∉ (hex text).toList := Text.bar_not_mem_hexText _

end Sha256

namespace Trail

variable {ε : Type} [Recorded ε]

/-- The digest that stands behind entries which follow one another. -/
def tip : String → List (Entry ε) → String
  | previousHash, [] => previousHash
  | previousHash, entry :: entries => tip (entry.digest previousHash) entries

/-- The texts that digests are taken of when entries are looked through, up to the first entry that
does not follow the one before it. -/
def hashedFrom : String → List (Entry ε) → List String
  | _, [] => []
  | previousHash, entry :: entries =>
    let digest := entry.digest previousHash
    commitment previousHash entry.timestamp entry.event ::
      if entry.bears previousHash digest then hashedFrom digest entries else []

/-- The texts that digests are taken of when a trail is looked through. -/
def hashed (trail : Trail ε) : List String := hashedFrom genesis trail.entries

variable {previousHash : String} {xs ys : List (Entry ε)} {entry : Entry ε}

theorem chained_append : chained previousHash (xs ++ ys) = true ↔
    chained previousHash xs = true ∧ chained (tip previousHash xs) ys = true := by
  induction xs generalizing previousHash with
  | nil => simp [chained, tip]
  | cons x xs ih =>
      simp only [List.cons_append, chained, Bool.and_eq_true, ih, tip]
      exact and_assoc.symm

theorem chained_singleton : chained previousHash [entry] = true ↔
    entry.bears previousHash (entry.digest previousHash) = true := by
  simp [chained]

theorem tip_append : tip previousHash (xs ++ ys) = tip (tip previousHash xs) ys := by
  induction xs generalizing previousHash with
  | nil => rfl
  | cons x xs ih => exact ih

theorem hashedFrom_append (whole : chained previousHash xs = true) :
    hashedFrom previousHash (xs ++ ys) =
      hashedFrom previousHash xs ++ hashedFrom (tip previousHash xs) ys := by
  induction xs generalizing previousHash with
  | nil => rfl
  | cons x xs ih =>
      simp only [chained, Bool.and_eq_true] at whole
      simp only [List.cons_append, hashedFrom, whole.1, if_true, ih whole.2, tip]

theorem hashedFrom_singleton :
    hashedFrom previousHash [entry] = [commitment previousHash entry.timestamp entry.event] := by
  simp [hashedFrom]

theorem length_hashedFrom (whole : chained previousHash xs = true) :
    (hashedFrom previousHash xs).length = xs.length := by
  induction xs generalizing previousHash with
  | nil => rfl
  | cons x xs ih =>
      simp only [chained, Bool.and_eq_true] at whole
      simp only [hashedFrom, whole.1, if_true, List.length_cons, ih whole.2]

omit [Recorded ε] in
theorem bears_eq_true_iff {entryHash : String} : entry.bears previousHash entryHash = true ↔
    entry.previousHash = .ofText previousHash ∧ entry.entryHash = .ofText entryHash := by
  simp only [Entry.bears, Bool.and_eq_true, Cell.holds_eq_true_iff]

theorem bar_not_mem_tip (plain : '|' ∉ previousHash.toList) :
    '|' ∉ (tip previousHash xs).toList := by
  induction xs generalizing previousHash with
  | nil => exact plain
  | cons x xs ih => exact ih (Sha256.bar_not_mem_hex _)

theorem bar_not_mem_genesis : '|' ∉ genesis.toList := by decide

theorem digest_ne_genesis (entry : Entry ε) (previousHash : String) :
    entry.digest previousHash ≠ genesis := by
  intro same
  have length := Sha256.length_hex (commitment previousHash entry.timestamp entry.event)
  rw [← Entry.digest, same] at length
  exact absurd length (by decide)

theorem eq_of_commitment_eq {other : Entry ε} {otherHash : String}
    (plain : '|' ∉ previousHash.toList) (otherPlain : '|' ∉ otherHash.toList)
    (same : commitment previousHash entry.timestamp entry.event =
      commitment otherHash other.timestamp other.event) : previousHash = otherHash := by
  simp only [commitment, String.append_assoc] at same
  exact (Text.append_bar_inj plain otherPlain same).1

/-- Chains that come to the same digest have the same texts, if no two of these have the same
digest. -/
theorem hashedFrom_eq_of_tip_eq (whole : chained genesis xs = true)
    (otherWhole : chained genesis ys = true)
    (separates : Sha256.Separates (hashedFrom genesis xs ++ hashedFrom genesis ys))
    (same : tip genesis xs = tip genesis ys) :
    hashedFrom genesis xs = hashedFrom genesis ys := by
  -- From the last entries back: equal digests are digests of equal texts, and these begin with
  -- the digests before them.
  induction xs using List.reverseRecOn generalizing ys with
  | nil =>
      rcases List.eq_nil_or_concat ys with rfl | ⟨ys, y, rfl⟩
      · rfl
      · rw [List.concat_eq_append, tip_append] at same
        exact absurd same.symm (digest_ne_genesis y _)
  | append_singleton xs x ih =>
      rcases List.eq_nil_or_concat ys with rfl | ⟨ys, y, rfl⟩
      · rw [tip_append] at same
        exact absurd same (digest_ne_genesis x _)
      · rw [List.concat_eq_append] at otherWhole separates same ⊢
        have front := (chained_append.1 whole).1
        have otherFront := (chained_append.1 otherWhole).1
        rw [hashedFrom_append front, hashedFrom_append otherFront, hashedFrom_singleton,
          hashedFrom_singleton] at separates ⊢
        rw [tip_append, tip_append] at same
        have text : commitment (tip genesis xs) x.timestamp x.event =
            commitment (tip genesis ys) y.timestamp y.event :=
          separates _ (by simp) _ (by simp) same
        have before : tip genesis xs = tip genesis ys :=
          eq_of_commitment_eq (bar_not_mem_tip bar_not_mem_genesis)
            (bar_not_mem_tip bar_not_mem_genesis) text
        have fewer : hashedFrom genesis xs ++ hashedFrom genesis ys ⊆
            hashedFrom genesis xs ++ [commitment (tip genesis xs) x.timestamp x.event] ++
              (hashedFrom genesis ys ++ [commitment (tip genesis ys) y.timestamp y.event]) := by
          intro text mem
          simp only [List.mem_append] at mem ⊢
          exact mem.imp .inl .inl
        rw [ih front otherFront (separates.mono fewer) before, text]

/-- No entry of a chain brings back a digest that stands further ahead in it. -/
theorem tip_append_ne (whole : chained genesis (xs ++ ys) = true)
    (separates : Sha256.Separates (hashedFrom genesis (xs ++ ys))) (some : ys ≠ []) :
    tip genesis (xs ++ ys) ≠ tip genesis xs := by
  intro same
  have front := (chained_append.1 whole).1
  have texts : hashedFrom genesis (xs ++ ys) = hashedFrom genesis xs := by
    refine hashedFrom_eq_of_tip_eq whole front (separates.mono ?_) same
    rw [hashedFrom_append front]
    intro text mem
    simp only [List.mem_append] at mem ⊢
    exact mem.elim id .inl
  have lengths := congrArg List.length texts
  rw [length_hashedFrom whole, length_hashedFrom front, List.length_append] at lengths
  exact some (List.length_eq_zero_iff.1 (by omega))

theorem entryHash_of_getLast? (whole : chained genesis xs = true)
    (isLast : xs.getLast? = some entry) : entry.entryHash = .ofText (tip genesis xs) := by
  obtain ⟨front, rfl⟩ := List.getLast?_eq_some_iff.1 isLast
  have last := chained_singleton.1 (chained_append.1 whole).2
  rw [tip_append]
  exact (bears_eq_true_iff.1 last).2

theorem lastHash_eq_tip {trail : Trail ε} (intact : trail.verify = true) :
    trail.lastHash = .text (tip genesis trail.entries) := by
  rw [lastHash]
  cases found : trail.entries.getLast? with
  | none =>
      rw [List.getLast?_eq_none_iff.1 found]
      rfl
  | some entry =>
      rw [Option.bind_some, entryHash_of_getLast? intact found]
      rfl

/-- Recording keeps a trail whole. -/
theorem verify_record {trail : Trail ε} (intact : trail.verify = true) (stamp : Stamp)
    (event : ε) : (trail.record stamp event).verify = true := by
  rw [verify, record, chained_append, lastHash_eq_tip intact, chained_singleton,
    bears_eq_true_iff]
  exact ⟨intact, rfl, by simp [Entry.after, Entry.digest]⟩

end Trail

end SavingsCircle
