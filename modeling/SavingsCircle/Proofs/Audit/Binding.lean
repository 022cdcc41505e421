import Mathlib.Data.List.Forall2
import SavingsCircle.Audit.Event
import SavingsCircle.Audit.Note
import SavingsCircle.Proofs.Audit.Chain

/-!
# What the last digest of a trail pins down

The text that a digest is taken of joins the digest before it, the time, the topic and the payload
by bars. Only the payload may contain bars, and it comes last; so the text can be taken apart again
(`Entry.fields_of_commitment_eq`). Trails that check out and end in the same digest have hashed the
same texts (`Trail.hashedFrom_eq_of_tip_eq`), and therefore record the same things at the same
places. What is not part of the text is left open: the identifier and the circle of an entry.
-/

namespace SavingsCircle

variable {ε : Type} [Recorded ε]

theorem Topic.bar_not_mem_name (topic : Topic) : '|' ∉ topic.name.toList := by
  cases topic <;> decide

namespace Entry

/-- An entry as the service may have written it: its time is a text without bars, and its topic is
one of those listed. The payload is any. -/
structure IsPlain (entry : Entry ε) : Prop where
  timestamp : ∃ text : String, entry.timestamp = .ofText text ∧ '|' ∉ text.toList
  topic : ∃ topic : Topic, Recorded.topic entry.event = .ofText topic.name

/-- Two entries agree on everything that digests are taken of, and on the digests. -/
structure Matches (entry other : Entry ε) : Prop where
  timestamp : entry.timestamp = other.timestamp
  topic : Recorded.topic entry.event = Recorded.topic other.event
  payload : (Recorded.payload entry.event).render = (Recorded.payload other.event).render
  previousHash : entry.previousHash = other.previousHash
  entryHash : entry.entryHash = other.entryHash

variable {entry other : Entry ε} {previousHash : String}

/-- The parts of a text can be told from it, behind a known digest. -/
theorem fields_of_commitment_eq (plain : entry.IsPlain) (otherPlain : other.IsPlain)
    (bare : '|' ∉ previousHash.toList)
    (same : commitment previousHash entry.timestamp entry.event =
      commitment previousHash other.timestamp other.event) :
    entry.timestamp = other.timestamp ∧
      Recorded.topic entry.event = Recorded.topic other.event ∧
      (Recorded.payload entry.event).render = (Recorded.payload other.event).render := by
  obtain ⟨time, timestamp, timeBare⟩ := plain.timestamp
  obtain ⟨otherTime, otherTimestamp, otherTimeBare⟩ := otherPlain.timestamp
  obtain ⟨topic, isTopic⟩ := plain.topic
  obtain ⟨otherTopic, isOtherTopic⟩ := otherPlain.topic
  simp only [commitment, timestamp, otherTimestamp, isTopic, isOtherTopic, Cell.text_ofText,
    String.append_assoc] at same
  obtain ⟨-, behindHash⟩ := Text.append_bar_inj bare bare same
  obtain ⟨times, behindTime⟩ := Text.append_bar_inj timeBare otherTimeBare behindHash
  obtain ⟨topics, payloads⟩ :=
    Text.append_bar_inj topic.bar_not_mem_name otherTopic.bar_not_mem_name behindTime
  rw [timestamp, otherTimestamp, isTopic, isOtherTopic, times, topics]
  exact ⟨rfl, rfl, payloads⟩

/-- Entries of equal texts behind the same digest match. -/
theorem matches_of_commitment_eq (plain : entry.IsPlain) (otherPlain : other.IsPlain)
    (bare : '|' ∉ previousHash.toList)
    (bears : entry.bears previousHash (entry.digest previousHash) = true)
    (otherBears : other.bears previousHash (other.digest previousHash) = true)
    (same : commitment previousHash entry.timestamp entry.event =
      commitment previousHash other.timestamp other.event) : entry.Matches other := by
  obtain ⟨timestamp, topic, payload⟩ := fields_of_commitment_eq plain otherPlain bare same
  obtain ⟨before, own⟩ := Trail.bears_eq_true_iff.1 bears
  obtain ⟨otherBefore, otherOwn⟩ := Trail.bears_eq_true_iff.1 otherBears
  have digests : entry.digest previousHash = other.digest previousHash :=
    congrArg Sha256.hex same
  exact ⟨timestamp, topic, payload, before.trans otherBefore.symm,
    own.trans ((congrArg Cell.ofText digests).trans otherOwn.symm)⟩

end Entry

namespace Trail

variable {previousHash : String} {xs ys : List (Entry ε)}

/-- Chains with the same texts match entry by entry. -/
theorem matches_of_hashedFrom_eq (bare : '|' ∉ previousHash.toList)
    (whole : chained previousHash xs = true) (otherWhole : chained previousHash ys = true)
    (plain : ∀ entry ∈ xs, entry.IsPlain) (otherPlain : ∀ entry ∈ ys, entry.IsPlain)
    (same : hashedFrom previousHash xs = hashedFrom previousHash ys) :
    List.Forall₂ Entry.Matches xs ys := by
  induction xs generalizing previousHash ys with
  | nil =>
      cases ys with
      | nil => exact .nil
      | cons y ys => exact absurd same (by simp [hashedFrom])
  | cons x xs ih =>
      cases ys with
      | nil => exact absurd same (by simp [hashedFrom])
      | cons y ys =>
          rw [chained, Bool.and_eq_true] at whole otherWhole
          simp only [hashedFrom, whole.1, otherWhole.1, if_true, List.cons.injEq] at same
          obtain ⟨text, rest⟩ := same
          rw [List.forall_mem_cons] at plain otherPlain
          have first : x.Matches y := Entry.matches_of_commitment_eq plain.1 otherPlain.1 bare
            whole.1 otherWhole.1 text
          -- The digests that the remaining entries stand behind are those of the same text.
          have digests : x.digest previousHash = y.digest previousHash :=
            congrArg Sha256.hex text
          rw [digests] at whole rest
          exact .cons first (ih (Sha256.bar_not_mem_hex _) whole.2 otherWhole.2 plain.2
            otherPlain.2 rest)

/-- Trails that check out and whose last entries bear the same digest record the same things, entry
by entry, if no two of the texts that are hashed when they are looked through have the same
digest. -/
theorem matches_of_last_entryHash_eq (trail other : Trail ε) (last otherLast : Entry ε)
    (intact : trail.verify = true) (otherIntact : other.verify = true)
    (plain : ∀ entry ∈ trail.entries, entry.IsPlain)
    (otherPlain : ∀ entry ∈ other.entries, entry.IsPlain)
    (separates : Sha256.Separates (trail.hashed ++ other.hashed))
    (isLast : trail.entries.getLast? = some last)
    (isOtherLast : other.entries.getLast? = some otherLast)
    (same : last.entryHash = otherLast.entryHash) :
    List.Forall₂ Entry.Matches trail.entries other.entries := by
  have cells := same
  rw [entryHash_of_getLast? intact isLast, entryHash_of_getLast? otherIntact isOtherLast] at cells
  have tips : tip genesis trail.entries = tip genesis other.entries := by
    simpa [Cell.ofText] using cells
  exact matches_of_hashedFrom_eq bar_not_mem_genesis intact otherIntact plain otherPlain
    (hashedFrom_eq_of_tip_eq intact otherIntact separates tips)

/-- Two members join a circle one second after the other. The identifier and the circle of the
first entry are as given. -/
def joined (id : String) (circle : Cell) : Trail Note :=
  let joining (member : String) : Note := .ofMembers (.ofText "MemberJoined")
    [("circleId", some (.ofNat 1)), ("member", some (.text member))]
  (empty.record ⟨0, id⟩ { joining "alice" with circle }).record
    ⟨1000, Calendar.identifier "evt" "0123456789ab" (.ofNat 1000)⟩ (joining "bob|by")

theorem verify_joined (id : String) (circle : Cell) : (joined id circle).verify = true :=
  verify_record (verify_record rfl _ _) _ _

theorem isPlain_of_mem_joined {id : String} {circle : Cell} :
    ∀ entry ∈ (joined id circle).entries, entry.IsPlain := by
  have first : '|' ∉ (Calendar.timestamp 0).toList := by decide +kernel
  have second : '|' ∉ (Calendar.timestamp 1000).toList := by decide +kernel
  simp only [joined, empty, record, List.nil_append, List.cons_append, List.forall_mem_cons]
  exact ⟨⟨⟨_, rfl, first⟩, .memberJoined, rfl⟩, ⟨⟨_, rfl, second⟩, .memberJoined, rfl⟩, by simp⟩

theorem hashed_joined (id : String) (circle : Cell) :
    (joined id circle).hashed = (joined "evt_1" none).hashed := rfl

set_option maxRecDepth 4000 in
theorem separates_hashed_joined (id : String) (circle : Cell) :
    Sha256.Separates (joined id circle).hashed := by
  rw [hashed_joined]
  decide +kernel

/-- Trails can end in the same digest without being equal. -/
theorem matches_of_last_entryHash_eq_joined :
    List.Forall₂ Entry.Matches (joined "evt_1" (some (.ofNat 1))).entries
      (joined "evt_9" (some .null)).entries := by
  have separates := separates_hashed_joined "evt_1" (some (.ofNat 1))
  exact matches_of_last_entryHash_eq _ _ _ _ (verify_joined _ _) (verify_joined _ _)
    isPlain_of_mem_joined isPlain_of_mem_joined
    (separates.mono (by simp [hashed_joined "evt_9", hashed_joined "evt_1"])) rfl rfl rfl

end Trail

end SavingsCircle
