import SavingsCircle.Proofs.Audit.Binding

/-!
# What looking through a trail finds

Someone who gets at the entries of a published trail can change a field of an entry or take entries
away. Looking through the trail finds a change of anything that digests are taken of, and of the
digests (`Trail.chained_edited`). It finds entries that are missing ahead of one that is left,
because no later entry commits to the digest that now stands before it (`Trail.chained_of_sublist`).

It does not find everything. The identifier and the circle of an entry go into no digest, and
nothing commits to the last entry: a trail without its newest entries is itself a published one.
-/

namespace SavingsCircle

namespace Note

theorem commitment_eq (previousHash : String) (timestamp : Cell) (note : Note) :
    commitment previousHash timestamp note = previousHash ++ "|" ++ timestamp.text ++ "|" ++
      note.topic.text ++ "|" ++ note.payload.render := rfl

end Note

namespace Edit

/-- Whether an edit is about a field that no digest is taken of. -/
def isUncommitted : Edit → Bool
  | .id _ | .circle _ => true
  | _ => false

end Edit

namespace Entry

def shown (entry : Entry Note) : Edit → String
  | .id _ => entry.id.text
  | .topic _ => entry.event.topic.text
  | .circle _ => entry.event.circle.text
  | .payload _ => entry.event.payload.render
  | .timestamp _ => entry.timestamp.text
  | .previousHash _ => entry.previousHash.text
  | .entryHash _ => entry.entryHash.text

end Entry

namespace Trail

/-- The trails that come about by publishing notes. -/
inductive Published : Trail Note → Prop
  | empty : Published .empty
  | publish {trail next : Trail Note} {clock : Number} {nonce : String} {note : Note}
    (published : Published trail) (added : trail.publish clock nonce note = .ok next) :
    Published next

variable {trail next : Trail Note} {previousHash : String} {pre post kept xs : List (Entry Note)}
  {entry : Entry Note} {edit : Edit}

theorem publish_eq_ok {clock : Number} {nonce : String} {note : Note} :
    trail.publish clock nonce note = .ok next ↔ ∃ stamp, Stamp.read? clock nonce = some stamp ∧
      (trail.lastHash.isPlain && note.topic.hasText) = true ∧ trail.record stamp note = next := by
  simp only [publish, demandSome_bind_eq_ok, demand_bind_eq_ok]
  simp only [pure, Except.pure, Except.ok.injEq]

namespace Published

theorem verify (published : Published trail) : trail.verify = true := by
  induction published with
  | empty => rfl
  | publish _ added ih =>
      obtain ⟨stamp, -, -, rfl⟩ := publish_eq_ok.1 added
      exact verify_record ih stamp _

theorem isLegible (published : Published trail) : ∀ entry ∈ trail.entries, entry.isLegible := by
  induction published with
  | empty => exact fun _ mem => absurd mem List.not_mem_nil
  | publish _ added ih =>
      obtain ⟨stamp, -, texts, rfl⟩ := publish_eq_ok.1 added
      rw [Bool.and_eq_true] at texts
      rw [Trail.record, List.forall_mem_append, List.forall_mem_singleton]
      refine ⟨ih, ?_⟩
      rw [Entry.isLegible, Bool.and_eq_true]
      exact ⟨Json.isPlain_text (Calendar.timestamp stamp.instant), texts.2⟩

theorem record {stamp : Stamp} {clock : Number} {nonce : String} {note : Note}
    (published : Published trail) (read : Stamp.read? clock nonce = some stamp)
    (topic : note.topic.hasText = true) : Published (trail.record stamp note) := by
  refine published.publish (publish_eq_ok.2 ⟨stamp, read, ?_, rfl⟩)
  rw [lastHash_eq_tip published.verify, topic, Json.isPlain_text, Bool.and_self]

end Published

theorem legible_of_forall (all : ∀ entry ∈ xs, entry.isLegible) :
    legible previousHash xs = true := by
  induction xs generalizing previousHash with
  | nil => rfl
  | cons x xs ih =>
      rw [List.forall_mem_cons] at all
      rw [legible, all.1, ih all.2, Bool.or_true, Bool.and_self]

theorem inspect_of_forall_isLegible (all : ∀ entry ∈ trail.entries, entry.isLegible) :
    trail.inspect = .ok trail.verify := by
  rw [inspect, legible_of_forall all]
  rfl

theorem bears_of_chained (whole : chained previousHash (pre ++ entry :: post) = true) :
    entry.bears (tip previousHash pre) (entry.digest (tip previousHash pre)) = true := by
  have rest := (chained_append.1 whole).2
  rw [chained, Bool.and_eq_true] at rest
  exact rest.1

theorem commitment_mem_hashedFrom (front : chained previousHash pre = true) :
    commitment (tip previousHash pre) entry.timestamp entry.event ∈
      hashedFrom previousHash (pre ++ entry :: post) := by
  rw [hashedFrom_append front, hashedFrom]
  exact List.mem_append_right _ List.mem_cons_self

/-- An edited entry that still follows the entries ahead of it commits to the same text, unless its
digest was edited too. -/
theorem commitment_eq_of_chained (whole : chained previousHash (pre ++ entry :: post) = true)
    (changed : chained previousHash (pre ++ entry.edited edit :: post) = true)
    (separates : Sha256.Separates (hashedFrom previousHash (pre ++ entry :: post) ++
      hashedFrom previousHash (pre ++ entry.edited edit :: post)))
    (kept : (entry.edited edit).entryHash = entry.entryHash) :
    commitment (tip previousHash pre) (entry.edited edit).timestamp (entry.edited edit).event =
      commitment (tip previousHash pre) entry.timestamp entry.event := by
  have front := (chained_append.1 whole).1
  have own := (bears_eq_true_iff.1 (bears_of_chained whole)).2
  have edited := (bears_eq_true_iff.1 (bears_of_chained changed)).2
  rw [kept, own] at edited
  have digests : entry.digest (tip previousHash pre) =
      (entry.edited edit).digest (tip previousHash pre) := by
    simpa [Cell.ofText] using edited
  exact separates _ (List.mem_append_right _ (commitment_mem_hashedFrom front)) _
    (List.mem_append_left _ (commitment_mem_hashedFrom front)) digests.symm

/-- A chain is whole after an edit that changes a text just if no digest is taken of it. -/
theorem chained_edited (whole : chained previousHash (pre ++ entry :: post) = true)
    (differs : (entry.edited edit).shown edit ≠ entry.shown edit)
    (separates : Sha256.Separates (hashedFrom previousHash (pre ++ entry :: post) ++
      hashedFrom previousHash (pre ++ entry.edited edit :: post))) :
    chained previousHash (pre ++ entry.edited edit :: post) = edit.isUncommitted := by
  cases edit with
  | id _ | circle _ =>
      -- Neither the text nor the digests of the entry are touched.
      refine chained_append.2 ⟨(chained_append.1 whole).1, ?_⟩
      exact (chained_append.1 whole).2
  | topic _ | payload _ | timestamp _ =>
      refine Bool.eq_false_iff.2 fun changed => differs ?_
      have same := commitment_eq_of_chained whole changed separates rfl
      simpa only [Note.commitment_eq, Entry.edited, Entry.shown, String.append_left_inj,
        String.append_right_inj] using same
  | previousHash _ =>
      refine Bool.eq_false_iff.2 fun changed => differs ?_
      have own := (bears_eq_true_iff.1 (bears_of_chained whole)).1
      have edited := (bears_eq_true_iff.1 (bears_of_chained changed)).1
      exact congrArg Cell.text (edited.trans own.symm)
  | entryHash _ =>
      refine Bool.eq_false_iff.2 fun changed => differs ?_
      have own := (bears_eq_true_iff.1 (bears_of_chained whole)).2
      have edited := (bears_eq_true_iff.1 (bears_of_chained changed)).2
      exact congrArg Cell.text (edited.trans own.symm)

/-- No entry further on in a chain commits to a digest ahead of it. -/
theorem not_bears_of_mem (whole : chained genesis (pre ++ entry :: xs) = true)
    (separates : Sha256.Separates (hashedFrom genesis (pre ++ entry :: xs)))
    {later : Entry Note} (mem : later ∈ xs) (entryHash : String) :
    later.bears (tip genesis pre) entryHash = false := by
  obtain ⟨front, back, rfl⟩ := List.append_of_mem mem
  refine Bool.eq_false_iff.2 fun bears => ?_
  have split : pre ++ entry :: (front ++ later :: back) =
      (pre ++ entry :: front) ++ later :: back := by simp
  rw [split] at whole separates
  have own := (bears_eq_true_iff.1 (bears_of_chained whole)).1
  rw [(bears_eq_true_iff.1 bears).1] at own
  have ahead : tip genesis (pre ++ entry :: front) = tip genesis pre := by
    simpa [Cell.ofText] using own.symm
  have prior := (chained_append.1 whole).1
  rw [hashedFrom_append prior] at separates
  exact tip_append_ne prior (separates.mono (List.subset_append_left _ _)) (by simp) ahead

/-- What is left of a chain is whole just if only its end is missing. -/
theorem chained_of_sublist (whole : chained genesis (pre ++ xs) = true)
    (separates : Sha256.Separates (hashedFrom genesis (pre ++ xs))) (left : kept.Sublist xs) :
    chained (tip genesis pre) kept = true ↔ kept <+: xs := by
  induction left generalizing pre with
  | slnil => simp [chained]
  | @cons kept xs x left ih =>
      cases kept with
      | nil => simp [chained]
      | cons k kept =>
          -- The entry `k` stands behind `x`, so it does not commit to what is ahead of `x`.
          have later : k ∈ xs := left.subset List.mem_cons_self
          have stray := not_bears_of_mem whole separates later
          have own := bears_of_chained whole
          constructor
          · intro chain
            rw [chained, stray, Bool.false_and] at chain
            exact absurd chain Bool.false_ne_true
          · intro fits
            obtain ⟨rfl, -⟩ := List.cons_prefix_cons.1 fits
            rw [stray] at own
            exact absurd own Bool.false_ne_true
  | @cons_cons kept xs x left ih =>
      have own := bears_of_chained whole
      rw [List.append_cons] at whole separates
      have rest := ih whole separates
      rw [tip_append] at rest
      rw [chained, own, Bool.true_and, List.cons_prefix_cons]
      exact rest.trans ⟨fun fits => ⟨rfl, fits⟩, fun fits => fits.2⟩

theorem exists_split_of_edit? {position : Nat} {tampered : Trail Note}
    (found : trail.entries[position]? = some entry)
    (changed : trail.edit? position edit = some tampered) :
    ∃ pre post, trail.entries = pre ++ entry :: post ∧
      tampered.entries = pre ++ entry.edited edit :: post := by
  obtain ⟨bound, rfl⟩ := List.getElem?_eq_some_iff.1 found
  obtain rfl : ⟨trail.entries.modify position (·.edited edit)⟩ = tampered := by
    simpa [edit?, bound] using changed
  exact ⟨trail.entries.take position, trail.entries.drop (position + 1), by simp,
    List.modify_eq_take_cons_drop bound⟩

/-- What looking through a published trail comes to after an edit that changes a text. -/
theorem inspect_edited {position : Nat} {tampered : Trail Note} (published : Published trail)
    (found : trail.entries[position]? = some entry)
    (changed : trail.edit? position edit = some tampered)
    (legible : (entry.edited edit).isLegible = true)
    (differs : (entry.edited edit).shown edit ≠ entry.shown edit)
    (separates : Sha256.Separates (trail.hashed ++ tampered.hashed)) :
    tampered.inspect = .ok edit.isUncommitted := by
  obtain ⟨pre, post, split, splitAfter⟩ := exists_split_of_edit? found changed
  have whole := published.verify
  have all := published.isLegible
  rw [verify, split] at whole
  rw [hashed, hashed, split, splitAfter] at separates
  rw [split, List.forall_mem_append, List.forall_mem_cons] at all
  rw [inspect_of_forall_isLegible, verify, splitAfter, chained_edited whole differs separates]
  rw [splitAfter, List.forall_mem_append, List.forall_mem_cons]
  exact ⟨all.1, legible, all.2.2⟩

/-- Looking through a published trail without its newest entries finds nothing. -/
theorem inspect_of_isPrefix (published : Published trail) (fits : kept <+: trail.entries) :
    inspect ⟨kept⟩ = .ok true := by
  obtain ⟨rest, split⟩ := fits
  have whole := published.verify
  rw [verify, ← split, chained_append] at whole
  rw [inspect_of_forall_isLegible, verify, whole.1]
  intro entry mem
  exact published.isLegible entry (split ▸ List.mem_append_left rest mem)

/-- Looking through a published trail finds that entries are missing ahead of one that is left. -/
theorem inspect_of_sublist (published : Published trail) (left : kept.Sublist trail.entries)
    (gap : ¬kept <+: trail.entries) (separates : Sha256.Separates trail.hashed) :
    inspect ⟨kept⟩ = .ok false := by
  have split : chained (tip genesis []) kept = true ↔ kept <+: trail.entries :=
    chained_of_sublist published.verify separates left
  have broken : chained genesis kept = false := Bool.eq_false_iff.2 fun chain => gap (split.1 chain)
  rw [inspect_of_forall_isLegible, verify, broken]
  intro entry mem
  exact published.isLegible entry (left.subset mem)

/-- What looking through a trail tells of a change made behind its back. -/
structure Detects (trail : Trail Note) : Prop where
  /-- A field of an entry shows another text. -/
  edited : ∀ (position : Nat) (edit : Edit) (entry : Entry Note) (tampered : Trail Note),
    trail.entries[position]? = some entry → trail.edit? position edit = some tampered →
    (entry.edited edit).isLegible = true → (entry.edited edit).shown edit ≠ entry.shown edit →
    Sha256.Separates (trail.hashed ++ tampered.hashed) →
    tampered.inspect = .ok edit.isUncommitted
  /-- Only the newest entries are missing. -/
  shortened : ∀ kept : List (Entry Note), kept <+: trail.entries → inspect ⟨kept⟩ = .ok true
  /-- Entries are missing ahead of one that is left. -/
  removed : ∀ kept : List (Entry Note), kept.Sublist trail.entries → ¬kept <+: trail.entries →
    Sha256.Separates trail.hashed → inspect ⟨kept⟩ = .ok false

/-- Looking through what was published finds edits of what digests are taken of, and gaps. It finds
neither a new identifier or circle nor a missing end. -/
theorem detects_of_published (trail : Trail Note) (published : Published trail) :
    trail.Detects where
  edited _ _ _ _ := inspect_edited published
  shortened _ := inspect_of_isPrefix published
  removed _ := inspect_of_sublist published

/-- Two members have joined the first circle. -/
def twoJoined : Trail Note :=
  joined (Calendar.identifier "evt" "ba9876543210" (.ofNat 0)) (some (.ofNat 1))

theorem published_twoJoined : Published twoJoined := by
  have first : Stamp.read? (.ofNat 0) "ba9876543210" =
    some ⟨0, Calendar.identifier "evt" "ba9876543210" (.ofNat 0)⟩ := rfl
  have second : Stamp.read? (.ofNat 1000) "0123456789ab" =
    some ⟨1000, Calendar.identifier "evt" "0123456789ab" (.ofNat 1000)⟩ := rfl
  exact (Published.empty.record first rfl).record second rfl

theorem separates_hashed_twoJoined : Sha256.Separates twoJoined.hashed :=
  separates_hashed_joined _ _

set_option maxRecDepth 4000 in
/-- A payload taken out of the first entry and the first entry taken away are both noticed. -/
theorem detects_of_published_twoJoined :
    (twoJoined.edit? 0 (.payload (.object []))).map inspect = some (.ok false) ∧
      inspect ⟨twoJoined.entries.drop 1⟩ = .ok false := by
  have detects := detects_of_published twoJoined published_twoJoined
  constructor
  · have found : twoJoined.entries[0]? = some (twoJoined.entries.get ⟨0, by decide⟩) := rfl
    exact congrArg some (detects.edited 0 (.payload (.object [])) _ _ found rfl rfl
      (by decide +kernel) (by decide +kernel))
  · refine detects.removed _ (List.drop_sublist 1 _) ?_ separates_hashed_twoJoined
    intro fits
    have same := congrArg (·.timestamp.text) (List.cons_prefix_cons.1 fits).1
    exact absurd same (by decide +kernel)

/-- An entry put into another circle and a missing last entry pass unnoticed. -/
theorem inspect_twoJoined_moved_and_shortened :
    Published twoJoined ∧ Sha256.Separates twoJoined.hashed ∧
      (∃ moved, twoJoined.edit? 0 (.circle (some (.ofNat 2))) = some moved ∧
        Sha256.Separates (twoJoined.hashed ++ moved.hashed) ∧ moved.inspect = .ok true) ∧
      inspect ⟨twoJoined.entries.dropLast⟩ = .ok true := by
  have moved : twoJoined.edit? 0 (.circle (some (.ofNat 2))) =
    some (joined (Calendar.identifier "evt" "ba9876543210" (.ofNat 0)) (some (.ofNat 2))) := rfl
  have found : twoJoined.entries[0]? = some (twoJoined.entries.get ⟨0, by decide⟩) := rfl
  have separates : Sha256.Separates (twoJoined.hashed ++
      (joined (Calendar.identifier "evt" "ba9876543210" (.ofNat 0)) (some (.ofNat 2))).hashed) :=
    separates_hashed_twoJoined.mono (by simp [twoJoined, hashed_joined (Calendar.identifier _ _ _)])
  exact ⟨published_twoJoined, separates_hashed_twoJoined,
    ⟨_, moved, separates,
      inspect_edited published_twoJoined found moved rfl (by decide +kernel) separates⟩,
    inspect_of_isPrefix published_twoJoined (List.dropLast_prefix _)⟩

end Trail

end SavingsCircle
