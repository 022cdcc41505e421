import SavingsCircle.Proofs.Audit.Tampering
import SavingsCircle.Proofs.Run.Invariant

/-!
# Trails that nobody edits

A checkpoint of a trail remembers how long the trail was. Restoring it takes away the entries beyond
that length, be they those that stood there when it was taken or others that came later; a trail
that has become shorter it leaves alone. Entries therefore go from the newest end only, and what is
left of a published trail is itself a published one (`Trail.published_truncate`). The next entry
commits to whatever is last by then.

The service uses its trail in the same way: a call records events, and a call that fails takes the
trail back to the length it found. At any time, in the middle of a call too, every entry follows the
one before it (`Trail.recorded_chain_verifies`).
-/

namespace SavingsCircle

namespace Trail

variable {ε : Type} [Recorded ε]

theorem verify_recordAll {trail : Trail ε} (intact : trail.verify = true) (stamp : Stamp)
    (events : List ε) : (trail.recordAll stamp events).verify = true := by
  induction events generalizing trail with
  | nil => exact intact
  | cons event events ih => exact ih (verify_record intact stamp event)

/-- A published trail without its newest entries is itself a published one. -/
theorem published_truncate {trail : Trail Note} (published : Published trail) (length : Nat) :
    Published (trail.truncate length) := by
  induction published with
  | empty =>
      rw [truncate, empty, List.take_nil]
      exact .empty
  | @publish trail next clock nonce note published added ih =>
      obtain ⟨stamp, -, -, isNext⟩ := publish_eq_ok.1 added
      by_cases short : length ≤ trail.entries.length
      · have same : next.truncate length = trail.truncate length := by
          rw [← isNext, truncate, record, List.take_append_of_le_length short, truncate]
        rw [same]
        exact ih
      · have grown : next.entries.length ≤ length := by
          simp only [← isNext, record, List.length_append, List.length_singleton]
          omega
        have whole : next.truncate length = next := by
          rw [truncate, List.take_of_length_le grown]
        rw [whole]
        exact published.publish added

/-! ## Requests one after the other -/

/-- What can be asked of a trail. Checkpoints are numbered from zero, in the order in which they are
taken. -/
inductive Request where
  | publish (clock : Number) (nonce : String) (note : Note)
  | checkpoint
  | restore (checkpoint : Nat)
  | clear

/-- A trail with the lengths that its checkpoints remember, the oldest checkpoint first. -/
structure Marked where
  trail : Trail Note
  lengths : List Nat

namespace Marked

def empty : Marked := ⟨.empty, []⟩

/-- The trail after a request. A note that is refused is not recorded, and a checkpoint that was
never taken brings nothing back. -/
def handle (marked : Marked) : Request → Marked
  | .publish clock nonce note =>
    match marked.trail.publish clock nonce note with
    | .ok trail => { marked with trail }
    | .error _ => marked
  | .checkpoint => { marked with lengths := marked.lengths ++ [marked.trail.entries.length] }
  | .restore checkpoint =>
    match marked.lengths[checkpoint]? with
    | some length => { marked with trail := marked.trail.truncate length }
    | none => marked
  | .clear => { marked with trail := .empty }

def handleAll (marked : Marked) (requests : List Request) : Marked := requests.foldl handle marked

/-- A request leaves a trail that publishing alone could have brought about. -/
theorem published_handle {marked : Marked} (published : Published marked.trail)
    (request : Request) : Published (marked.handle request).trail := by
  cases request with
  | publish clock nonce note =>
      rw [handle]
      split
      · next added => exact published.publish added
      · exact published
  | checkpoint => exact published
  | restore checkpoint =>
      rw [handle]
      split
      · exact published_truncate published _
      · exact published
  | clear => exact .empty

theorem published_handleAll {marked : Marked} (published : Published marked.trail)
    (requests : List Request) : Published (marked.handleAll requests).trail := by
  induction requests generalizing marked with
  | nil => exact published
  | cons request requests ih => exact ih (published_handle published request)

end Marked

/-! ## The trail of the service -/

theorem verify_recorded? {world : World} {events : List Event} {trail : Trail Event}
    (recorded : world.recorded? events = some trail) (intact : world.trail.verify = true) :
    trail.verify = true := by
  rw [World.recorded?] at recorded
  split at recorded
  · obtain rfl := Option.some.inj recorded
    exact intact
  · obtain ⟨stamp, -, rfl⟩ := Option.map_eq_some_iff.1 recorded
    exact verify_recordAll intact stamp events

/-- Only calls write to the trail, and they record. -/
theorem verify_kept (host : Host) :
    Kept host (fun _ => True) fun _ world => world.trail.verify = true where
  same intact _ trail _ := by rwa [trail]
  write intact _ committed _ := by
    obtain ⟨trail, recorded, rfl⟩ := World.commit_eq_ok committed
    exact verify_recorded? recorded intact
  carry intact made _ := by
    obtain ⟨_, _, rfl⟩ := World.carry_eq_ok made
    exact intact
  mint intact _ _ := intact
  move intact _ _ := intact
  reset intact _ := intact

/-- Whatever is published, restored and cleared, in any order and whatever the clock shows, and
wherever a run of the service has come to, with calls that fail and calls that are made in the
middle of others: looking through the trail comes to the answer that it is whole. -/
theorem recorded_chain_verifies :
    (∀ requests, (Marked.empty.handleAll requests).trail.inspect = .ok true) ∧
      ∀ host now clock nonce draws steps world,
        Visits host (.opened now clock nonce draws) steps world →
          Query.isChainValid.answer world = .ok (.flag true) := by
  constructor
  · intro requests
    have published : Published (Marked.empty.handleAll requests).trail :=
      Marked.published_handleAll .empty requests
    rw [inspect_of_forall_isLegible published.isLegible, published.verify]
  · intro host now clock nonce draws steps world visits
    have admitted : ∀ passage ∈ runCourse host steps (.opened now clock nonce draws), True :=
      fun _ _ => trivial
    obtain ⟨last, others⟩ := (verify_kept host).run admitted rfl
    have intact : world.trail.verify = true := by
      rcases visits with rfl | ⟨passage, mem, rfl⟩
      · exact last
      · exact (others passage mem).elim fun _ whole => whole
    rw [Query.answer, intact]
    rfl

/-- The checkpoints are taken of one and of two entries. They are restored when other entries stand
there, and after the trail was cleared, when it is shorter than what the second one remembers. In
the run of the service a deposit fails after a circle was created in the middle of it. -/
theorem recorded_chain_verifies_of_restores :
    let publish (topic : String) : Request :=
      .publish (.ofNat 1000) "0" (.ofMembers (.ofText topic) [("circleId", some .null)])
    let requests : List Request :=
      [publish "first", .checkpoint, publish "second", .checkpoint, .restore 0, publish "third",
        .publish .nan "0" (.ofMembers (.ofText "undated") []), .restore 1, .clear, publish "fourth",
        .restore 1, publish "fifth", .restore 0, publish "sixth"]
    let marked := Marked.empty.handleAll requests
    let create : Step := .call (.createCircle (Host.sample.proofOf "a") .sample) []
    let failing : Step := .call (.deposit (Host.sample.proofOf "a") "USDC" (.ofNat 5))
      [.meets [create] (some "stopped")]
    let world := (runAll Host.sample [create, failing, create] World.sample).1
    (marked.lengths = [1, 2] ∧ marked.trail.entries.length = 2 ∧
        marked.trail.inspect = .ok true) ∧
      world.trail.entries.length = 2 ∧ Query.isChainValid.answer world = .ok (.flag true) := by
  intro publish requests marked create failing world
  obtain ⟨asked, visited⟩ := recorded_chain_verifies
  exact ⟨⟨by decide +kernel, by decide +kernel, asked requests⟩, by decide +kernel,
    visited Host.sample _ _ _ _ _ world (.inl rfl)⟩

end Trail

end SavingsCircle
