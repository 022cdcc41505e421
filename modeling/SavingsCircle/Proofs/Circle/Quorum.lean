import Mathlib.Data.List.Nodup
import SavingsCircle.Proofs.Circle.Status

/-!
# Quorums

Only members who are not put out can vote, and a decision falls as soon as more than half of them
are for it. `Circle.Governed` says that the votes of a circle are votes of such members and that no
decision is due. Calls that can bring a decision about settle the votes, which leaves any open
circle governed in which nobody has voted twice (`Polled.settle`). The other calls must not bear on
it: a new member only adds to the voters, and a swap renames a voter together with the votes.
-/

namespace SavingsCircle

/-- Votes of voters, none of whom has voted twice. -/
structure Cast (voters votes : List Address) : Prop where
  nodup : votes.Nodup
  subset : votes ⊆ voters

namespace Cast

variable {voters others votes : List Address} {former successor : Address}

theorem nil (voters : List Address) : Cast voters [] := ⟨List.nodup_nil, List.nil_subset voters⟩

theorem mono (cast : Cast voters votes) (more : voters ⊆ others) : Cast others votes :=
  ⟨cast.nodup, List.Subset.trans cast.subset more⟩

theorem rename (cast : Cast voters votes) (isNew : successor ∉ voters) :
    Cast (voters.map (Circle.renamed former successor))
      (votes.map (Circle.renamed former successor)) :=
  ⟨Circle.nodup_map_renamed cast.nodup fun voted => isNew (cast.subset voted),
    List.map_subset _ cast.subset⟩

end Cast

namespace Circle

/-- The members who are not put out. -/
def voters (circle : Circle) (records : Records) : List Address :=
  circle.members.filter fun address => !circle.isEjected records address

/-- The votes of a circle are votes of the given voters, and its late fees are rates. -/
structure Counted (circle : Circle) (voters : List Address) : Prop where
  dissolution : Cast voters circle.dissolutionVotes
  proposal : Cast voters circle.proposalVotes
  closed : circle.proposedLateFeeRate = none → circle.proposalVotes = []
  lateFeeRate : circle.lateFeeRate ≤ 10000
  proposed {rate} : circle.proposedLateFeeRate = some rate → rate ≤ 10000

/-- The votes are votes of members who are not put out. The circle is dissolved if more than half
of these are for it, and no more than half are for an open proposal. -/
structure Governed (circle : Circle) (records : Records) : Prop
    extends Counted circle (circle.voters records) where
  dissolved : circle.isDissolved = true ↔
    (circle.voters records).length < 2 * circle.dissolutionVotes.length
  pending {rate} : circle.proposedLateFeeRate = some rate →
    2 * circle.proposalVotes.length ≤ (circle.voters records).length

/-- An open circle in which nobody has voted twice. -/
structure Polled (circle : Circle) : Prop where
  isOpen : circle.isDissolved = false
  dissolution : circle.dissolutionVotes.Nodup
  proposal : circle.proposalVotes.Nodup
  closed : circle.proposedLateFeeRate = none → circle.proposalVotes = []
  lateFeeRate : circle.lateFeeRate ≤ 10000
  proposed {rate} : circle.proposedLateFeeRate = some rate → rate ≤ 10000

variable {circle next : Circle} {records others : Records} {voters : List Address}

theorem mem_voters_iff {address : Address} :
    address ∈ circle.voters records ↔
      address ∈ circle.members ∧ circle.isEjected records address = false := by
  simp [Circle.voters]

theorem voters_congr (members : next.members = circle.members)
    (ejected : ∀ address ∈ circle.members,
      next.isEjected others address = circle.isEjected records address) :
    next.voters others = circle.voters records := by
  rw [Circle.voters, Circle.voters, members]
  apply List.filter_congr
  intro address mem
  rw [ejected address mem]

@[simp] theorem voters_settle : (circle.settle others).1.voters records = circle.voters records :=
  voters_congr members_settle fun _ _ => isEjected_congr id_settle rfl

theorem Indexed.mem_voters (indexed : circle.Indexed) {address : Address}
    (voter : circle.isVoter records address = true) : address ∈ circle.voters records := by
  rw [isVoter, Bool.and_eq_true] at voter
  obtain ⟨position, found⟩ := Option.isSome_iff_exists.1 voter.1
  exact mem_voters_iff.2 ⟨indexed.mem_of_position? found, by simpa using voter.2⟩

/-! ## Settling the votes -/

/-- Once the votes of those who can no longer vote are dropped, all votes are votes of voters. -/
theorem Polled.dropVotes (polled : circle.Polled) (indexed : circle.Indexed) :
    (circle.dropVotes records).Counted (circle.voters records) := by
  have cast {votes : List Address} (nodup : votes.Nodup) :
      Cast (circle.voters records) (votes.filter (circle.isVoter records)) :=
    ⟨nodup.filter _, fun _ mem => indexed.mem_voters (List.mem_filter.1 mem).2⟩
  refine ⟨cast polled.dissolution, cast polled.proposal, ?_, polled.lateFeeRate, polled.proposed⟩
  intro unproposed
  show circle.proposalVotes.filter _ = []
  rw [polled.closed unproposed, List.filter_nil]

/-- An open circle is dissolved if more than half of the voters are for it. -/
theorem Counted.settleDissolution (counted : circle.Counted voters)
    (isOpen : circle.isDissolved = false) :
    (circle.settleDissolution voters.length).1.Counted voters ∧
      ((circle.settleDissolution voters.length).1.isDissolved = true ↔
        voters.length <
          2 * (circle.settleDissolution voters.length).1.dissolutionVotes.length) := by
  simp only [Circle.settleDissolution, isOpen, Bool.not_false, Bool.true_and, decide_eq_true_eq]
  split
  · next most =>
    refine ⟨⟨counted.dissolution, counted.proposal, counted.closed, counted.lateFeeRate,
      counted.proposed⟩, ?_⟩
    simp only [true_iff]
    omega
  · next few =>
    refine ⟨counted, ?_⟩
    rw [isOpen]
    simp only [Bool.false_eq_true, false_iff]
    omega

/-- A proposal stays open only if no more than half of the voters are for it. -/
theorem Counted.settleProposal (counted : circle.Counted voters) :
    (circle.settleProposal voters.length).1.Counted voters ∧
      ∀ rate, (circle.settleProposal voters.length).1.proposedLateFeeRate = some rate →
        2 * (circle.settleProposal voters.length).1.proposalVotes.length ≤ voters.length := by
  simp only [Circle.settleProposal]
  split
  · next rate proposed =>
    split
    · refine ⟨⟨counted.dissolution, .nil voters, fun _ => rfl, counted.proposed proposed, ?_⟩, ?_⟩
      · intro rate unproposed
        simp at unproposed
      · intro rate unproposed
        simp at unproposed
    · next few =>
      refine ⟨counted, fun _ _ => ?_⟩
      show 2 * circle.proposalVotes.length ≤ voters.length
      omega
  · next unproposed =>
    refine ⟨counted, fun rate proposed => ?_⟩
    simp [unproposed] at proposed

/-- Settling the votes leaves no decision due. -/
theorem Polled.settle (polled : circle.Polled) (indexed : (circle.settle records).1.Indexed) :
    (circle.settle records).1.Governed records := by
  have indexed : circle.Indexed := indexed.congr members_settle.symm directory_settle.symm
  have counted : (circle.dropVotes records).Counted (circle.voters records) :=
    polled.dropVotes indexed
  have count : (circle.dropVotes records).voterCount records = (circle.voters records).length := rfl
  suffices settled : (circle.settle records).1.Counted (circle.voters records) ∧
      ((circle.settle records).1.isDissolved = true ↔
        (circle.voters records).length < 2 * (circle.settle records).1.dissolutionVotes.length) ∧
      ∀ rate, (circle.settle records).1.proposedLateFeeRate = some rate →
        2 * (circle.settle records).1.proposalVotes.length ≤ (circle.voters records).length by
    obtain ⟨counted, dissolved, pending⟩ := settled
    rw [← voters_settle] at counted dissolved pending
    exact ⟨counted, dissolved, fun proposed => pending _ proposed⟩
  simp only [Circle.settle, count]
  split
  · next nobody =>
    -- Where nobody can vote nothing is decided, and it need not be: no votes are left.
    have empty {votes : List Address} (cast : Cast (circle.voters records) votes) : votes = [] :=
      List.subset_nil.1 (List.eq_nil_of_length_eq_zero nobody ▸ cast.subset)
    refine ⟨counted, ?_, fun _ _ => ?_⟩
    · rw [empty counted.dissolution]
      simpa [Circle.dropVotes] using polled.isOpen
    · rw [empty counted.proposal]
      exact Nat.zero_le _
  · obtain ⟨decided, dissolved⟩ := counted.settleDissolution polled.isOpen
    obtain ⟨resolved, pending⟩ := decided.settleProposal
    obtain ⟨_, _, _, same⟩ := settleProposal_eq
      ((circle.dropVotes records).settleDissolution (circle.voters records).length).1
      (circle.voters records).length
    refine ⟨resolved, ?_, pending⟩
    rw [same]
    exact dissolved

/-! ## Calls -/

theorem Governed.polled (governed : circle.Governed records)
    (isOpen : circle.isDissolved = false) : circle.Polled where
  isOpen := isOpen
  dissolution := governed.dissolution.nodup
  proposal := governed.proposal.nodup
  closed := governed.closed
  lateFeeRate := governed.lateFeeRate
  proposed := governed.proposed

theorem Polled.seated (polled : circle.Polled) {seats : List Seat} {directory : Directory}
    {payoutQueue : List Address} {balance reserve : Amount} :
    Polled { circle with seats, directory, payoutQueue, balance, reserve } :=
  ⟨polled.isOpen, polled.dissolution, polled.proposal, polled.closed, polled.lateFeeRate,
    polled.proposed⟩

theorem Polled.vote (polled : circle.Polled) {votes : List Address} (once : votes.Nodup) :
    Polled { circle with dissolutionVotes := votes } :=
  ⟨polled.isOpen, once, polled.proposal, polled.closed, polled.lateFeeRate, polled.proposed⟩

/-- What bears neither on the votes nor on who can vote leaves a circle governed. -/
theorem Governed.congr (governed : circle.Governed records)
    (members : next.members = circle.members)
    (ejected : ∀ address, next.isEjected others address = circle.isEjected records address)
    (isDissolved : next.isDissolved = circle.isDissolved)
    (dissolutionVotes : next.dissolutionVotes = circle.dissolutionVotes)
    (proposalVotes : next.proposalVotes = circle.proposalVotes)
    (proposed : next.proposedLateFeeRate = circle.proposedLateFeeRate)
    (lateFeeRate : next.lateFeeRate = circle.lateFeeRate) : next.Governed others := by
  have voters : next.voters others = circle.voters records :=
    voters_congr members fun address _ => ejected address
  refine ⟨⟨?_, ?_, ?_, ?_, ?_⟩, ?_, ?_⟩
  · rw [voters, dissolutionVotes]
    exact governed.dissolution
  · rw [voters, proposalVotes]
    exact governed.proposal
  · rw [proposed, proposalVotes]
    exact governed.closed
  · rw [lateFeeRate]
    exact governed.lateFeeRate
  · rw [proposed]
    exact governed.proposed
  · rw [voters, isDissolved, dissolutionVotes]
    exact governed.dissolved
  · rw [voters, proposed, proposalVotes]
    exact governed.pending

/-- A new member can vote. -/
theorem voters_addSeat {member : Address} {index : Nat} {now : Number}
    (isNew : member ∉ circle.members) :
    (circle.addSeat member).voters (records.enroll circle.id member index now) =
      circle.voters records ++ [member] := by
  rw [Circle.voters, members_addSeat, List.filter_append]
  congr 1
  · apply List.filter_congr
    intro address mem
    have differ : address ≠ member := fun same => isNew (same ▸ mem)
    congr 1
    apply isEjected_congr rfl
    rw [Records.record?_enroll, if_neg (by simp [differ])]
  · have takesPart :
        (circle.addSeat member).isEjected (records.enroll circle.id member index now) member =
          false := by
      rw [Bool.eq_false_iff, ne_eq, isEjected_iff]
      show ¬Option.map _ (Records.record? _ circle.id member) = _
      rw [Records.record?_enroll, if_pos ⟨rfl, rfl⟩]
      simp [MemberRecord.fresh]
    simp [takesPart]

/-- A new member brings no decision about. -/
theorem Governed.addSeat (governed : circle.Governed records)
    (isOpen : circle.isDissolved = false) {member : Address} (isNew : member ∉ circle.members)
    {index : Nat} {now : Number} :
    (circle.addSeat member).Governed (records.enroll circle.id member index now) := by
  have voters : (circle.addSeat member).voters (records.enroll circle.id member index now) =
      circle.voters records ++ [member] := voters_addSeat isNew
  have more : circle.voters records ⊆
      (circle.addSeat member).voters (records.enroll circle.id member index now) :=
    voters ▸ List.subset_append_left ..
  constructor
  · exact ⟨governed.dissolution.mono more, governed.proposal.mono more, governed.closed,
      governed.lateFeeRate, governed.proposed⟩
  · have few : ¬(circle.voters records).length < 2 * circle.dissolutionVotes.length := by
      rw [← governed.dissolved, isOpen]
      simp
    show circle.isDissolved = true ↔ _ < 2 * circle.dissolutionVotes.length
    rw [isOpen, voters, List.length_append]
    simp only [Bool.false_eq_true, false_iff]
    omega
  · intro rate proposed
    have pending := governed.pending proposed
    show 2 * circle.proposalVotes.length ≤ _
    rw [voters, List.length_append]
    omega

/-- A voter is renamed along with the seat if the standing is handed on. -/
theorem voters_renameMember {former successor : Address}
    (handed : ∀ address ∈ circle.members,
      (circle.renameMember former successor).isEjected others (renamed former successor address) =
        circle.isEjected records address) :
    (circle.renameMember former successor).voters others =
      (circle.voters records).map (renamed former successor) := by
  rw [Circle.voters, Circle.voters, members_renameMember, List.filter_map]
  congr 1
  apply List.filter_congr
  intro address mem
  simp only [Function.comp, handed address mem]

/-- A swap renames voters and votes alike. -/
theorem Governed.renameMember (governed : circle.Governed records) {former successor : Address}
    (isNew : successor ∉ circle.members)
    (handed : ∀ address ∈ circle.members,
      (circle.renameMember former successor).isEjected others (renamed former successor address) =
        circle.isEjected records address) :
    (circle.renameMember former successor).Governed others := by
  have voters := voters_renameMember handed
  have noVoter : successor ∉ circle.voters records := fun mem => isNew (mem_voters_iff.1 mem).1
  constructor
  · rw [voters]
    refine ⟨governed.dissolution.rename noVoter, governed.proposal.rename noVoter, ?_,
      governed.lateFeeRate, governed.proposed⟩
    intro unproposed
    show circle.proposalVotes.map _ = []
    rw [governed.closed unproposed, List.map_nil]
  · show circle.isDissolved = true ↔ _ < 2 * (circle.dissolutionVotes.map _).length
    rw [voters, List.length_map, List.length_map]
    exact governed.dissolved
  · intro rate proposed
    show 2 * (circle.proposalVotes.map _).length ≤ _
    rw [voters, List.length_map, List.length_map]
    exact governed.pending proposed

end Circle

section

variable {host : Host} {moment : Moment} {books : Books} {circle : Circle} {caller : Address}
variable {operation : Operation} {change : Change}

theorem Swapping.governed {former successor : Address} (sound : circle.Sound)
    (governed : circle.Governed books.records)
    (unreserved : Directory.reserved ∉ change.circle.members)
    (swapping : Swapping moment books circle former successor change) :
    change.circle.Governed change.records := by
  cases swapping with
  | same => exact governed
  | @renamed position _ _ _ _ seated _ absent recorded isRenamed areRecords =>
      subst isRenamed areRecords
      -- The successor's record takes over the status, so the renaming keeps who is put out.
      have mem := sound.indexed.mem_of_position? seated
      have isNew := sound.indexed.isNew absent (circle.mem_members_renameMember mem) unreserved
      refine governed.renameMember isNew fun address isMember => ?_
      have apart : address ≠ successor := fun same => isNew (same ▸ isMember)
      have handed := Circle.statusOf_renameMember position moment.now
        (circle.renameMember former successor).directory recorded apart
      rw [Circle.isEjected, Circle.isEjected, ← handed]

/-- A call on a circle leaves no decision due. -/
theorem Deed.governed (sound : circle.Sound) (governed : circle.Governed books.records)
    (unreserved : Directory.reserved ∉ change.circle.members)
    (deed : Deed host moment books circle caller operation change) :
    change.circle.Governed change.records := by
  have indexed := deed.indexed sound.indexed
  cases deed with
  | handOver | finalizeAgain | withdrawNothing | finalize =>
      exact governed.congr rfl (fun _ => Circle.isEjected_congr rfl rfl) rfl rfl rfl rfl rfl
  | join isOpen absent =>
      have isNew := sound.indexed.isNew absent (by simp) unreserved
      exact governed.addSeat isOpen isNew
  | kick isOpen _ _ _ _ _ _ _ _ isRemoved _ isKept =>
      subst isKept isRemoved
      exact (governed.polled isOpen).seated.settle indexed
  | swap _ swapping | swapByAdmin swapping => exact swapping.governed sound governed unreserved
  | eject isOpen => exact (governed.polled isOpen).settle indexed
  | requestExit _ _ recorded active =>
      refine governed.congr rfl (fun address => ?_) rfl rfl rfl rfl rfl
      rw [Circle.isEjected, Circle.isEjected, Circle.statusOf, Circle.statusOf]
      dsimp only
      rw [Records.record?_update _ _ _ _ _ fun _ _ => by
        simpa using Records.isOf_of_record? recorded]
      split
      · next here => simp [here.2, recorded, active]
      · rfl
  | fillVacancy _ isOpen _ _ _ _ _ _ isVacated _ isKept =>
      subst isKept isVacated
      exact (governed.polled isOpen).seated.settle indexed
  | processPayout _ _ _ _ _ _ _ _ isPaid =>
      subst isPaid
      exact governed.congr (circle.members_paySeat _) (fun _ => Circle.isEjected_congr rfl rfl)
        rfl rfl rfl rfl rfl
  | rollover =>
      exact governed.congr circle.members_rollOver (fun _ => Circle.isEjected_congr rfl rfl)
        rfl rfl rfl rfl rfl
  | contribute =>
      refine governed.congr (circle.members_updateSeat _ fun _ => rfl) (fun address => ?_)
        rfl rfl rfl rfl rfl
      apply Circle.isEjected_congr rfl
      exact Records.map_record?_update _ _ _ _ _ address (by simp) fun _ _ => rfl
  | coverMember _ _ _ _ _ isCovered =>
      subst isCovered
      exact governed.congr (circle.members_updateSeat _ fun _ => rfl)
        (fun _ => Circle.isEjected_congr rfl rfl) rfl rfl rfl rfl rfl
  | @proposeDissolution _ _ votes isOpen _ areVotes =>
      have polled := governed.polled isOpen
      have once : votes.Nodup := by
        rw [areVotes]
        split
        · exact polled.dissolution
        · next first =>
          exact polled.dissolution.append (List.nodup_singleton _) (List.disjoint_singleton.2 first)
      exact (polled.vote once).settle indexed
  | voteDissolution isOpen _ first =>
      have polled := governed.polled isOpen
      have once := polled.dissolution.append (List.nodup_singleton _)
        (List.disjoint_singleton.2 first)
      exact (polled.vote once).settle indexed
  | proposeLateFee isOpen _ isRate =>
      have polled := governed.polled isOpen
      have rate := Fees.rate?_le isRate
      refine Circle.Polled.settle ?_ indexed
      refine ⟨polled.isOpen, polled.dissolution, List.nodup_singleton _, ?_, polled.lateFeeRate, ?_⟩
      · intro unproposed
        simp at unproposed
      · intro other same
        exact Option.some.inj same ▸ rate
  | voteLateFee isOpen _ proposed first =>
      have polled := governed.polled isOpen
      have once := polled.proposal.append (List.nodup_singleton _) (List.disjoint_singleton.2 first)
      refine Circle.Polled.settle ?_ indexed
      refine ⟨polled.isOpen, polled.dissolution, once, ?_, polled.lateFeeRate, polled.proposed⟩
      intro unproposed
      change circle.proposedLateFeeRate = none at unproposed
      simp [unproposed] at proposed
  | withdrawProRata =>
      exact governed.congr (circle.members_updateSeat _ fun _ => rfl)
        (fun _ => Circle.isEjected_congr rfl rfl) rfl rfl rfl rfl rfl

end

/-- That no decision is due is an invariant of circles without the reserved address. -/
theorem circleInvariant_governed (host : Host) :
    CircleInvariant host (fun circle => Directory.reserved ∉ circle.members) fun circle records _ =>
      circle.Sound ∧ circle.Governed records where
  congr := by
    rintro circle records others past ⟨sound, governed⟩ same
    exact ⟨sound, governed.congr rfl (fun _ => Circle.isEjected_congr rfl (by rw [same]))
      rfl rfl rfl rfl rfl⟩
  founded := by
    intro circle records isNew
    have nobody : circle.voters records = [] := by
      rw [Circle.voters, Circle.members, isNew.seats, List.map_nil, List.filter_nil]
    refine ⟨isNew.sound, ⟨?_, ?_, fun _ => isNew.proposalVotes, isNew.lateFeeRate, ?_⟩, ?_, ?_⟩
    · rw [isNew.dissolutionVotes]
      exact .nil _
    · rw [isNew.proposalVotes]
      exact .nil _
    · simp [isNew.proposedLateFeeRate]
    · simp [isNew.isDissolved, isNew.dissolutionVotes]
    · simp [isNew.proposalVotes]
  deed := by
    rintro moment books circle caller operation change past ⟨sound, governed⟩ deed unreserved
    exact ⟨deed.sound sound, deed.governed sound governed unreserved⟩

/-- In every world of a run in which no member goes by the reserved address, the votes of a circle
are votes of members who are not put out, each of whom has voted at most once on a question. The
circle is dissolved if and only if more than half of these members are for it, nobody has a vote on
a proposal that is not open, and no more than half are for one that is. -/
theorem governance_is_settled {host : Host} {now clock : Number} {nonce : String} {draws : Draws}
    {steps : List Step}
    (unreserved : ∀ passage ∈ runCourse host steps (.opened now clock nonce draws),
      ∀ circle ∈ passage.world.books.circles, Directory.reserved ∉ circle.members) :
    ∀ world, Visits host (.opened now clock nonce draws) steps world →
      ∀ circle ∈ world.books.circles, circle.Governed world.books.records := by
  intro world visits circle mem
  exact ((circleInvariant_governed host).holds unreserved visits mem).2

/-- A proposal is open while its first voter is renamed and voters come and go. The last voter but
one is put out, and that decides it. -/
theorem governance_is_settled_of_ejection :
    let proof := Host.sample.proofOf "a"
    let steps : List Step :=
      [.call (.createCircle proof .sample) [], .call (.join proof (.ofNat 1)) [],
        .call (.join (Host.sample.proofOf "b") (.ofNat 1)) [],
        .call (.join (Host.sample.proofOf "c") (.ofNat 1)) [],
        .call (.proposeLateFee proof (.ofNat 1) (.ofNat 500)) [],
        .call (.proposeDissolution (Host.sample.proofOf "b") (.ofNat 1)) [],
        .call (.swapByAdmin proof (.ofNat 1) "a" "e") [],
        .call (.join (Host.sample.proofOf "d") (.ofNat 1)) [],
        .call (.kick proof (.ofNat 1) "b" (.ofNat 0)) [],
        .call (.kick proof (.ofNat 1) "c" (.ofNat 0)) []]
    let last : Step := .call (.eject proof (.ofNat 1) "d") []
    let votes := fun (circle : Circle) =>
      (circle.dissolutionVotes, circle.proposedLateFeeRate, circle.proposalVotes,
        circle.lateFeeRate)
    let world := (runAll Host.sample (steps ++ [last]) World.sample).1
    (∀ passage ∈ runCourse Host.sample (steps ++ [last]) World.sample,
        ∀ circle ∈ passage.world.books.circles, Directory.reserved ∉ circle.members) ∧
      ((runAll Host.sample steps World.sample).1.books.circles.map votes) =
        [([], some 500, ["e"], 0)] ∧
      (world.books.circles.map votes) = [([], none, [], 500)] ∧
      ∀ circle ∈ world.books.circles, circle.Governed world.books.records := by
  intro proof steps last votes world
  have unreserved : ∀ passage ∈ runCourse Host.sample (steps ++ [last]) World.sample,
      ∀ circle ∈ passage.world.books.circles, Directory.reserved ∉ circle.members := by
    decide +kernel
  refine ⟨unreserved, by decide +kernel, by decide +kernel, ?_⟩
  exact governance_is_settled unreserved world (.inl rfl)

end SavingsCircle
