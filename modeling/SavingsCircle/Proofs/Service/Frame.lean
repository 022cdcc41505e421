import SavingsCircle.Circle.Record.Lemmas
import SavingsCircle.Proofs.Circle.History
import SavingsCircle.Proofs.Service.Deed

/-!
# What a call leaves alone

Settling the votes touches nothing but the votes and what they decide. A call on a circle keeps the
circle's number, asset and contribution, never takes back a dissolution, records events of that
circle only, and changes member records of that circle only.
-/

namespace SavingsCircle

inductive Event.IsDecision (id : Nat) : Event → Prop where
  | dissolution {votes} : IsDecision id (.circleDissolved id votes)
  | lateFee {rate} : IsDecision id (.penaltyChanged id rate)

theorem Event.IsDecision.continues {id : Nat} {event : Event} (decision : event.IsDecision id) :
    event.Continues id := by
  cases decision <;> exact ⟨rfl, rfl⟩

theorem Event.foldl_payout {σ : Type} {next : σ → Event → σ} {circle : Nat} {volume : Amount}
    (blind : ∀ state, next state (.cycleCompleted circle volume) = state) (state : σ)
    (payout : Event) (isComplete : Bool) :
    (payout :: if isComplete then [.cycleCompleted circle volume] else []).foldl next state =
      next state payout := by
  cases isComplete with
  | true => exact blind _
  | false => rfl

namespace Circle

variable (circle : Circle) (records : Records) (voters : Nat)

theorem settleDissolution_eq : ∃ dissolves,
    (circle.settleDissolution voters).1 =
      { circle with isDissolved := circle.isDissolved || dissolves } := by
  simp only [settleDissolution]
  split
  · exact ⟨true, by simp⟩
  · exact ⟨false, by simp⟩

theorem settleProposal_eq : ∃ rate proposed votes,
    (circle.settleProposal voters).1 =
      { circle with
        lateFeeRate := rate, proposedLateFeeRate := proposed, proposalVotes := votes } := by
  simp only [settleProposal]
  split
  · split <;> exact ⟨_, _, _, rfl⟩
  · exact ⟨_, _, _, rfl⟩

/-- Settling the votes can drop votes, dissolve a circle and change its late fee. -/
theorem settle_eq : ∃ dissolves votes rate proposed proposalVotes,
    (circle.settle records).1 =
      { circle with
        isDissolved := circle.isDissolved || dissolves
        dissolutionVotes := votes
        lateFeeRate := rate
        proposedLateFeeRate := proposed
        proposalVotes } := by
  simp only [settle]
  split
  · exact ⟨false, _, _, _, _, by simp only [Bool.or_false]; rfl⟩
  · generalize (circle.dropVotes records).voterCount records = voters
    obtain ⟨dissolves, dissolved⟩ := (circle.dropVotes records).settleDissolution_eq voters
    rw [dissolved]
    obtain ⟨rate, proposed, votes, decided⟩ := settleProposal_eq _ voters
    rw [decided]
    exact ⟨dissolves, _, rate, proposed, votes, rfl⟩

section

variable {circle records}

/-- Settling the votes keeps what it never writes. -/
theorem settle_keeps {α : Type} (field : Circle → α)
    (blind : ∀ (circle : Circle) dissolves votes rate proposed proposalVotes,
      field { circle with
        isDissolved := dissolves
        dissolutionVotes := votes
        lateFeeRate := rate
        proposedLateFeeRate := proposed
        proposalVotes } = field circle) :
    field (circle.settle records).1 = field circle := by
  obtain ⟨dissolves, votes, rate, proposed, proposalVotes, settled⟩ := circle.settle_eq records
  rw [settled, blind]

@[simp] theorem id_settle : (circle.settle records).1.id = circle.id :=
  settle_keeps (·.id) fun _ _ _ _ _ _ => rfl

@[simp] theorem contribution_settle :
    (circle.settle records).1.contribution = circle.contribution :=
  settle_keeps (·.contribution) fun _ _ _ _ _ _ => rfl

@[simp] theorem seats_settle : (circle.settle records).1.seats = circle.seats :=
  settle_keeps (·.seats) fun _ _ _ _ _ _ => rfl

@[simp] theorem members_settle : (circle.settle records).1.members = circle.members :=
  settle_keeps (·.members) fun _ _ _ _ _ _ => rfl

@[simp] theorem directory_settle : (circle.settle records).1.directory = circle.directory :=
  settle_keeps (·.directory) fun _ _ _ _ _ _ => rfl

@[simp] theorem payoutQueue_settle :
    (circle.settle records).1.payoutQueue = circle.payoutQueue :=
  settle_keeps (·.payoutQueue) fun _ _ _ _ _ _ => rfl

@[simp] theorem balance_settle : (circle.settle records).1.balance = circle.balance :=
  settle_keeps (·.balance) fun _ _ _ _ _ _ => rfl

@[simp] theorem reserve_settle : (circle.settle records).1.reserve = circle.reserve :=
  settle_keeps (·.reserve) fun _ _ _ _ _ _ => rfl

@[simp] theorem insurance_settle : (circle.settle records).1.insurance = circle.insurance :=
  settle_keeps (·.insurance) fun _ _ _ _ _ _ => rfl

end

/-- Settling the votes records decisions only. -/
theorem isDecision_of_mem_settle {event : Event} (mem : event ∈ (circle.settle records).2) :
    event.IsDecision circle.id := by
  simp only [settle] at mem
  split at mem
  · simp at mem
  · generalize (circle.dropVotes records).voterCount records = voters at mem
    obtain ⟨dissolves, dissolved⟩ := (circle.dropVotes records).settleDissolution_eq voters
    rw [dissolved] at mem
    rcases List.mem_append.1 mem with mem | mem
    · simp only [settleDissolution] at mem
      split at mem
      · obtain rfl := List.mem_singleton.1 mem
        exact .dissolution
      · simp at mem
    · simp only [settleProposal] at mem
      split at mem
      · split at mem
        · obtain rfl := List.mem_singleton.1 mem
          exact .lateFee
        · simp at mem
      · simp at mem

theorem forall_mem_decided {P : Event → Prop} {done : Event}
    (decisions : ∀ event, event.IsDecision circle.id → P event) (isDone : P done) :
    ∀ event ∈ (circle.settle records).2 ++ [done], P event := by
  rw [List.forall_mem_append, List.forall_mem_singleton]
  exact ⟨fun event mem => decisions event (circle.isDecision_of_mem_settle records mem), isDone⟩

/-- What decisions do not bear on does not change when the votes are settled. -/
theorem foldl_settle {σ : Type} {next : σ → Event → σ} (state : σ) (more : List Event)
    (blind : ∀ (state : σ) (event : Event), event.IsDecision circle.id → next state event = state) :
    ((circle.settle records).2 ++ more).foldl next state = more.foldl next state := by
  rw [List.foldl_append]
  congr 1
  have decisions : ∀ event ∈ (circle.settle records).2, event.IsDecision circle.id :=
    fun _ mem => circle.isDecision_of_mem_settle records mem
  generalize (circle.settle records).2 = events at decisions
  induction events with
  | nil => rfl
  | cons event events ih =>
      rw [List.forall_mem_cons] at decisions
      rw [List.foldl_cons, blind state event decisions.1]
      exact ih decisions.2

end Circle

/-- What a circle keeps from its founding on, and its dissolution once it has come. -/
structure Circle.Lasts (circle next : Circle) : Prop where
  id : next.id = circle.id
  asset : next.asset = circle.asset
  contribution : next.contribution = circle.contribution
  isDissolved : circle.isDissolved = true → next.isDissolved = true

theorem Circle.Lasts.refl (circle : Circle) : circle.Lasts circle :=
  ⟨rfl, rfl, rfl, fun dissolved => dissolved⟩

theorem Circle.Lasts.settle {circle next : Circle} (lasts : circle.Lasts next)
    (records : Records) : circle.Lasts (next.settle records).1 := by
  obtain ⟨dissolves, votes, rate, proposed, proposalVotes, settled⟩ := next.settle_eq records
  rw [settled]
  refine ⟨lasts.id, lasts.asset, lasts.contribution, fun dissolved => ?_⟩
  simp [lasts.isDissolved dissolved]

section

variable {host : Host} {moment : Moment} {books : Books} {circle : Circle} {caller : Address}
variable {operation : Operation} {change : Change}

theorem Swapping.lasts {former successor : Address}
    (swapping : Swapping moment books circle former successor change) :
    circle.Lasts change.circle := by
  cases swapping with
  | same => exact ⟨rfl, rfl, rfl, id⟩
  | renamed _ _ _ _ _ isRenamed =>
      subst isRenamed
      exact ⟨rfl, rfl, rfl, id⟩

theorem Swapping.isOpen {former successor : Address}
    (swapping : Swapping moment books circle former successor change) :
    circle.isDissolved = false := by
  cases swapping with
  | same isOpen => exact isOpen
  | renamed isOpen => exact isOpen

/-- A call on a circle keeps the circle's number, asset and contribution. -/
theorem Deed.lasts (deed : Deed host moment books circle caller operation change) :
    circle.Lasts change.circle := by
  cases deed with
  | swap _ swapping | swapByAdmin swapping => exact swapping.lasts
  | kick _ _ _ _ _ _ _ _ _ isRemoved _ isKept =>
      subst isKept isRemoved
      exact Circle.Lasts.settle (by exact ⟨rfl, rfl, rfl, id⟩) _
  | fillVacancy _ _ _ _ _ _ _ _ isVacated _ isKept =>
      subst isKept isVacated
      exact Circle.Lasts.settle (by exact ⟨rfl, rfl, rfl, id⟩) _
  | eject | proposeDissolution | voteDissolution | proposeLateFee | voteLateFee =>
      exact Circle.Lasts.settle (by exact ⟨rfl, rfl, rfl, id⟩) _
  | processPayout _ _ _ _ _ _ _ _ isPaid =>
      subst isPaid
      exact ⟨rfl, rfl, rfl, id⟩
  | coverMember _ _ _ _ _ isCovered =>
      subst isCovered
      exact ⟨rfl, rfl, rfl, id⟩
  | _ => exact ⟨rfl, rfl, rfl, id⟩

theorem Swapping.continues {former successor : Address}
    (swapping : Swapping moment books circle former successor change) :
    ∀ event ∈ change.events, event.Continues circle.id := by
  cases swapping with
  | same => simp [Circle.answering]
  | renamed => simpa using ⟨rfl, rfl⟩

theorem Event.continues_of_decisions {kept : Circle} {records : Records} {done event : Event}
    (mem : event ∈ (kept.settle records).2 ++ [done]) (same : kept.id = circle.id)
    (own : done.Continues circle.id) : event.Continues circle.id := by
  rw [← same] at own ⊢
  exact kept.forall_mem_decided records (fun _ decision => decision.continues) own event mem

/-- A call on a circle records events of that circle. -/
theorem Deed.continues (deed : Deed host moment books circle caller operation change) :
    ∀ event ∈ change.events, event.Continues circle.id := by
  intro event mem
  cases deed with
  | swap _ swapping | swapByAdmin swapping => exact swapping.continues event mem
  | kick _ _ _ _ _ _ _ _ _ isRemoved _ isKept =>
      exact Event.continues_of_decisions mem (by rw [isKept, isRemoved]; rfl) ⟨rfl, rfl⟩
  | fillVacancy _ _ _ _ _ _ _ _ isVacated _ isKept =>
      exact Event.continues_of_decisions mem (by rw [isKept, isVacated]; rfl) ⟨rfl, rfl⟩
  | eject => exact Event.continues_of_decisions mem rfl ⟨rfl, rfl⟩
  | proposeDissolution | voteDissolution | proposeLateFee | voteLateFee =>
      exact (Circle.isDecision_of_mem_settle _ _ mem).continues
  | processPayout =>
      rcases List.mem_cons.1 mem with rfl | completed
      · exact ⟨rfl, rfl⟩
      · split at completed
        · obtain rfl := List.mem_singleton.1 completed
          rename_i isPaid _ _
          subst isPaid
          exact ⟨rfl, rfl⟩
        · simp at completed
  | handOver | finalizeAgain | withdrawNothing => simp [Circle.answering] at mem
  | _ =>
      obtain rfl := List.mem_singleton.1 mem
      exact ⟨rfl, rfl⟩

theorem Swapping.record?_other {former successor : Address}
    (swapping : Swapping moment books circle former successor change) {other : Nat}
    (apart : other ≠ circle.id) (address : Address) :
    change.records.record? other address = books.records.record? other address := by
  cases swapping with
  | same => rfl
  | renamed _ _ _ _ _ _ areRecords =>
      subst areRecords
      simp [Records.record?_reindex, Records.record?_update, Records.record?_enroll,
        Records.record?_remove, apart]

/-- A call on a circle changes no record of another circle. -/
theorem Deed.record?_other (deed : Deed host moment books circle caller operation change)
    {other : Nat} (apart : other ≠ circle.id) (address : Address) :
    change.records.record? other address = books.records.record? other address := by
  cases deed with
  | swap _ swapping | swapByAdmin swapping => exact swapping.record?_other apart address
  | join => simp [Records.record?_enroll, apart]
  | kick _ _ _ _ _ _ _ _ _ _ areRecords =>
      subst areRecords
      simp [Records.record?_remove, Records.record?_reindex, apart]
  | eject _ _ recorded _ areRecords =>
      subst areRecords
      rw [Records.record?_update, if_neg (by simp [apart])]
      simpa using fun _ _ _ => Records.isOf_of_record? recorded
  | requestExit _ _ recorded =>
      rw [Records.record?_update, if_neg (by simp [apart])]
      simpa using fun _ _ _ => Records.isOf_of_record? recorded
  | fillVacancy _ _ _ _ _ _ _ _ _ areRecords =>
      subst areRecords
      simp [Records.record?_enroll, Records.record?_reindex, Records.record?_update, apart]
  | contribute =>
      rw [Records.record?_update _ _ _ _ _ (by simp), if_neg (by simp [apart])]
  | _ => rfl

end

end SavingsCircle
