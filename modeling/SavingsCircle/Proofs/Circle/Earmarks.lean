import Mathlib.Algebra.Order.BigOperators.Group.List
import SavingsCircle.Proofs.Circle.Account
import SavingsCircle.Proofs.Circle.Backing

/-!
# What is earmarked

The reserve and the insurance are parts of the balance only as long as payouts, refunds and
penalties take no more than has been contributed and covered: the surcharges that a contribution
brings go into the balance and into the earmarks alike, and everything else that leaves the balance
is taken from the contributions (`Circle.Earmarked`). The check before a payout does not see to
that. It asks for the surcharges on one contribution, and for the late one only while the clock is
past the deadline, so a payout to someone who has not contributed can be made with what is
earmarked.
-/

namespace SavingsCircle

namespace Event

/-- What an event takes out of what was contributed and covered. -/
def outlay : Event → Amount
  | .payoutProcessed _ _ gross _ _ => gross
  | .vacancyFilled _ _ _ refund => refund
  | .proRataWithdrawn _ _ amount => amount
  | .kicked _ _ refund penalty => refund + penalty
  | _ => 0

/-- Whether an event tells of a contribution that is made or covered. -/
def isCredit : Event → Bool
  | .contributionReceived .. | .insuranceCoverage .. => true
  | _ => false

/-- What is contributed or covered is a contribution, apart from the surcharges. -/
def Priced (contribution : Amount) : Event → Prop
  | .contributionReceived _ _ amount lateFee insuranceFee =>
    amount = contribution + lateFee + insuranceFee
  | .insuranceCoverage _ _ amount => amount = contribution
  | _ => True

variable {contribution : Amount} {event : Event} {events : List Event}

/-- But for contributions and outlays, an event does to the balance what it does to the earmarks. -/
theorem Priced.adds_balance (priced : event.Priced contribution) (named : Bool) :
    event.adds named .balance + event.outlay =
      event.adds named .reserve + event.adds named .insurance +
        if event.isCredit then (contribution : Int) else 0 := by
  cases event with
  | contributionReceived circle member amount lateFee insuranceFee =>
      have whole : amount = contribution + lateFee + insuranceFee := priced
      simp only [adds, outlay, isCredit, whole, if_true]
      omega
  | insuranceCoverage circle member amount =>
      have whole : amount = contribution := priced
      simp only [adds, outlay, isCredit, whole, if_true]
      omega
  | kicked circle member refund penalty =>
      simp only [adds, outlay, isCredit]
      cases named <;> simp
  | _ => simp [adds, outlay, isCredit]

theorem sum_adds_balance (priced : ∀ event ∈ events, event.Priced contribution) (named : Bool) :
    (events.map (adds named .balance)).sum + ((events.map outlay).sum : Nat) =
      (events.map (adds named .reserve)).sum + (events.map (adds named .insurance)).sum +
        (contribution * events.countP isCredit : Nat) := by
  induction events with
  | nil => simp
  | cons event events ih =>
      rw [List.forall_mem_cons] at priced
      have first := priced.1.adds_balance named
      have others := ih priced.2
      have credits : contribution * (event :: events).countP isCredit =
          contribution * events.countP isCredit + if event.isCredit then contribution else 0 := by
        rw [List.countP_cons, Nat.mul_add]
        split <;> simp
      rw [List.map_cons, List.map_cons, List.map_cons, List.map_cons, List.sum_cons, List.sum_cons,
        List.sum_cons, List.sum_cons]
      -- Split before the arithmetic: what a credit is worth is a product there.
      cases credit : event.isCredit with
      | true =>
          rw [credit, if_pos rfl] at first credits
          lia
      | false =>
          rw [credit, if_neg Bool.false_ne_true] at first credits
          lia

theorem priced_of_decisions {kept : Circle} {records : Records} {done : Event}
    (priced : done.Priced contribution) :
    ∀ event ∈ (kept.settle records).2 ++ [done], event.Priced contribution :=
  kept.forall_mem_decided records (fun _ decision => by cases decision <;> exact trivial) priced

end Event

/-- The events of a call on a circle are priced. -/
theorem Deed.priced {host : Host} {moment : Moment} {books : Books} {circle : Circle}
    {caller : Address} {operation : Operation} {change : Change} (after : change.circle.IsExact)
    (deed : Deed host moment books circle caller operation change) :
    ∀ event ∈ change.events, event.Priced circle.contribution := by
  intro event mem
  have exactly := after .balance
  cases deed with
  | kick | fillVacancy | eject => exact Event.priced_of_decisions (by exact trivial) event mem
  | proposeDissolution | voteDissolution | proposeLateFee | voteLateFee =>
      cases Circle.isDecision_of_mem_settle _ _ mem <;> exact trivial
  | swap _ swapping | swapByAdmin swapping =>
      cases swapping with
      | same => simp [Circle.answering] at mem
      | renamed =>
          obtain rfl := List.mem_singleton.1 mem
          exact trivial
  | processPayout =>
      rcases List.mem_cons.1 mem with rfl | completed
      · exact trivial
      · split at completed
        · obtain rfl := List.mem_singleton.1 completed
          exact trivial
        · simp at completed
  | @contribute _ _ _ _ _ lateFee insuranceFee amount _ _ _ _ _ _ isAmount =>
      obtain rfl := List.mem_singleton.1 mem
      have balance : Amount.add circle.balance amount = circle.balance + amount :=
        Amount.add_eq_of_le exactly
      have small : amount ≤ Number.maxSafe :=
        Nat.le_trans (Nat.le_add_left ..) (balance ▸ exactly)
      rw [isAmount] at small
      exact isAmount.trans (Amount.add_add_eq_of_le small)
  | handOver | finalizeAgain | withdrawNothing => simp [Circle.answering] at mem
  | _ =>
      obtain rfl := List.mem_singleton.1 mem
      first | exact trivial | rfl

/-- Apart from the contributions made and covered, less what was taken out of them, the balance is
what is earmarked. -/
def Circle.Earmarked (circle : Circle) (past : List Event) : Prop :=
  circle.balance + (past.map Event.outlay).sum =
    circle.reserve + circle.insurance + circle.contribution * past.countP Event.isCredit

/-- A call on a circle continues this by its events. -/
theorem Deed.earmarked {host : Host} {moment : Moment} {books : Books} {circle : Circle}
    {caller : Address} {operation : Operation} {change : Change} {past : List Event}
    (sound : circle.Sound) (before : circle.IsExact) (after : change.circle.IsExact)
    (earmarked : circle.Earmarked past)
    (deed : Deed host moment books circle caller operation change) :
    change.circle.Earmarked (past ++ change.events) := by
  have added := Event.sum_adds_balance (deed.priced after) books.treasury.isSome
  have balance := deed.fund_eq sound before after .balance
  have reserve := deed.fund_eq sound before after .reserve
  have insurance := deed.fund_eq sound before after .insurance
  simp only [Circle.fund] at balance reserve insurance
  rw [Circle.Earmarked] at earmarked ⊢
  rw [List.map_append, List.sum_append, List.countP_append, deed.lasts.contribution, Nat.mul_add]
  lia

/-- That the balance is so made up is an invariant of circles whose amounts are exact. -/
theorem circleInvariant_earmarked (host : Host) :
    CircleInvariant host Circle.IsExact fun circle _ past =>
      circle.Sound ∧ circle.IsExact ∧ circle.Earmarked past where
  congr holds _ := holds
  founded := by
    intro circle records isNew
    refine ⟨isNew.sound, fun fund => ?_, ?_⟩
    · cases fund <;> simp [Circle.fund, isNew.balance, isNew.reserve, isNew.insurance]
    · simp [Circle.Earmarked, isNew.balance, isNew.reserve, isNew.insurance]
  deed := by
    rintro moment books circle caller operation change past ⟨sound, before, earmarked⟩ deed after
    exact ⟨deed.sound sound, after, deed.earmarked sound before after earmarked⟩

/-- A cover is accepted only if the insurance holds a contribution. -/
theorem contribution_le_insurance {host : Host} {moment : Moment} {books : Books} {circle : Circle}
    {proof : Option Proof} {id : Number} {member : Address} {effect : Effect}
    (found : books.circle id = .ok circle)
    (covers : (Operation.coverMember proof id member).perform host moment books = .ok effect) :
    circle.contribution ≤ circle.insurance := by
  cases performs_of_perform covers with
  | byAdmin named other _ _ deed =>
      obtain rfl := Option.some.inj named
      obtain rfl := Except.ok.inj (found.symm.trans other)
      cases deed with
      | coverMember _ _ _ _ funded => exact funded
  | byMember named _ _ belongs => simp [Operation.isAdministrative] at belongs

/-- In every world of a run whose amounts are exact, the balance of a circle covers what is
earmarked if and only if what was taken out of contributions is no more than what was contributed
and covered. Where no member goes by the reserved address it does so for as long as nobody was paid
out who had neither contributed nor been covered. Then a cover that is accepted releases money that
is there. -/
theorem earmarks_are_backed_iff {host : Host} {now clock : Number} {nonce : String} {draws : Draws}
    {steps : List Step}
    (isExact : ∀ passage ∈ runCourse host steps (.opened now clock nonce draws),
      ∀ circle ∈ passage.world.books.circles, circle.IsExact) :
    ∀ world, Visits host (.opened now clock nonce draws) steps world →
      ∀ circle ∈ world.books.circles, ∀ past, past = history circle.id world.trail.events →
        (circle.reserve + circle.insurance ≤ circle.balance ↔
          (past.map Event.outlay).sum ≤ circle.contribution * past.countP Event.isCredit) ∧
        ((∀ passage ∈ runCourse host steps (.opened now clock nonce draws),
            ∀ circle ∈ passage.world.books.circles, Directory.reserved ∉ circle.members) →
          (Funding.of past).unfunded = 0 → circle.reserve + circle.insurance ≤ circle.balance) ∧
        ∀ proof id member effect, world.books.circle id = .ok circle →
          (Operation.coverMember proof id member).perform host world.moment world.books =
            .ok effect →
          (past.map Event.outlay).sum ≤ circle.contribution * past.countP Event.isCredit →
          circle.contribution ≤ circle.balance := by
  rintro world visits circle mem past rfl
  obtain ⟨_, _, earmarked⟩ := (circleInvariant_earmarked host).holds isExact visits mem
  rw [Circle.Earmarked] at earmarked
  refine ⟨?_, ?_, ?_⟩
  · constructor <;> intro covers <;> lia
  · intro unreserved funded
    have plain : ∀ passage ∈ runCourse host steps (.opened now clock nonce draws),
        AllFit Circle.IsPlain passage := by
      intro passage isPassage circle mem
      have exact := isExact passage isPassage circle mem
      exact ⟨unreserved passage isPassage circle mem, exact .balance, exact .reserve,
        exact .insurance⟩
    obtain ⟨_, _, backed⟩ := (circleInvariant_backed host).holds plain visits mem
    have funds := backed.funds
    rw [funded, Nat.zero_mul] at funds
    lia
  · intro proof id member effect found covers outlays
    have funded := contribution_le_insurance found covers
    lia

/-- One of two members contributes and the insurance covers the other. -/
theorem earmarks_are_backed_of_cover :
    let proof := Host.sample.proofOf
    let id := Number.ofNat 1
    let steps : List Step :=
      [.mint "USDC" "a" (.ofNat 200),
        .call (.createCircle (proof "a")
          { CircleTerms.sample with insuranceFeeRate := some (.ofNat 10000) }) [],
        .call (.join (proof "a") id) [], .call (.join (proof "b") id) [],
        .call (.contribute (proof "a") id) []]
    let world := (runAll Host.sample steps World.sample).1
    (∀ passage ∈ runCourse Host.sample steps World.sample,
        ∀ circle ∈ passage.world.books.circles, circle.IsExact) ∧
      ∃ circle effect, world.books.circle id = .ok circle ∧
        (Operation.coverMember (proof "a") id "b").perform Host.sample world.moment world.books =
          .ok effect ∧
        circle.reserve + circle.insurance ≤ circle.balance ∧
        circle.contribution ≤ circle.balance := by
  intro proof id steps world
  have isExact : ∀ passage ∈ runCourse Host.sample steps World.sample,
      ∀ circle ∈ passage.world.books.circles, circle.IsExact := by
    decide +kernel
  have unreserved : ∀ passage ∈ runCourse Host.sample steps World.sample,
      ∀ circle ∈ passage.world.books.circles, Directory.reserved ∉ circle.members := by
    decide +kernel
  have isCircle : (world.books.circle id).toOption.map (fun circle =>
      (Funding.of (history circle.id world.trail.events)).unfunded) = some 0 := by
    decide +kernel
  have isEffect : ((Operation.coverMember (proof "a") id "b").perform Host.sample world.moment
      world.books).toOption.map (fun _ => true) = some true := by
    decide +kernel
  obtain ⟨circle, found, funded⟩ := exists_ok_of_map_toOption isCircle
  obtain ⟨effect, performed, _⟩ := exists_ok_of_map_toOption isEffect
  obtain ⟨exactly, backed, covered⟩ :=
    earmarks_are_backed_iff isExact world (.inl rfl) circle (Books.mem_of_circle found) _ rfl
  have covers := backed unreserved funded
  exact ⟨isExact, circle, effect, found, performed, covers,
    covered _ _ _ _ found performed (exactly.1 covers)⟩

/-- The reserve holds the surcharge on a late contribution, which moves the deadline. Both members
are then paid out, although only one has contributed: the second payout takes the surcharge. -/
theorem earmarks_exceed_balance :
    let proof := Host.sample.proofOf
    let id := Number.ofNat 1
    let steps : List Step :=
      [.mint "USDC" "a" (.ofNat 200),
        .call (.createCircle (proof "a")
          { CircleTerms.sample with lateFeeRate := some (.ofNat 10000) }) [],
        .call (.join (proof "a") id) [], .call (.join (proof "m") id) [],
        .call (.finalize (proof "a") id) [], .advance (.ofNat 604801),
        .call (.contribute (proof "a") id) [], .call (.processPayout (proof "a") id "m") [],
        .call (.processPayout (proof "a") id "a") []]
    let world := (runAll Host.sample steps World.sample).1
    (world.books.circles.map fun circle => (circle.balance, circle.reserve, circle.insurance)) =
        [(0, 100, 0)] ∧
      ¬∀ circle ∈ world.books.circles, circle.reserve + circle.insurance ≤ circle.balance := by
  intro proof id steps world
  constructor
  · decide +kernel
  · decide +kernel

end SavingsCircle
