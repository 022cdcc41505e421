import SavingsCircle.Proofs.Circle.Tally
import SavingsCircle.Proofs.Custody.Payment

/-!
# What calls reckon

Amounts are checked when they come in, and no sum of them is checked afterwards. Here every addition
and subtraction of amounts that a call makes is listed with what is kept of it and what it is
exactly (`Operation.reckonings`). Whether all amounts that are kept stay safe is decided by the
exact results alone (`Decides`): differences of safe amounts are safe, and none of them is taken
below zero unless it is meant to stop there, so that nothing but a sum can leave the safe range.
Each call is gone through once (`Deed.decides`, `Performs.decides`). What is left of a payout when
the fee is taken off is an integer that nothing keeps, and not among the reckonings.
-/

namespace SavingsCircle

/-- An addition or subtraction of amounts: what is kept of it, and what it is exactly. -/
structure Reckoning where
  kept : Amount
  exact : Int
  deriving DecidableEq

namespace Reckoning

def plus (a b : Amount) : Reckoning := ⟨Amount.add a b, (a : Int) + b⟩

def minus (a b : Amount) : Reckoning := ⟨Amount.sub a b, (a : Int) - b⟩

/-- What is left of an amount when as much as there is of another is taken off. -/
def less (a b : Amount) : Reckoning := ⟨Amount.sub a b, ((a - b : Nat) : Int)⟩

def Fits (reckoning : Reckoning) : Prop := reckoning.exact ≤ Number.maxSafe

/-- What is kept is the exact result, which therefore is not negative. -/
def IsExact (reckoning : Reckoning) : Prop := (reckoning.kept : Int) = reckoning.exact

instance (reckoning : Reckoning) : Decidable reckoning.Fits :=
  inferInstanceAs (Decidable (_ ≤ _))

variable {a b : Amount}

theorem fits_plus_iff : (plus a b).Fits ↔ Amount.add a b ≤ Number.maxSafe := by
  rw [Amount.add, Amount.hold_le_maxSafe_iff, Fits, plus]
  exact Int.ofNat_le

theorem isExact_plus (safe : Amount.add a b ≤ Number.maxSafe) : (plus a b).IsExact := by
  rw [IsExact, plus, Amount.add_eq_of_le safe]
  exact Int.natCast_add a b

theorem fits_minus (safe : a ≤ Number.maxSafe) : (minus a b).Fits := by
  have small : (a : Int) ≤ Number.maxSafe := Int.ofNat_le.2 safe
  simp only [Fits, minus]
  omega

theorem isExact_minus (safe : a ≤ Number.maxSafe) (enough : b ≤ a) : (minus a b).IsExact := by
  rw [IsExact, minus, Amount.sub_eq safe]
  exact Int.ofNat_sub enough

theorem fits_less (safe : a ≤ Number.maxSafe) : (less a b).Fits :=
  Int.ofNat_le.2 (Nat.le_trans (Nat.sub_le a b) safe)

theorem isExact_less (safe : a ≤ Number.maxSafe) : (less a b).IsExact := by
  rw [IsExact, less, Amount.sub_eq safe]

end Reckoning

/-- The exact results of reckonings decide whether something is safe, and where it is safe all of
them are kept. -/
structure Decides (reckonings : List Reckoning) (safe : Prop) : Prop where
  iff : safe ↔ ∀ reckoning ∈ reckonings, reckoning.Fits
  exact : safe → ∀ reckoning ∈ reckonings, reckoning.IsExact

namespace Decides

open Reckoning

variable {reckoning : Reckoning} {reckonings others : List Reckoning} {P Q : Prop} {a b : Amount}

theorem nil (holds : P) : Decides [] P where
  iff := by simp [holds]
  exact := by simp

theorem congr (decides : Decides reckonings P) (same : Q ↔ P) : Decides reckonings Q where
  iff := same.trans decides.iff
  exact holds := decides.exact (same.1 holds)

/-- Reckonings that cannot go wrong decide nothing. -/
theorem of_forall (sure : ∀ reckoning ∈ reckonings, reckoning.Fits ∧ reckoning.IsExact)
    (holds : P) : Decides reckonings P where
  iff := iff_of_true holds fun reckoning mem => (sure reckoning mem).1
  exact _ reckoning mem := (sure reckoning mem).2

theorem cons (fits : reckoning.Fits) (isExact : reckoning.IsExact)
    (decides : Decides reckonings P) : Decides (reckoning :: reckonings) P where
  iff := by simp [decides.iff, fits]
  exact holds := List.forall_mem_cons.2 ⟨isExact, decides.exact holds⟩

theorem minus (safe : a ≤ Number.maxSafe) (enough : b ≤ a) (decides : Decides reckonings P) :
    Decides (Reckoning.minus a b :: reckonings) P :=
  decides.cons (fits_minus safe) (isExact_minus safe enough)

theorem less (safe : a ≤ Number.maxSafe) (decides : Decides reckonings P) :
    Decides (Reckoning.less a b :: reckonings) P :=
  decides.cons (fits_less safe) (isExact_less safe)

theorem plus (decides : Decides reckonings P) :
    Decides (Reckoning.plus a b :: reckonings) (Amount.add a b ≤ Number.maxSafe ∧ P) where
  iff := by rw [List.forall_mem_cons, fits_plus_iff, decides.iff]
  exact holds := List.forall_mem_cons.2 ⟨isExact_plus holds.1, decides.exact holds.2⟩

theorem part (decides : Decides reckonings P) (smaller : P → Amount.add a b ≤ Number.maxSafe) :
    Decides (Reckoning.plus a b :: reckonings) P :=
  decides.plus.congr (by simpa using smaller)

theorem plus_map {α : Type} (xs : List α) (amount : α → Amount) (b : Amount) :
    Decides (xs.map fun x => .plus (amount x) b)
      (∀ x ∈ xs, Amount.add (amount x) b ≤ Number.maxSafe) where
  iff := by simp only [List.forall_mem_map, fits_plus_iff]
  exact holds := List.forall_mem_map.2 fun x mem => isExact_plus (holds x mem)

theorem append (first : Decides reckonings P) (second : P → Decides others Q) :
    Decides (reckonings ++ others) (P ∧ Q) where
  iff := by
    rw [List.forall_mem_append, ← first.iff]
    exact and_congr_right fun holds => (second holds).iff
  exact holds := List.forall_mem_append.2 ⟨first.exact holds.1, (second holds.1).exact holds.2⟩

end Decides

namespace Amount

variable {a b : Amount}

theorem left_le_of_add_le (safe : add a b ≤ Number.maxSafe) : a ≤ Number.maxSafe :=
  Nat.le_trans (Nat.le_add_right a b) (add_eq_of_le safe ▸ safe)

theorem right_le_of_add_le (safe : add a b ≤ Number.maxSafe) : b ≤ Number.maxSafe :=
  Nat.le_trans (Nat.le_add_left b a) (add_eq_of_le safe ▸ safe)

theorem sub_le_maxSafe (safe : a ≤ Number.maxSafe) (b : Amount) : sub a b ≤ Number.maxSafe := by
  rw [sub_eq safe]
  exact Nat.le_trans (Nat.sub_le a b) safe

end Amount

namespace Circle

structure IsSafe (circle : Circle) : Prop where
  contribution : circle.contribution ≤ Number.maxSafe
  balance : circle.balance ≤ Number.maxSafe
  reserve : circle.reserve ≤ Number.maxSafe
  insurance : circle.insurance ≤ Number.maxSafe
  volume : circle.volume ≤ Number.maxSafe
  paidIn : ∀ seat ∈ circle.seats, seat.paidIn ≤ Number.maxSafe

instance (circle : Circle) : Decidable circle.IsSafe :=
  decidable_of_iff
    (circle.contribution ≤ Number.maxSafe ∧ circle.balance ≤ Number.maxSafe ∧
      circle.reserve ≤ Number.maxSafe ∧ circle.insurance ≤ Number.maxSafe ∧
      circle.volume ≤ Number.maxSafe ∧ ∀ seat ∈ circle.seats, seat.paidIn ≤ Number.maxSafe)
    ⟨fun ⟨contribution, balance, reserve, insurance, volume, paidIn⟩ =>
        ⟨contribution, balance, reserve, insurance, volume, paidIn⟩,
      fun h => ⟨h.contribution, h.balance, h.reserve, h.insurance, h.volume, h.paidIn⟩⟩

variable {circle : Circle}

theorem isSafe_settle (records : Records) :
    (circle.settle records).1.IsSafe ↔ circle.IsSafe := by
  obtain ⟨dissolves, votes, rate, proposed, proposalVotes, settled⟩ := circle.settle_eq records
  rw [settled]
  exact ⟨fun ⟨h₁, h₂, h₃, h₄, h₅, h₆⟩ => ⟨h₁, h₂, h₃, h₄, h₅, h₆⟩,
    fun ⟨h₁, h₂, h₃, h₄, h₅, h₆⟩ => ⟨h₁, h₂, h₃, h₄, h₅, h₆⟩⟩

def reckonContribution (circle : Circle) (now : Number) (seat : Seat) : List Reckoning :=
  let late := circle.lateFee now
  let due := Amount.add circle.contribution late
  [.plus circle.contribution late, .plus due circle.insuranceFee,
    .plus circle.balance (Amount.add due circle.insuranceFee), .plus circle.reserve late,
    .plus circle.insurance circle.insuranceFee, .plus seat.paidIn circle.contribution]

def reckonPayout (circle : Circle) (now : Number) : List Reckoning :=
  let late := min (circle.lateFee now) circle.reserve
  [.plus circle.contribution late,
    .plus (Amount.add circle.contribution late) (min circle.insuranceFee circle.insurance),
    .plus circle.volume circle.contribution, .minus circle.balance circle.contribution]

def reckonRemoval (circle : Circle) (treasury : Option Address) (penalty : Amount) (seat : Seat) :
    List Reckoning :=
  .minus seat.paidIn penalty ::
    if (if 0 < penalty then treasury else none).isSome then [.minus circle.balance seat.paidIn]
    else [.minus circle.balance (Amount.sub seat.paidIn penalty), .plus circle.reserve penalty]

def reckonRefund (circle : Circle) (seat : Seat) : List Reckoning :=
  [.less seat.paidIn (if seat.isPaidOut then circle.contribution else 0),
    .minus circle.balance (circle.refundable seat)]

def reckonRollover (circle : Circle) : List Reckoning :=
  (circle.seats.filter (·.isPaidOut)).map fun seat => .less seat.paidIn circle.contribution

def reckonAt (circle : Circle) (member : Address) (reckon : Seat → List Reckoning) :
    List Reckoning :=
  match circle.seat? member with
  | some (_, seat) => reckon seat
  | none => []

theorem reckonAt_eq {member : Address} {position : Nat} {seat : Seat}
    (seated : circle.seat? member = some (position, seat)) (reckon : Seat → List Reckoning) :
    circle.reckonAt member reckon = reckon seat := by
  rw [reckonAt, seated]

end Circle

/-- The reckonings of a call on a circle by the given caller. -/
def Operation.reckoningsOn (operation : Operation) (treasury : Option Address) (now : Number)
    (circle : Circle) (caller : Address) : List Reckoning :=
  match operation with
  | .contribute .. => circle.reckonAt caller (circle.reckonContribution now)
  | .processPayout .. => circle.reckonPayout now
  | .kick _ _ member amount =>
    match amount.safeNat? with
    | some penalty => circle.reckonAt member (circle.reckonRemoval treasury penalty)
    | none => []
  | .fillVacancy _ _ _ exiting => circle.reckonAt exiting circle.reckonRefund
  | .withdrawProRata .. => circle.reckonAt caller circle.reckonRefund
  | .rollover .. => circle.reckonRollover
  | .coverMember .. => [.minus circle.insurance circle.contribution]
  | _ => []

namespace Circle.IsSafe

variable {circle next : Circle}

theorem of_paid (safe : circle.IsSafe) (contribution : next.contribution = circle.contribution)
    (reserve : next.reserve = circle.reserve) (insurance : next.insurance = circle.insurance)
    (volume : next.volume = circle.volume) (balance : next.balance ≤ Number.maxSafe)
    (paidIn : ∀ seat ∈ next.seats, seat.paidIn ≤ Number.maxSafe) : next.IsSafe where
  contribution := contribution ▸ safe.contribution
  balance := balance
  reserve := reserve ▸ safe.reserve
  insurance := insurance ▸ safe.insurance
  volume := volume ▸ safe.volume
  paidIn := paidIn

theorem seat (safe : circle.IsSafe) {member : Address} {position : Nat} {seat : Seat}
    (seated : circle.seat? member = some (position, seat)) : seat.paidIn ≤ Number.maxSafe :=
  safe.paidIn seat (List.mem_of_getElem? (Circle.seat?_eq_some_iff.1 seated).2)

end Circle.IsSafe

section

variable {host : Host} {moment : Moment} {books : Books} {circle : Circle} {caller : Address}
variable {operation : Operation} {change : Change}

theorem Circle.IsSafe.decides_refund (safe : circle.IsSafe) {seat : Seat}
    (paidIn : seat.paidIn ≤ Number.maxSafe) (covered : circle.refundable seat ≤ circle.balance)
    {P : Prop} (holds : P) : Decides (circle.reckonRefund seat) P :=
  .less paidIn (.minus safe.balance covered (.nil holds))

/-- A contribution leaves the circle safe if the sums that it keeps are. -/
theorem Circle.IsSafe.decides_contribution (safe : circle.IsSafe) {position : Nat} {seat : Seat}
    (here : circle.seats[position]? = some seat) (now deadline : Number) :
    Decides (circle.reckonContribution now seat)
      (Circle.IsSafe
        { circle.updateSeat position fun seat =>
            { seat with
              hasContributed := true
              paidIn := Amount.add seat.paidIn circle.contribution } with
          balance := Amount.add circle.balance (Amount.add
            (Amount.add circle.contribution (circle.lateFee now)) circle.insuranceFee)
          reserve := Amount.add circle.reserve (circle.lateFee now)
          insurance := Amount.add circle.insurance circle.insuranceFee
          deadline }) := by
  have kept := (Decides.nil trivial).plus (a := seat.paidIn) (b := circle.contribution)
    |>.plus (a := circle.insurance) (b := circle.insuranceFee)
    |>.plus (a := circle.reserve) (b := circle.lateFee now)
    |>.plus (a := circle.balance) (b := Amount.add
      (Amount.add circle.contribution (circle.lateFee now)) circle.insuranceFee)
  -- What is paid in at once is a sum that goes into the balance, and so is the first part of it.
  have due := kept.part fun sums => Amount.right_le_of_add_le sums.1
  refine (due.part fun sums => Amount.left_le_of_add_le (Amount.right_le_of_add_le sums.1)).congr ?_
  constructor
  · intro next
    exact ⟨next.balance, next.reserve, next.insurance, next.paidIn _ (mem_modify here _), trivial⟩
  · rintro ⟨balance, reserve, insurance, paidIn, _⟩
    exact ⟨safe.contribution, balance, reserve, insurance, safe.volume,
      forall_mem_modify here safe.paidIn paidIn⟩

/-- A payout leaves the circle safe if the volume is. -/
theorem Circle.IsSafe.decides_payout (safe : circle.IsSafe) {position : Nat} {seat : Seat}
    (here : circle.seats[position]? = some seat) {now : Number}
    (covered : circle.payoutTarget now ≤ circle.balance) :
    Decides (circle.reckonPayout now) (circle.paySeat position).IsSafe := by
  have target := Nat.le_trans covered safe.balance
  have enough := Nat.le_trans (circle.contribution_le_payoutTarget safe.contribution now) covered
  have kept := (Decides.nil trivial).minus safe.balance enough
    |>.plus (a := circle.volume) (b := circle.contribution)
    |>.part fun _ => target
  refine (kept.part fun _ => Amount.left_le_of_add_le target).congr ?_
  constructor
  · intro next
    exact ⟨next.volume, trivial⟩
  · rintro ⟨volume, _⟩
    exact ⟨safe.contribution, Amount.sub_le_maxSafe safe.balance _, safe.reserve, safe.insurance,
      volume, forall_mem_modify here safe.paidIn (safe.paidIn seat (List.mem_of_getElem? here))⟩

/-- The step into the next cycle leaves the circle safe. -/
theorem Circle.IsSafe.decides_rollover (safe : circle.IsSafe) :
    Decides circle.reckonRollover circle.rollOver.IsSafe := by
  refine .of_forall ?_ ⟨safe.contribution, safe.balance, safe.reserve, safe.insurance,
    Nat.zero_le _, List.forall_mem_map.2 fun seat mem => ?_⟩
  · intro reckoning mem
    obtain ⟨seat, paid, rfl⟩ := List.mem_map.1 mem
    have small := safe.paidIn seat (List.mem_of_mem_filter paid)
    exact ⟨Reckoning.fits_less small, Reckoning.isExact_less small⟩
  · have small := safe.paidIn seat mem
    dsimp only
    split
    · exact Amount.sub_le_maxSafe small _
    · exact small

/-- The removal of a member leaves the circle safe if the reserve is, where the penalty stays in
it. -/
theorem Circle.IsSafe.decides_removal (safe : circle.IsSafe) {position : Nat} {seat : Seat}
    (here : circle.seats[position]? = some seat) {penalty outflow reserve : Amount}
    (owed : penalty ≤ seat.paidIn) {treasury fined : Option Address}
    (isFined : fined = if 0 < penalty then treasury else none)
    (isOutflow : outflow = if fined.isSome then seat.paidIn else Amount.sub seat.paidIn penalty)
    (covered : outflow ≤ circle.balance)
    (isReserve : reserve = if fined.isSome then circle.reserve
      else Amount.add circle.reserve penalty) :
    Decides (circle.reckonRemoval treasury penalty seat)
      (Circle.IsSafe
        { circle.removeSeat position with
          balance := Amount.sub circle.balance outflow
          reserve }) := by
  have small := safe.paidIn seat (List.mem_of_getElem? here)
  have others : ∀ other ∈ (circle.removeSeat position).seats, other.paidIn ≤ Number.maxSafe :=
    fun other mem => safe.paidIn other (List.mem_of_mem_eraseIdx mem)
  rw [Circle.reckonRemoval, ← isFined]
  by_cases forwarded : fined.isSome
  · rw [if_pos forwarded] at isOutflow isReserve ⊢
    subst isOutflow isReserve
    exact .minus small owed (.minus safe.balance covered (.nil
      (safe.of_paid rfl rfl rfl rfl (Amount.sub_le_maxSafe safe.balance _) others)))
  · rw [if_neg forwarded] at isOutflow isReserve ⊢
    subst isOutflow isReserve
    refine .minus small owed (.minus safe.balance covered ((Decides.nil trivial).plus.congr ?_))
    constructor
    · intro next
      exact ⟨next.reserve, trivial⟩
    · rintro ⟨reserve, _⟩
      exact ⟨safe.contribution, Amount.sub_le_maxSafe safe.balance _, reserve, safe.insurance,
        safe.volume, others⟩

theorem Swapping.isSafe {former successor : Address}
    (swapping : Swapping moment books circle former successor change) (safe : circle.IsSafe) :
    change.circle.IsSafe := by
  cases swapping with
  | same => exact safe
  | renamed _ _ _ _ _ isRenamed =>
      subst isRenamed
      exact safe.of_paid rfl rfl rfl rfl safe.balance (List.forall_mem_map.2 safe.paidIn)

theorem Deed.decides (safe : circle.IsSafe)
    (deed : Deed host moment books circle caller operation change) :
    Decides (operation.reckoningsOn books.treasury moment.now circle caller)
      change.circle.IsSafe := by
  cases deed with
  | swap _ swapping | swapByAdmin swapping => exact .nil (swapping.isSafe safe)
  | handOver | requestExit | finalizeAgain | finalize =>
      exact .nil (safe.of_paid rfl rfl rfl rfl safe.balance safe.paidIn)
  | eject | proposeDissolution | voteDissolution | proposeLateFee | voteLateFee =>
      refine .nil ((Circle.isSafe_settle _).2 ?_)
      exact safe.of_paid rfl rfl rfl rfl safe.balance safe.paidIn
  | join =>
      refine .nil (safe.of_paid rfl rfl rfl rfl safe.balance ?_)
      exact List.forall_mem_append.2 ⟨safe.paidIn, by simp [Seat.fresh]⟩
  | kick _ given seated owed _ isRefund isFined isOutflow covered isRemoved _ isKept =>
      subst isKept isRemoved isRefund
      rw [Operation.reckoningsOn, given]
      dsimp only
      rw [Circle.reckonAt_eq seated]
      exact (safe.decides_removal (Circle.seat?_eq_some_iff.1 seated).2 owed isFined isOutflow
        covered rfl).congr (Circle.isSafe_settle _)
  | fillVacancy _ _ seated _ _ _ isRefund covered isVacated _ isKept =>
      subst isKept isVacated isRefund
      rw [Operation.reckoningsOn, Circle.reckonAt_eq seated]
      refine safe.decides_refund (safe.seat seated) covered ((Circle.isSafe_settle _).2 ?_)
      have here := (Circle.seat?_eq_some_iff.1 seated).2
      exact safe.of_paid rfl rfl rfl rfl (Amount.sub_le_maxSafe safe.balance _)
        (forall_mem_modify here safe.paidIn (Nat.zero_le _))
  | processPayout _ _ active _ covered _ _ _ isPaid =>
      subst isPaid
      obtain ⟨_, here⟩ := Circle.seat?_eq_some_iff.1 (Circle.seat?_of_activeSeat? active).2
      exact safe.decides_payout here covered
  | rollover => exact safe.decides_rollover
  | contribute _ active _ _ isLateFee isInsuranceFee isAmount =>
      subst isAmount isLateFee isInsuranceFee
      have seated := (Circle.seat?_of_activeSeat? active).2
      rw [Operation.reckoningsOn, Circle.reckonAt_eq seated]
      exact safe.decides_contribution (Circle.seat?_eq_some_iff.1 seated).2 _ _
  | coverMember _ active _ _ funded isCovered =>
      subst isCovered
      have seated := (Circle.seat?_of_activeSeat? active).2
      have here := (Circle.seat?_eq_some_iff.1 seated).2
      have small := safe.seat seated
      exact .minus safe.insurance funded (.nil ⟨safe.contribution, safe.balance, safe.reserve,
        Amount.sub_le_maxSafe safe.insurance _, safe.volume,
        forall_mem_modify here safe.paidIn small⟩)
  | withdrawNothing _ seated nothing =>
      rw [Operation.reckoningsOn, Circle.reckonAt_eq seated]
      exact safe.decides_refund (safe.seat seated) (nothing ▸ Nat.zero_le _) safe
  | withdrawProRata _ seated isRefund _ covered =>
      subst isRefund
      rw [Operation.reckoningsOn, Circle.reckonAt_eq seated]
      have here := (Circle.seat?_eq_some_iff.1 seated).2
      refine safe.decides_refund (safe.seat seated) covered ?_
      exact safe.of_paid rfl rfl rfl rfl (Amount.sub_le_maxSafe safe.balance _)
        (forall_mem_modify here safe.paidIn (Nat.zero_le _))

structure Books.AllSafe (books : Books) : Prop where
  circles : ∀ circle ∈ books.circles, circle.IsSafe
  deposits : ∀ entry ∈ books.custody, entry.amount ≤ Number.maxSafe

instance (books : Books) : Decidable books.AllSafe :=
  decidable_of_iff
    ((∀ circle ∈ books.circles, circle.IsSafe) ∧
      ∀ entry ∈ books.custody, entry.amount ≤ Number.maxSafe)
    ⟨fun h => ⟨h.1, h.2⟩, fun h => ⟨h.circles, h.deposits⟩⟩

theorem Books.allSafe_opened (now : Number) : (Books.opened now).AllSafe :=
  ⟨List.forall_mem_nil _, List.forall_mem_nil _⟩

/-- The reckonings of a call. -/
def Operation.reckonings (operation : Operation) (host : Host) (moment : Moment) (books : Books) :
    List Reckoning :=
  match operation.circleId? with
  | some id =>
    match books.circle id, host.authorize operation.proof with
    | .ok circle, .ok caller =>
      operation.reckoningsOn books.treasury moment.now circle caller
    | _, _ => []
  | none =>
    match operation with
    | .deposit proof asset given =>
      match host.authorize proof, given.safeNat? with
      | .ok user, some amount =>
        (books.custody.filter (·.isOf user asset)).map fun entry => .plus entry.amount amount
      | _, _ => []
    | _ => []

/-- Books in which a circle is replaced are safe if the new circle is. -/
theorem Books.AllSafe.iff_of_replaced (safe : books.AllSafe) {after : Books} {next : Circle}
    (mem : circle ∈ books.circles) (same : next.id = circle.id)
    (circles : after.circles = (books.replaceCircle next).circles)
    (custody : after.custody = books.custody) : after.AllSafe ↔ next.IsSafe := by
  constructor
  · intro replaced
    apply replaced.circles
    rw [circles]
    exact Books.mem_replaceCircle_self mem same
  · intro isSafe
    refine ⟨?_, custody ▸ safe.deposits⟩
    rw [circles]
    refine List.forall_mem_map.2 fun other isOther => ?_
    split
    · exact isSafe
    · exact safe.circles other isOther

/-- A deposit leaves the books safe if the entry that it adds to is. -/
theorem Books.AllSafe.decides_deposit (safe : books.AllSafe) (user : Address) (asset : Asset)
    {amount : Amount} (small : amount ≤ Number.maxSafe) :
    Decides ((books.custody.filter (·.isOf user asset)).map fun entry => .plus entry.amount amount)
      (Books.AllSafe { books with custody := books.addDeposit user asset amount }) := by
  refine (Decides.plus_map _ CustodyEntry.amount amount).congr ?_
  constructor
  · intro next entry mem
    obtain ⟨isIn, theirs⟩ := List.mem_filter.1 mem
    have grown : { entry with amount := Amount.add entry.amount amount } ∈
        books.addDeposit user asset amount := by
      rw [Books.addDeposit, if_pos (List.any_eq_true.2 ⟨entry, isIn, theirs⟩)]
      exact List.mem_map.2 ⟨entry, isIn, if_pos theirs⟩
    exact next.deposits _ grown
  · intro sums
    refine ⟨safe.circles, ?_⟩
    dsimp only [Books.addDeposit]
    split
    · refine List.forall_mem_map.2 fun entry isIn => ?_
      split
      · next theirs => exact sums entry (List.mem_filter.2 ⟨isIn, theirs⟩)
      · exact safe.deposits entry isIn
    · refine List.forall_mem_append.2 ⟨safe.deposits, ?_⟩
      rw [List.forall_mem_singleton]
      exact small

theorem Performs.decides {effect : Effect} (safe : books.AllSafe)
    (performs : Performs host moment books operation effect) :
    Decides (operation.reckonings host moment books) effect.books.AllSafe := by
  cases performs with
  | claimProtocol | adminAction | setProtocolFee => exact .nil ⟨safe.circles, safe.deposits⟩
  | createCircle _ priced _ _ _ _ _ _ _ isCircle =>
      subst isCircle
      refine .nil ⟨List.forall_mem_append.2 ⟨safe.circles, ?_⟩, safe.deposits⟩
      rw [List.forall_mem_singleton]
      exact ⟨Number.safeNat?_le priced, Nat.zero_le _, Nat.zero_le _, Nat.zero_le _,
        Nat.zero_le _, by simp⟩
  | deposit caller given =>
      simp only [Operation.reckonings, Operation.circleId?, caller, given]
      exact safe.decides_deposit _ _ (Number.safeNat?_le given)
  | emergencyWithdraw =>
      exact .nil ⟨safe.circles, fun entry mem => safe.deposits entry (List.mem_of_mem_filter mem)⟩
  | byAdmin named found caller _ deed =>
      have mem := Books.mem_of_circle found
      simp only [Operation.reckonings, named, found, caller]
      exact (deed.decides (safe.circles _ mem)).congr
        (safe.iff_of_replaced mem deed.lasts.id rfl rfl)
  | byMember named found caller _ deed =>
      have mem := Books.mem_of_circle found
      simp only [Operation.reckonings, named, found, caller]
      exact (deed.decides (safe.circles _ mem)).congr
        (safe.iff_of_replaced mem deed.lasts.id rfl rfl)

end

end SavingsCircle
