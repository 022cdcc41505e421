import SavingsCircle.Proofs.Circle.Withdrawals
import SavingsCircle.Proofs.Number.Rounding
import SavingsCircle.Proofs.Run.Batch
import SavingsCircle.Proofs.Service.Reckoning

/-!
# What falls due

A circle settles with its members one by one: by payouts in a cycle, by the contributions to it, and
by withdrawals once it is dissolved. What entitles a member to settle, and what is transferred then,
does not depend on which other members have settled before (`Due.claims_settled_iff`,
`Due.transfers_settled`). So two calls for different members can be exchanged (`Due.exchange`), and
from this any order of a batch does the same to the books and asks for the same transfers
(`Due.performAll_perm`).
-/

namespace SavingsCircle

/-- What falls due between a circle and its members. -/
inductive Due where
  | payout
  | contribution
  | withdrawal

/-- A call for a member, and the proof that it comes with. -/
structure Errand where
  proof : Option Proof
  member : Address

/-- What an effect asks for besides the books: its transfers, and a date if it records anything. -/
def Effect.asks (effect : Effect) : List Transfer × Bool :=
  (effect.transfers, effect.events.isEmpty)

def Effect.completes (effect : Effect) : Bool :=
  match effect.receipt with
  | .settled (.payout _ _ _ _ complete) => complete
  | _ => false

namespace Due

def operation (due : Due) (id : Number) (errand : Errand) : Operation :=
  match due with
  | .payout => .processPayout errand.proof id errand.member
  | .contribution => .contribute errand.proof id
  | .withdrawal => .withdrawProRata errand.proof id

def caller (due : Due) (circle : Circle) (member : Address) : Address :=
  match due with
  | .payout => circle.admin
  | .contribution | .withdrawal => member

/-- Whether a proof is one for the member. The administrator gives the proof for a payout. -/
def IsFor (due : Due) (host : Host) (errand : Errand) : Prop :=
  match due with
  | .payout => True
  | .contribution | .withdrawal => host.authorize errand.proof = .ok errand.member

/-- What entitles a member to settle, apart from what the circle holds. -/
def Entitles (due : Due) (books : Books) (circle : Circle) (member : Address) (seat : Seat) :
    Prop :=
  match due with
  | .payout =>
    circle.isDissolved = false ∧ circle.payoutQueue ≠ [] ∧
      circle.isEjected books.records member = false ∧ seat.isPaidOut = false ∧
      (Amount.share circle.contribution books.feeRate = 0 ∨ books.treasury.isSome)
  | .contribution =>
    circle.isDissolved = false ∧ circle.isEjected books.records member = false ∧
      seat.hasContributed = false ∧ (books.records.record? circle.id member).isSome
  | .withdrawal => circle.isDissolved = true

def target (due : Due) (now : Number) (circle : Circle) (seat : Seat) : Amount :=
  match due with
  | .payout => circle.payoutTarget now
  | .contribution => 0
  | .withdrawal => circle.refundable seat

/-- What a contribution comes to. -/
def toll (circle : Circle) (now : Number) : Amount :=
  Amount.add (Amount.add circle.contribution (circle.lateFee now)) circle.insuranceFee

/-- The transfers of the call. -/
def transfers (due : Due) (host : Host) (now : Number) (books : Books) (circle : Circle)
    (member : Address) (seat : Seat) : List Transfer :=
  match due with
  | .payout =>
    let fee := Amount.share circle.contribution books.feeRate
    ⟨circle.asset, host.custody, member, .ofInt (circle.contribution - fee)⟩ ::
      (if 0 < fee then books.treasury else none).toList.map fun treasury =>
        ⟨circle.asset, host.custody, treasury, .ofNat fee⟩
  | .contribution => [⟨circle.asset, member, host.custody, .ofNat (toll circle now)⟩]
  | .withdrawal => circle.payOut host member (circle.refundable seat)

def isSilent (due : Due) (circle : Circle) (seat : Seat) : Bool :=
  match due with
  | .payout | .contribution => false
  | .withdrawal => circle.refundable seat = 0

def mark (due : Due) (circle : Circle) (seat : Seat) : Seat :=
  match due with
  | .payout => { seat with isPaidOut := true }
  | .contribution =>
    { seat with
      hasContributed := true
      paidIn := Amount.add seat.paidIn circle.contribution }
  | .withdrawal => if circle.refundable seat = 0 then seat else { seat with paidIn := 0 }

def balanceAfter (due : Due) (now : Number) (circle : Circle) (seat : Seat) : Amount :=
  match due with
  | .payout => Amount.sub circle.balance circle.contribution
  | .contribution => Amount.add circle.balance (toll circle now)
  | .withdrawal => Amount.sub circle.balance (circle.refundable seat)

/-- The circle once a member has settled. -/
def settled (due : Due) (now : Number) (circle : Circle) (position : Nat) (seat : Seat) : Circle :=
  let marked :=
    { circle.updateSeat position (due.mark circle) with
      balance := due.balanceAfter now circle seat }
  match due with
  | .payout =>
    { marked with
      payouts := circle.payouts + 1
      volume := Amount.add circle.volume circle.contribution }
  | .contribution =>
    { marked with
      reserve := Amount.add circle.reserve (circle.lateFee now)
      insurance := Amount.add circle.insurance circle.insuranceFee
      deadline := now.add (.ofNat circle.cycleDuration) }
  | .withdrawal => marked

/-- The member records once a member has settled. -/
def recordsAfter (due : Due) (now : Number) (books : Books) (circle : Circle)
    (member : Address) : Records :=
  match due with
  | .contribution =>
    books.records.update circle.id member fun record =>
      { record with
        contributionCount := record.contributionCount + 1
        lastContributionAt := now }
  | .payout | .withdrawal => books.records

def booksAfter (due : Due) (now : Number) (books : Books) (circle : Circle) (member : Address)
    (position : Nat) (seat : Seat) : Books :=
  { books.replaceCircle (due.settled now circle position seat) with
    records := due.recordsAfter now books circle member
    lastActiveAt :=
      match due with
      | .payout => now
      | .contribution | .withdrawal => books.lastActiveAt }

/-- A member who can settle if the circle holds enough. -/
structure Claims (due : Due) (host : Host) (books : Books) (circle : Circle) (errand : Errand)
    (position : Nat) (seat : Seat) : Prop where
  caller : host.authorize errand.proof = .ok (due.caller circle errand.member)
  seated : circle.seat? errand.member = some (position, seat)
  entitled : due.Entitles books circle errand.member seat

/-- A circle in which nothing is rounded and nobody is late. -/
structure Ready (due : Due) (now : Number) (circle : Circle) : Prop where
  indexed : circle.Indexed
  exact : due ≠ .contribution → circle.balance ≤ Number.maxSafe
  punctual : due = .contribution → circle.deadline.lt now = false ∧ now.IsValue

/-- What a call does by which a member settles. -/
structure Settles (due : Due) (host : Host) (moment : Moment) (books : Books) (circle : Circle)
    (errand : Errand) (position : Nat) (seat : Seat) (effect : Effect) : Prop where
  draws : effect.draws = moment.draws
  transfers : effect.transfers = due.transfers host moment.now books circle errand.member seat
  silent : effect.events.isEmpty = due.isSilent circle seat
  completes : effect.completes = (match due with
    | .payout => (due.settled moment.now circle position seat).isCycleComplete books.records
    | .contribution | .withdrawal => false)
  books : effect.books = due.booksAfter moment.now books circle errand.member position seat

section

variable {due : Due} {host : Host} {moment : Moment} {books : Books} {circle : Circle} {id : Number}
variable {errand : Errand} {position : Nat} {seat : Seat} {effect : Effect}

theorem updateSeat_congr (change other : Seat → Seat)
    (here : circle.seats[position]? = some seat) (same : change seat = other seat) :
    circle.updateSeat position change = circle.updateSeat position other := by
  simp only [Circle.updateSeat, List.modify_eq_set_getElem?, here, Option.map_eq_map,
    Option.map_some, same]

theorem settled_withdrawal_of_empty (safe : circle.balance ≤ Number.maxSafe)
    (here : circle.seats[position]? = some seat) (empty : circle.refundable seat = 0)
    (now : Number) : Due.withdrawal.settled now circle position seat = circle := by
  have marked : circle.updateSeat position (Due.withdrawal.mark circle) = circle := by
    rw [updateSeat_congr (Due.withdrawal.mark circle) id here (if_pos empty), Circle.updateSeat,
      List.modify_id]
  rw [settled, marked, balanceAfter, empty, Amount.sub_eq safe]
  rfl

theorem settled_withdrawal (here : circle.seats[position]? = some seat)
    (some : circle.refundable seat ≠ 0) (now : Number) :
    Due.withdrawal.settled now circle position seat =
      { circle.updateSeat position fun seat => { seat with paidIn := 0 } with
        balance := Amount.sub circle.balance (circle.refundable seat) } := by
  rw [settled, updateSeat_congr _ (fun seat => { seat with paidIn := 0 }) here (if_neg some)]
  rfl

/-- A payout that is not refused is for a member who can be paid, and pays. -/
theorem settles_of_payout (found : books.circle id = .ok circle)
    (performed : (Due.payout.operation id errand).perform host moment books = .ok effect) :
    ∃ position seat, Due.payout.Claims host books circle errand position seat ∧
      Due.payout.target moment.now circle seat ≤ circle.balance ∧
      Due.payout.Settles host moment books circle errand position seat effect := by
  obtain ⟨change, caller, deed, rfl⟩ := deed_of_administrator rfl rfl found performed
  cases deed with
  | processPayout isOpen queued active unpaid covered isFee isNet routed isPaid completes =>
      subst isFee isNet isPaid completes
      obtain ⟨takesPart, seated⟩ := Circle.seat?_of_activeSeat? active
      exact ⟨_, _, ⟨caller, seated, isOpen, queued, takesPart, unpaid, routed⟩, covered, rfl, rfl,
        rfl, rfl, rfl⟩

/-- A contribution that is not refused is from a member who can contribute, and contributes. -/
theorem settles_of_contribution (accepted : host.authorize errand.proof = .ok errand.member)
    (found : books.circle id = .ok circle)
    (performed : (Due.contribution.operation id errand).perform host moment books = .ok effect) :
    ∃ position seat, Due.contribution.Claims host books circle errand position seat ∧
      Due.contribution.target moment.now circle seat ≤ circle.balance ∧
      Due.contribution.Settles host moment books circle errand position seat effect := by
  obtain ⟨_, change, caller, deed, rfl⟩ := deed_of_member rfl rfl found performed
  obtain rfl := Except.ok.inj (accepted.symm.trans caller)
  cases deed with
  | contribute isOpen active unpaid recorded isLateFee isInsuranceFee isAmount =>
      subst isAmount isLateFee isInsuranceFee
      obtain ⟨takesPart, seated⟩ := Circle.seat?_of_activeSeat? active
      exact ⟨_, _, ⟨caller, seated, isOpen, takesPart, unpaid, by simp [recorded]⟩,
        Nat.zero_le _, rfl, rfl, rfl, rfl, rfl⟩

/-- A withdrawal that is not refused is by a member who can withdraw, and withdraws. -/
theorem settles_of_withdrawal (accepted : host.authorize errand.proof = .ok errand.member)
    (found : books.circle id = .ok circle) (safe : circle.balance ≤ Number.maxSafe)
    (performed : (Due.withdrawal.operation id errand).perform host moment books = .ok effect) :
    ∃ position seat, Due.withdrawal.Claims host books circle errand position seat ∧
      Due.withdrawal.target moment.now circle seat ≤ circle.balance ∧
      Due.withdrawal.Settles host moment books circle errand position seat effect := by
  obtain ⟨_, change, caller, deed, rfl⟩ := deed_of_member rfl rfl found performed
  obtain rfl := Except.ok.inj (accepted.symm.trans caller)
  cases deed with
  | withdrawNothing dissolved seated empty =>
      have here := (Circle.seat?_eq_some_iff.1 seated).2
      have covered := Nat.le_trans (Nat.le_of_eq empty) (Nat.zero_le circle.balance)
      refine ⟨_, _, ⟨caller, seated, dissolved⟩, covered, rfl, ?_, ?_, rfl, ?_⟩
      · simp [transfers, Circle.payOut, empty, Books.install, Circle.answering]
      · simp [isSilent, empty, Books.install, Circle.answering]
      · rw [booksAfter, settled_withdrawal_of_empty safe here empty]
        rfl
  | withdrawProRata dissolved seated isRefund some covered =>
      subst isRefund
      have here := (Circle.seat?_eq_some_iff.1 seated).2
      refine ⟨_, _, ⟨caller, seated, dissolved⟩, covered, rfl, rfl, ?_, rfl, ?_⟩
      · simp [isSilent, some, Books.install]
      · rw [booksAfter, settled_withdrawal here some]
        rfl

theorem settles_of_perform (isFor : due.IsFor host errand) (found : books.circle id = .ok circle)
    (ready : due.Ready moment.now circle)
    (performed : (due.operation id errand).perform host moment books = .ok effect) :
    ∃ position seat, due.Claims host books circle errand position seat ∧
      due.target moment.now circle seat ≤ circle.balance ∧
      due.Settles host moment books circle errand position seat effect := by
  cases due with
  | payout => exact settles_of_payout found performed
  | contribution => exact settles_of_contribution isFor found performed
  | withdrawal => exact settles_of_withdrawal isFor found (ready.exact nofun) performed

/-- The call for a member who can settle goes through, if the circle holds enough. -/
theorem exists_perform (found : books.circle id = .ok circle)
    (claims : due.Claims host books circle errand position seat)
    (covered : due.target moment.now circle seat ≤ circle.balance) :
    ∃ effect, (due.operation id errand).perform host moment books = .ok effect := by
  obtain ⟨caller, seated, entitled⟩ := claims
  cases due with
  | payout =>
      obtain ⟨isOpen, queued, takesPart, unpaid, routed⟩ := entitled
      have active := Circle.activeSeat?_of_seat? takesPart seated
      simp only [operation, Operation.perform, Books.processPayout, Books.byAdmin, bind_eq_ok,
        demandOpen_eq_ok, demandSome_eq_ok, demand_eq_ok, Bool.not_eq_true',
        List.isEmpty_eq_false_iff]
      exact ⟨_, circle, found, _, caller, (), rfl, _, ⟨(), isOpen, (), queued, _, active, (),
        unpaid, (), covered, (), routed, rfl⟩, rfl⟩
  | contribution =>
      obtain ⟨isOpen, takesPart, unpaid, recorded⟩ := entitled
      have active := Circle.activeSeat?_of_seat? takesPart seated
      obtain ⟨record, recorded⟩ := Option.isSome_iff_exists.1 recorded
      simp only [operation, Operation.perform, Books.contribute, Books.byMember, bind_eq_ok,
        demandOpen_eq_ok, demandSome_eq_ok, demand_eq_ok, record_eq_ok, Bool.not_eq_true']
      exact ⟨_, _, caller, circle, found, _, ⟨(), isOpen, _, active, (), unpaid, record, recorded,
        rfl⟩, rfl⟩
  | withdrawal =>
      simp only [operation, Operation.perform, Books.withdrawProRata, Books.byMember, bind_eq_ok,
        demandSome_eq_ok, demand_eq_ok]
      by_cases empty : circle.refundable seat = 0
      · exact ⟨_, _, caller, circle, found, _, ⟨(), entitled, (position, seat), seated,
          if_pos empty⟩, rfl⟩
      · exact ⟨_, _, caller, circle, found, _, ⟨(), entitled, (position, seat), seated,
          (if_neg empty).trans (bind_eq_ok.2 ⟨(), demand_eq_ok.2 covered, rfl⟩)⟩, rfl⟩

/-- A member who can settle does, if the circle holds enough. -/
theorem exists_settles (isFor : due.IsFor host errand) (found : books.circle id = .ok circle)
    (ready : due.Ready moment.now circle)
    (claims : due.Claims host books circle errand position seat)
    (covered : due.target moment.now circle seat ≤ circle.balance) :
    ∃ effect, (due.operation id errand).perform host moment books = .ok effect ∧
      due.Settles host moment books circle errand position seat effect := by
  obtain ⟨effect, performed⟩ := exists_perform found claims covered
  obtain ⟨_, _, again, -, settles⟩ := settles_of_perform isFor found ready performed
  cases claims.seated.symm.trans again.seated
  exact ⟨effect, performed, settles⟩

/-! ## One member after another -/

variable {now : Number} {member : Address}

@[simp] theorem id_settled (due : Due) (now : Number) (circle : Circle) (position : Nat)
    (seat : Seat) : (due.settled now circle position seat).id = circle.id := by
  cases due <;> rfl

@[simp] theorem balance_settled (due : Due) (now : Number) (circle : Circle) (position : Nat)
    (seat : Seat) :
    (due.settled now circle position seat).balance = due.balanceAfter now circle seat := by
  cases due <;> rfl

theorem circle_booksAfter (found : books.circle id = .ok circle) (due : Due) (now : Number)
    (member : Address) (position : Nat) (seat : Seat) :
    (due.booksAfter now books circle member position seat).circle id =
      .ok (due.settled now circle position seat) :=
  Books.circle_replaceCircle found (due.id_settled now circle position seat)

@[simp] theorem holder_mark (due : Due) (circle : Circle) (seat : Seat) :
    (due.mark circle seat).holder = seat.holder := by
  cases due with
  | payout | contribution => rfl
  | withdrawal =>
      rw [mark]
      split <;> rfl

theorem seats_settled (due : Due) (now : Number) (circle : Circle) (position : Nat)
    (seat : Seat) : (due.settled now circle position seat).seats =
      circle.seats.modify position (due.mark circle) := by
  cases due <;> rfl

theorem members_settled (due : Due) (now : Number) (circle : Circle) (position : Nat)
    (seat : Seat) : (due.settled now circle position seat).members = circle.members := by
  rw [Circle.members, seats_settled]
  exact circle.members_updateSeat position (due.holder_mark circle)

/-- Members find their seats as they were when others settle. -/
theorem seat?_settled (indexed : circle.Indexed)
    (seated : circle.seat? member = some (position, seat)) {other : Address}
    (differ : other ≠ member) (due : Due) (now : Number) :
    (due.settled now circle position seat).seat? other = circle.seat? other := by
  have stands := (indexed.found (Circle.seat?_eq_some_iff.1 seated).1).1
  have placed : (due.settled now circle position seat).position? other =
      circle.position? other := by
    cases due <;> rfl
  refine Option.ext fun ⟨place, otherSeat⟩ => ?_
  simp only [Circle.seat?_eq_some_iff, placed, seats_settled]
  refine and_congr_right fun found => ?_
  have apart : position ≠ place := by
    rintro rfl
    rw [(indexed.found found).1] at stands
    exact differ (Option.some.inj stands)
  rw [List.getElem?_modify_ne _ _ apart]

/-- When somebody settles, others stay entitled or not. -/
theorem entitles_settled_iff {other : Address} (differ : other ≠ member) (due : Due) (now : Number)
    (books : Books) (circle : Circle) (position : Nat) (seat otherSeat : Seat) :
    due.Entitles (due.booksAfter now books circle member position seat)
      (due.settled now circle position seat) other otherSeat ↔
        due.Entitles books circle other otherSeat := by
  cases due with
  | payout | withdrawal => exact Iff.rfl
  | contribution =>
      have keeps (record : MemberRecord) (theirs : record.isOf circle.id member = true) :
          MemberRecord.isOf
            { record with
              contributionCount := record.contributionCount + 1
              lastContributionAt := now } circle.id member = true := theirs
      have same : (Due.contribution.recordsAfter now books circle member).record? circle.id other =
          books.records.record? circle.id other := by
        rw [recordsAfter, Records.record?_update _ _ _ _ _ keeps, if_neg fun same => differ same.2]
      have takesPart : (Due.contribution.settled now circle position seat).isEjected
          (Due.contribution.recordsAfter now books circle member) other =
            circle.isEjected books.records other :=
        Circle.isEjected_congr rfl (congrArg (·.map (·.status)) same)
      exact and_congr Iff.rfl (and_congr (iff_of_eq (congrArg (· = false) takesPart))
        (and_congr Iff.rfl (iff_of_eq (congrArg (·.isSome = true) same))))

/-- A circle stays ready when somebody settles. -/
theorem Ready.settled (ready : due.Ready now circle) (position : Nat) (seat : Seat) :
    due.Ready now (due.settled now circle position seat) where
  indexed := by
    refine ready.indexed.congr (members_settled ..) ?_
    cases due <;> rfl
  exact apart := by
    have safe := ready.exact apart
    cases due with
    | payout | withdrawal => exact Amount.sub_le_maxSafe safe _
    | contribution => exact absurd rfl apart
  punctual same := by
    subst same
    obtain ⟨_, isValue⟩ := ready.punctual rfl
    exact ⟨Number.not_add_lt isValue circle.cycleDuration, isValue⟩

theorem Ready.toll_eq (ready : Due.contribution.Ready now circle) :
    toll circle now = Amount.add (Amount.add circle.contribution 0) circle.insuranceFee := by
  rw [toll, Circle.lateFee, (ready.punctual rfl).1]
  rfl

theorem Ready.transfers_settled (ready : due.Ready now circle) (host : Host) (books : Books)
    (member other : Address) (position : Nat) (seat otherSeat : Seat) :
    due.transfers host now (due.booksAfter now books circle member position seat)
      (due.settled now circle position seat) other otherSeat =
        due.transfers host now books circle other otherSeat := by
  cases due with
  | payout | withdrawal => rfl
  | contribution =>
      rw [transfers, transfers, ready.toll_eq, (ready.settled position seat).toll_eq]
      rfl

theorem target_settled (due : Due) (now : Number) (circle : Circle) (position : Nat)
    (seat otherSeat : Seat) :
    due.target now (due.settled now circle position seat) otherSeat =
      due.target now circle otherSeat := by
  cases due <;> rfl

theorem isSilent_settled (due : Due) (now : Number) (circle : Circle) (position : Nat)
    (seat otherSeat : Seat) :
    due.isSilent (due.settled now circle position seat) otherSeat =
      due.isSilent circle otherSeat := by
  cases due <;> rfl

/-- Members who can settle go on to when others settle, and nobody else comes to. -/
theorem claims_settled_iff (indexed : circle.Indexed)
    (seated : circle.seat? errand.member = some (position, seat)) {other : Errand}
    (differ : other.member ≠ errand.member) (due : Due) (now : Number) (host : Host) (books : Books)
    {place : Nat} {otherSeat : Seat} :
    due.Claims host (due.booksAfter now books circle errand.member position seat)
      (due.settled now circle position seat) other place otherSeat ↔
        due.Claims host books circle other place otherSeat := by
  have caller : due.caller (due.settled now circle position seat) other.member =
      due.caller circle other.member := by
    cases due <;> rfl
  have seat := seat?_settled indexed seated differ due now
  have entitled := entitles_settled_iff differ due now books circle position
  constructor
  · rintro ⟨hasProof, hasSeat, isEntitled⟩
    exact ⟨caller ▸ hasProof, seat ▸ hasSeat, (entitled _ _).1 isEntitled⟩
  · rintro ⟨hasProof, hasSeat, isEntitled⟩
    exact ⟨caller ▸ hasProof, seat ▸ hasSeat, (entitled _ _).2 isEntitled⟩

/-! ## Two members in either order -/

/-- What two members take together does not depend on who comes first. -/
theorem Ready.covered_exchange (ready : due.Ready now circle) {first second : Seat}
    (enough : due.target now circle first ≤ circle.balance)
    (enoughNext : due.target now circle second ≤ due.balanceAfter now circle first) :
    due.target now circle second ≤ circle.balance ∧
      due.target now circle first ≤ due.balanceAfter now circle second := by
  cases due with
  | payout => exact ⟨enough, enoughNext⟩
  | contribution => exact ⟨Nat.zero_le _, Nat.zero_le _⟩
  | withdrawal =>
      simp only [target, balanceAfter, Amount.sub_eq (ready.exact nofun)] at enough enoughNext ⊢
      lia

/-- What the circle holds once two members have settled does not depend on who comes first. -/
theorem Ready.balanceAfter_settled (ready : due.Ready now circle) (i j : Nat)
    (first second : Seat) :
    due.balanceAfter now (due.settled now circle i first) second =
      due.balanceAfter now (due.settled now circle j second) first := by
  cases due with
  | payout | contribution => rfl
  | withdrawal =>
      have safe := ready.exact nofun
      change Amount.sub (Amount.sub circle.balance (circle.refundable first))
        (circle.refundable second) = Amount.sub (Amount.sub circle.balance
          (circle.refundable second)) (circle.refundable first)
      have left := Amount.sub_le_maxSafe safe
      rw [Amount.sub_eq (left _), Amount.sub_eq (left _), Amount.sub_eq safe, Amount.sub_eq safe,
        Nat.sub_right_comm]

/-- Two seats settle in either order. -/
theorem Ready.settled_comm (ready : due.Ready now circle) {i j : Nat} (apart : i ≠ j)
    (first second : Seat) :
    due.settled now (due.settled now circle i first) j second =
      due.settled now (due.settled now circle j second) i first := by
  have balance := ready.balanceAfter_settled i j first second
  have seats : ((circle.seats.modify i (due.mark circle)).modify j (due.mark circle)) =
      (circle.seats.modify j (due.mark circle)).modify i (due.mark circle) :=
    List.modify_modify_ne _ _ _ apart
  cases due with
  | payout | withdrawal =>
      simp only [Due.settled, Circle.updateSeat, Circle.mk.injEq, true_and, and_true]
      exact ⟨seats, balance⟩
  | contribution =>
      simp only [Due.settled, Circle.updateSeat, Circle.mk.injEq, true_and, and_true]
      exact ⟨seats, balance, rfl, rfl⟩

/-- Two members settle in either order. -/
theorem Ready.booksAfter_comm (ready : due.Ready now circle) {i j : Nat} (apart : i ≠ j)
    {first second : Address} (differ : first ≠ second) (books : Books) (seat otherSeat : Seat) :
    due.booksAfter now (due.booksAfter now books circle first i seat)
      (due.settled now circle i seat) second j otherSeat =
    due.booksAfter now (due.booksAfter now books circle second j otherSeat)
      (due.settled now circle j otherSeat) first i seat := by
  have last := ready.settled_comm apart seat otherSeat
  have records : due.recordsAfter now (due.booksAfter now books circle first i seat)
      (due.settled now circle i seat) second =
    due.recordsAfter now (due.booksAfter now books circle second j otherSeat)
      (due.settled now circle j otherSeat) first := by
    cases due with
    | payout | withdrawal => rfl
    | contribution =>
        exact Records.update_comm _ _ differ (fun _ theirs => theirs) fun _ theirs => theirs
  -- Whoever settles last replaces the circle, and both orders leave the same one.
  have circles (next : Circle) (same : next.id = circle.id) (member : Address) (position : Nat)
      (seat : Seat) :
      ((due.booksAfter now books circle member position seat).replaceCircle next).circles =
        (books.replaceCircle next).circles := by
    refine congrArg (·.circles) (books.replaceCircle_replaceCircle ?_)
    rw [same, id_settled]
  have number : (due.settled now (due.settled now circle i seat) j otherSeat).id = circle.id := by
    rw [id_settled, id_settled]
  have both := (circles _ number first i seat).trans (circles _ number second j otherSeat).symm
  simp only [Due.booksAfter, Books.mk.injEq, true_and]
  refine ⟨rfl, rfl, ?_, records, rfl⟩
  rw [← last]
  exact both

/-- Two calls for different members do the same in either order. -/
theorem exchange {first second : Errand} {mid next : Effect} (isFor : due.IsFor host first)
    (isForSecond : due.IsFor host second) (differ : first.member ≠ second.member)
    (found : books.circle id = .ok circle) (ready : due.Ready moment.now circle)
    (performed : (due.operation id first).perform host moment books = .ok mid)
    (performedNext : (due.operation id second).perform host moment mid.books = .ok next) :
    ∃ other last, (due.operation id second).perform host moment books = .ok other ∧
      (due.operation id first).perform host moment other.books = .ok last ∧
      last.books = next.books ∧ other.asks = next.asks ∧ last.asks = mid.asks := by
  obtain ⟨i, seat, claims, enough, settles⟩ := settles_of_perform isFor found ready performed
  have foundMid := circle_booksAfter found due moment.now first.member i seat
  rw [settles.books] at performedNext
  obtain ⟨j, otherSeat, claimsNext, enoughNext, settlesNext⟩ :=
    settles_of_perform isForSecond foundMid (ready.settled i seat) performedNext
  rw [claims_settled_iff ready.indexed claims.seated differ.symm] at claimsNext
  rw [target_settled, balance_settled] at enoughNext
  obtain ⟨enoughOther, enoughLast⟩ := ready.covered_exchange enough enoughNext
  have claimsLast := (claims_settled_iff ready.indexed claimsNext.seated differ due moment.now host
    books).2 claims
  obtain ⟨other, isOther, settlesOther⟩ :=
    exists_settles isForSecond found ready claimsNext enoughOther
  have foundOther := circle_booksAfter found due moment.now second.member j otherSeat
  obtain ⟨last, isLast, settlesLast⟩ :=
    exists_settles isFor foundOther (ready.settled j otherSeat) claimsLast (by
      rwa [target_settled, balance_settled])
  have apart := ready.indexed.position_ne claimsNext.seated claims.seated differ
  refine ⟨other, last, isOther, settlesOther.books ▸ isLast, ?_, ?_, ?_⟩
  · rw [settlesLast.books, settlesNext.books, ready.booksAfter_comm apart differ]
  · rw [Effect.asks, Effect.asks, settlesOther.transfers, settlesNext.transfers,
      settlesOther.silent, settlesNext.silent, ready.transfers_settled, isSilent_settled]
  · rw [Effect.asks, Effect.asks, settlesLast.transfers, settles.transfers, settlesLast.silent,
      settles.silent, ready.transfers_settled, isSilent_settled]

/-! ## Batches in any order -/

/-- Calls for different members, each with a proof for its member. -/
structure Batch (due : Due) (host : Host) (errands : List Errand) : Prop where
  isFor : ∀ errand ∈ errands, due.IsFor host errand
  distinct : (errands.map (·.member)).Nodup

variable {errands order : List Errand} {operations : List Operation} {effects others : List Effect}

theorem Batch.tail (batch : due.Batch host (errand :: errands)) : due.Batch host errands where
  isFor other mem := batch.isFor other (List.mem_cons_of_mem _ mem)
  distinct := (List.nodup_cons.1 batch.distinct).2

theorem Batch.perm (batch : due.Batch host errands) (perm : errands.Perm order) :
    due.Batch host order where
  isFor errand mem := batch.isFor errand (perm.mem_iff.2 mem)
  distinct := (perm.map _).nodup_iff.1 batch.distinct

/-- The calls by which members settle draw nothing, and their answers are settled at once. -/
theorem plain_of_perform
    (performed : (due.operation id errand).perform host moment books = .ok effect) :
    effect.draws = moment.draws ∧ ∃ answer, effect.receipt = .settled answer := by
  cases due with
  | payout =>
      cases performs_processPayout performed with
      | byAdmin _ _ _ _ deed | byMember _ _ _ _ deed =>
          cases deed
          exact ⟨rfl, _, rfl⟩
  | contribution =>
      cases performs_contribute performed with
      | byAdmin _ _ _ _ deed | byMember _ _ _ _ deed =>
          cases deed
          exact ⟨rfl, _, rfl⟩
  | withdrawal =>
      cases performs_withdrawProRata performed with
      | byAdmin _ _ _ _ deed | byMember _ _ _ _ deed => cases deed <;> exact ⟨rfl, _, rfl⟩

theorem performAll_cons_eq_ok :
    books.performAll host moment (due.operation id errand :: operations) = .ok effects ↔
      ∃ effect others, (due.operation id errand).perform host moment books = .ok effect ∧
        effect.books.performAll host moment operations = .ok others ∧
        effects = effect :: others := by
  rw [Books.performAll_cons_eq_ok]
  refine exists_congr fun effect => exists_congr fun others => and_congr_right fun performed => ?_
  rw [(plain_of_perform performed).1]

theorem settled_of_performAll
    (performed : books.performAll host moment (errands.map (due.operation id)) = .ok effects) :
    ∀ effect ∈ effects, ∃ answer, effect.receipt = .settled answer := by
  induction errands generalizing books effects with
  | nil =>
      obtain rfl := Except.ok.inj performed
      exact List.forall_mem_nil _
  | cons errand errands ih =>
      obtain ⟨effect, others, goes, rest, rfl⟩ := performAll_cons_eq_ok.1 performed
      exact List.forall_mem_cons.2 ⟨(plain_of_perform goes).2, ih rest⟩

/-- The first call of a batch settles, and the others find the circle as it leaves it. -/
theorem first_of_performAll (batch : due.Batch host (errand :: errands))
    (found : books.circle id = .ok circle) (ready : due.Ready moment.now circle)
    (performed : books.performAll host moment ((errand :: errands).map (due.operation id)) =
      .ok effects) :
    ∃ effect others position seat, effects = effect :: others ∧
      (due.operation id errand).perform host moment books = .ok effect ∧
      due.Claims host books circle errand position seat ∧
      due.Settles host moment books circle errand position seat effect ∧
      effect.books.circle id = .ok (due.settled moment.now circle position seat) ∧
      effect.books.performAll host moment (errands.map (due.operation id)) = .ok others := by
  obtain ⟨effect, others, goes, rest, rfl⟩ := performAll_cons_eq_ok.1 performed
  obtain ⟨position, seat, claims, -, settles⟩ :=
    settles_of_perform (batch.isFor errand List.mem_cons_self) found ready goes
  have foundNext := circle_booksAfter found due moment.now errand.member position seat
  rw [← settles.books] at foundNext
  exact ⟨effect, others, position, seat, rfl, goes, claims, settles, foundNext, rest⟩

/-- A batch that goes through does so in any order. It leaves the same books and asks for the same
transfers. -/
theorem performAll_perm (batch : due.Batch host errands) (found : books.circle id = .ok circle)
    (ready : due.Ready moment.now circle)
    (performed : books.performAll host moment (errands.map (due.operation id)) = .ok effects)
    (perm : errands.Perm order) :
    ∃ others, books.performAll host moment (order.map (due.operation id)) = .ok others ∧
      books.afterAll others = books.afterAll effects ∧
      (effects.map Effect.asks).Perm (others.map Effect.asks) := by
  -- A permutation is made of exchanges; the circle stays ready along the calls before them.
  induction perm generalizing books circle effects with
  | nil => exact ⟨effects, performed, rfl, .refl _⟩
  | cons errand _ ih =>
      obtain ⟨effect, _, i, seat, rfl, first, -, -, foundNext, rest⟩ :=
        first_of_performAll batch found ready performed
      obtain ⟨others, goes, after, asks⟩ := ih batch.tail foundNext (ready.settled i seat) rest
      exact ⟨effect :: others, performAll_cons_eq_ok.2 ⟨_, _, first, goes, rfl⟩, after, asks.cons _⟩
  | swap second first errands =>
      obtain ⟨mid, _, goesFirst, both, rfl⟩ := performAll_cons_eq_ok.1 performed
      obtain ⟨next, effects, goesSecond, rest, rfl⟩ := performAll_cons_eq_ok.1 both
      have differ : first.member ≠ second.member :=
        List.ne_of_not_mem_cons (List.nodup_cons.1 batch.distinct).1
      obtain ⟨other, last, goes, goesNext, after, asksOther, asksLast⟩ :=
        exchange (batch.isFor first List.mem_cons_self)
          (batch.isFor second (List.mem_cons_of_mem _ List.mem_cons_self)) differ found ready
          goesFirst goesSecond
      rw [← after] at rest
      refine ⟨other :: last :: effects, ?_, ?_, ?_⟩
      · exact performAll_cons_eq_ok.2 ⟨_, _, goes,
          performAll_cons_eq_ok.2 ⟨_, _, goesNext, rest, rfl⟩, rfl⟩
      · simp only [Books.afterAll, after]
      · simp only [List.map_cons, asksOther, asksLast]
        exact .swap _ _ _
  | trans perm _ first second =>
      obtain ⟨mid, goes, afterMid, asksMid⟩ := first batch found ready performed
      obtain ⟨others, goes, after, asks⟩ := second (batch.perm perm) found ready goes
      exact ⟨others, goes, after.trans afterMid, asksMid.trans asks⟩

/-- What is transferred in a batch is what is due to its members from the start. -/
theorem transfers_of_performAll (batch : due.Batch host errands)
    (found : books.circle id = .ok circle) (ready : due.Ready moment.now circle)
    (performed : books.performAll host moment (errands.map (due.operation id)) = .ok effects) :
    ∀ effect ∈ effects, ∃ errand ∈ errands, ∃ position seat,
      circle.seat? errand.member = some (position, seat) ∧
      effect.transfers = due.transfers host moment.now books circle errand.member seat := by
  induction errands generalizing books circle effects with
  | nil =>
      obtain rfl := Except.ok.inj performed
      exact List.forall_mem_nil _
  | cons errand errands ih =>
      obtain ⟨effect, others, i, seat, rfl, -, claims, settles, foundNext, rest⟩ :=
        first_of_performAll batch found ready performed
      refine List.forall_mem_cons.2
        ⟨⟨errand, List.mem_cons_self, i, seat, claims.seated, settles.transfers⟩, ?_⟩
      intro later mem
      obtain ⟨other, isLater, j, otherSeat, seated, transfers⟩ :=
        ih batch.tail foundNext (ready.settled i seat) rest later mem
      have differ : other.member ≠ errand.member :=
        ne_of_mem_of_not_mem (List.mem_map_of_mem isLater) (List.nodup_cons.1 batch.distinct).1
      rw [seat?_settled ready.indexed claims.seated differ] at seated
      rw [settles.books, ready.transfers_settled] at transfers
      exact ⟨other, List.mem_cons_of_mem _ isLater, j, otherSeat, seated, transfers⟩

def endsCycle (due : Due) (books : Books) (id : Number) : Bool :=
  match due with
  | .payout => (books.circle id).toOption.any (·.isCycleComplete books.records)
  | .contribution | .withdrawal => false

/-- While somebody can be paid the cycle is not complete. -/
theorem Claims.endsCycle_eq_false (claims : due.Claims host books circle errand position seat)
    (indexed : circle.Indexed) (found : books.circle id = .ok circle) :
    due.endsCycle books id = false := by
  cases due with
  | contribution | withdrawal => rfl
  | payout =>
      obtain ⟨-, -, takesPart, unpaid, -⟩ := claims.entitled
      obtain ⟨here, holder⟩ := indexed.holder_of_seat? claims.seated
      have unsettled : (seat.isPaidOut || circle.isEjected books.records seat.holder) = false := by
        rw [unpaid, holder, takesPart]
        rfl
      have incomplete : circle.isCycleComplete books.records = false := by
        rw [Circle.isCycleComplete, Bool.and_eq_false_iff, List.all_eq_false]
        exact .inr ⟨seat, List.mem_of_getElem? here, by simp [unsettled]⟩
      simp [endsCycle, found, Except.toOption, incomplete]

/-- Only the last payout of a batch can complete the cycle. It does if the cycle is complete. -/
theorem completes_of_performAll (batch : due.Batch host errands)
    (found : books.circle id = .ok circle) (ready : due.Ready moment.now circle)
    (performed : books.performAll host moment (errands.map (due.operation id)) = .ok effects) :
    effects.map Effect.completes =
      (List.replicate errands.length false).set (errands.length - 1)
        (due.endsCycle (books.afterAll effects) id) := by
  induction errands generalizing books circle effects with
  | nil =>
      obtain rfl := Except.ok.inj performed
      rfl
  | cons errand errands ih =>
      obtain ⟨effect, others, i, seat, rfl, -, -, settles, foundNext, rest⟩ :=
        first_of_performAll batch found ready performed
      have completes : effect.completes = due.endsCycle effect.books id := by
        rw [settles.completes]
        cases due with
        | payout =>
            rw [endsCycle, foundNext, settles.books]
            rfl
        | contribution | withdrawal => rfl
      have later := ih batch.tail foundNext (ready.settled i seat) rest
      cases errands with
      | nil =>
          obtain rfl := Except.ok.inj rest
          simp [completes, Books.afterAll]
      | cons next errands =>
          obtain ⟨_, _, _, _, -, -, claimsNext, -, -, -⟩ :=
            first_of_performAll batch.tail foundNext (ready.settled i seat) rest
          have incomplete := claimsNext.endsCycle_eq_false (ready.settled i seat).indexed foundNext
          rw [List.map_cons, completes, incomplete, later]
          rfl

end

end Due

end SavingsCircle
