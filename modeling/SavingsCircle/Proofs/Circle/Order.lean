import SavingsCircle.Proofs.Circle.Dues
import SavingsCircle.Proofs.Run.Exactness

/-!
# The order of settlement

Members of a circle can settle in any order: if a batch of payouts, contributions in time or
withdrawals goes through in one order, it does in every order, and leaves the same books and
balances (`settlement_order_is_immaterial`). There is one exception. The treasury receives fees
besides its own payout if it is a member, and a balance that such different amounts bring above
`Number.maxSafe` depends on the order in which they are added and rounded
(`settlement_order_shows_in_treasury`).
-/

namespace SavingsCircle

def Report.completes (report : Report) : Bool :=
  match report.outcome with
  | .ok (.payout _ _ _ _ complete) => complete
  | _ => false

theorem OneWay.of_source {transfers : List Transfer} (account : Address)
    (source : ∀ transfer ∈ transfers, transfer.source = account) : OneWay transfers := by
  intro first isFirst second isSecond _ moves
  rw [source first isFirst, ← source second isSecond]
  exact (Transfer.moves_iff.1 moves).2

theorem OneWay.of_target {transfers : List Transfer} (account : Address)
    (target : ∀ transfer ∈ transfers, transfer.target = account) : OneWay transfers := by
  intro first isFirst second isSecond moves _
  rw [target second isSecond, ← target first isFirst]
  exact (Transfer.moves_iff.1 moves).2

namespace Due

variable {due : Due} {host : Host} {now : Number} {books : Books} {circle : Circle}
variable {member : Address} {seat : Seat} {transfer : Transfer}

/-- A payout goes to the member, and its fee to the treasury. -/
theorem mem_transfers_payout
    (mem : transfer ∈ Due.payout.transfers host now books circle member seat) :
    transfer.source = host.custody ∧
      (transfer.target = member ∧ transfer.amount =
          .ofInt (circle.contribution - Amount.share circle.contribution books.feeRate) ∨
        books.treasury = some transfer.target ∧
          transfer.amount = .ofNat (Amount.share circle.contribution books.feeRate)) := by
  rcases List.mem_cons.1 mem with rfl | mem
  · exact ⟨rfl, .inl ⟨rfl, rfl⟩⟩
  · obtain ⟨treasury, isTreasury, rfl⟩ := List.mem_map.1 mem
    rw [Option.mem_toList, Option.ite_none_right_eq_some] at isTreasury
    exact ⟨rfl, .inr ⟨isTreasury.2, rfl⟩⟩

theorem mem_transfers_withdrawal
    (mem : transfer ∈ Due.withdrawal.transfers host now books circle member seat) :
    transfer.source = host.custody ∧ transfer.target = member ∧
      transfer.amount = .ofNat (circle.refundable seat) := by
  rw [transfers, Circle.payOut] at mem
  split at mem
  · obtain rfl := List.mem_singleton.1 mem
    exact ⟨rfl, rfl, rfl⟩
  · exact absurd mem List.not_mem_nil

/-- Transfers that are due to or from members. -/
def Pays (due : Due) (host : Host) (now : Number) (books : Books) (circle : Circle)
    (members : List Address) (transfers : List Transfer) : Prop :=
  ∀ transfer ∈ transfers, ∃ member ∈ members, ∃ position seat,
    circle.seat? member = some (position, seat) ∧
    transfer ∈ due.transfers host now books circle member seat

variable {members : List Address} {transfers : List Transfer} {asset : Asset} {holder : Address}

/-- Custody pays or is paid, but not both. -/
theorem Pays.oneWay (pays : due.Pays host now books circle members transfers) :
    OneWay transfers := by
  cases due with
  | payout =>
      refine .of_source host.custody fun transfer mem => ?_
      obtain ⟨_, _, _, _, _, isDue⟩ := pays transfer mem
      exact (mem_transfers_payout isDue).1
  | contribution =>
      refine .of_target host.custody fun transfer mem => ?_
      obtain ⟨_, _, _, _, _, isDue⟩ := pays transfer mem
      rw [List.mem_singleton.1 isDue]
  | withdrawal =>
      refine .of_source host.custody fun transfer mem => ?_
      obtain ⟨_, _, _, _, _, isDue⟩ := pays transfer mem
      exact (mem_transfers_withdrawal isDue).1

/-- Whoever is paid is paid the same amount each time, but for a treasury that is a member. -/
theorem Pays.alike (pays : due.Pays host now books circle members transfers)
    (apart : due = .payout → books.treasury = some holder → holder ∉ members) :
    ∃ amount, ∀ transfer ∈ transfers, transfer.target = holder → transfer.amount = amount := by
  cases due with
  | payout =>
      by_cases isTreasury : books.treasury = some holder
      · refine ⟨.ofNat (Amount.share circle.contribution books.feeRate),
          fun transfer mem target => ?_⟩
        obtain ⟨member, isMember, _, _, _, isDue⟩ := pays transfer mem
        rcases (mem_transfers_payout isDue).2 with ⟨same, _⟩ | ⟨_, amount⟩
        · exact absurd (target ▸ same ▸ isMember) (apart rfl isTreasury)
        · exact amount
      · refine ⟨.ofInt (circle.contribution - Amount.share circle.contribution books.feeRate),
          fun transfer mem target => ?_⟩
        obtain ⟨_, _, _, _, _, isDue⟩ := pays transfer mem
        rcases (mem_transfers_payout isDue).2 with ⟨_, amount⟩ | ⟨same, _⟩
        · exact amount
        · exact absurd (target ▸ same) isTreasury
  | contribution =>
      refine ⟨.ofNat (toll circle now), fun transfer mem _ => ?_⟩
      obtain ⟨_, _, _, _, _, isDue⟩ := pays transfer mem
      rw [List.mem_singleton.1 isDue]
  | withdrawal =>
      refine ⟨.ofNat (((circle.seat? holder).map fun found => circle.refundable found.2).getD 0),
        fun transfer mem target => ?_⟩
      obtain ⟨member, _, position, seat, seated, isDue⟩ := pays transfer mem
      obtain ⟨_, same, amount⟩ := mem_transfers_withdrawal isDue
      rw [amount, ← target, same, seated]
      rfl

theorem Pays.credits_alike (pays : due.Pays host now books circle members transfers)
    (apart : due = .payout → books.treasury = some holder → holder ∉ members) (asset : Asset) :
    ∀ a ∈ credits transfers asset holder, ∀ b ∈ credits transfers asset holder, a = b := by
  obtain ⟨amount, same⟩ := pays.alike apart
  have units (a : Nat) (mem : a ∈ credits transfers asset holder) :
      a = amount.safeNat?.getD 0 := by
    obtain ⟨transfer, paid, rfl⟩ := List.mem_map.1 mem
    obtain ⟨mem, isTo⟩ := List.mem_filter.1 paid
    rw [Transfer.units, same transfer mem (Transfer.isTo_iff.1 isTo).2.2]
  intro a isA b isB
  rw [units a isA, units b isB]

end Due

/-- Reports of calls whose answers were settled at once tell which of them completed a cycle. -/
theorem map_completes_of_returns {effects : List Effect} {reports : List Report}
    (returns : List.Forall₂ Effect.Returns effects reports)
    (settled : ∀ effect ∈ effects, ∃ answer, effect.receipt = .settled answer) :
    reports.map Report.completes = effects.map Effect.completes := by
  induction returns with
  | nil => rfl
  | cons first _ ih =>
      obtain ⟨⟨_, receipt⟩, settled⟩ := List.forall_mem_cons.1 settled
      obtain ⟨answer, outcome, returned⟩ := first
      obtain rfl := returned _ receipt
      rw [List.map_cons, List.map_cons, ih settled, Report.completes, outcome, Effect.completes,
        receipt]
      cases answer <;> rfl

/-- Members of a circle settle one after the other in a world of a run in which all amounts are
safe: by payouts, by contributions in time, or by withdrawals. If their calls return in one order,
they do in every order. The books are the same then, and so is every balance, unless it is that of a
treasury which is also paid as a member and it ends above `Number.maxSafe`. At most the last payout
completes the cycle, and does in every order or in none. -/
theorem settlement_order_is_immaterial {host : Host} {now clock : Number} {nonce : String}
    {draws : Draws} {steps : List Step} {world : World}
    (visits : Visits host (.opened now clock nonce draws) steps world) (safe : world.AllSafe)
    {id : Number} {circle : Circle} (found : world.books.circle id = .ok circle) {due : Due}
    (punctual : due = .contribution → world.now.le circle.deadline = true ∧ world.now.IsValue)
    {errands : List Errand} (batch : due.Batch host errands)
    (returned : ∀ report ∈ (runAll host (calls (errands.map (due.operation id))) world).2,
      report.outcome.toOption.isSome) :
    ∀ order, errands.Perm order →
      let ran := runAll host (calls (errands.map (due.operation id))) world
      let other := runAll host (calls (order.map (due.operation id))) world
      (∀ report ∈ other.2, report.outcome.toOption.isSome) ∧
      other.1.books = ran.1.books ∧
      (∀ asset holder,
        (due = .payout → world.books.treasury = some holder → holder ∈ errands.map (·.member) →
          ran.1.ledger.balance asset holder ≤ Number.maxSafe) →
        other.1.ledger.balance asset holder = ran.1.ledger.balance asset holder) ∧
      ∃ complete,
        let flags := (List.replicate errands.length false).set (errands.length - 1) complete
        ran.2.map Report.completes = flags ∧ other.2.map Report.completes = flags := by
  intro order perm ran other
  have mem := Books.mem_of_circle found
  have sound := (circleInvariant_sound host).holds (fun _ _ _ _ => trivial) visits mem
  have ready : due.Ready world.moment.now circle :=
    { indexed := sound.indexed
      exact := fun _ => (safe.books.circles circle mem).balance
      punctual := fun isContribution =>
        (punctual isContribution).imp Number.not_lt_of_le fun isValue => isValue }
  obtain ⟨effects, ledger, performed, dated, made⟩ := exists_performAll returned
  obtain ⟨booksRan, heldRan, returnsRan⟩ := runAll_calls performed dated made
  obtain ⟨others, goes, after, asks⟩ := Due.performAll_perm batch found ready performed perm
  have datedOther : ∀ effect ∈ others, effect.events ≠ [] → world.stamp?.isSome := by
    intro effect isOther records
    obtain ⟨first, isFirst, same⟩ :=
      List.mem_map.1 (asks.mem_iff.2 (List.mem_map_of_mem isOther))
    have alike : first.events.isEmpty = effect.events.isEmpty := congrArg (·.2) same
    exact dated first isFirst (List.isEmpty_eq_false_iff.1
      (alike.trans (List.isEmpty_eq_false_iff.2 records)))
  have transfers : (effects.flatMap (·.transfers)).Perm (others.flatMap (·.transfers)) := by
    have perm := asks.flatMap_right Prod.fst
    rwa [List.flatMap_map, List.flatMap_map] at perm
  have pays : due.Pays host world.now world.books circle (errands.map (·.member))
      (effects.flatMap (·.transfers)) := by
    intro transfer mem
    obtain ⟨effect, isEffect, mem⟩ := List.mem_flatMap.1 mem
    obtain ⟨errand, isErrand, position, seat, seated, same⟩ :=
      Due.transfers_of_performAll batch found ready performed effect isEffect
    exact ⟨errand.member, List.mem_map_of_mem isErrand, position, seat, seated, same ▸ mem⟩
  obtain ⟨last, madeOther, balances⟩ := Ledger.transferAll_perm pays.oneWay
    (fun _ _ _ => safe.ledger.balance_le _ _) made transfers
  obtain ⟨booksOther, heldOther, returnsOther⟩ := runAll_calls goes datedOther madeOther
  have completes := Due.completes_of_performAll batch found ready performed
  have completesOther := Due.completes_of_performAll (batch.perm perm) found ready goes
  rw [← perm.length_eq, after] at completesOther
  refine ⟨isSome_of_returns returnsOther, booksOther.trans (after.trans booksRan.symm), ?_,
    due.endsCycle (world.books.afterAll effects) id, ?_, ?_⟩
  · intro asset holder exact
    rw [heldOther, heldRan]
    rw [heldRan] at exact
    refine balances asset holder ?_
    by_cases mixed : due = .payout ∧ world.books.treasury = some holder ∧
        holder ∈ errands.map (·.member)
    · exact .inr (exact mixed.1 mixed.2.1 mixed.2.2)
    · exact .inl (pays.credits_alike (fun isPayout isTreasury isMember =>
        mixed ⟨isPayout, isTreasury, isMember⟩) asset)
  · exact (map_completes_of_returns returnsRan (Due.settled_of_performAll performed)).trans
      completes
  · exact (map_completes_of_returns returnsOther (Due.settled_of_performAll goes)).trans
      completesOther

/-- Two members are paid, one of whom is the treasury, which also receives the fees. -/
theorem settlement_order_is_immaterial_for_two_payouts :
    let proof := Host.sample.proofOf
    let id := Number.ofNat 1
    let steps : List Step :=
      [.call (.claimProtocol (proof "p")) [],
        .call (.setProtocolFee (proof "p") (.ofNat 3334) (some "t")) [],
        .call (.createCircle (proof "a") .sample) [], .call (.join (proof "a") id) [],
        .call (.join (proof "t") id) [], .mint "USDC" "a" (.ofNat 100),
        .mint "USDC" "t" (.ofNat 100), .call (.finalize (proof "a") id) [],
        .call (.contribute (proof "a") id) [], .call (.contribute (proof "t") id) []]
    let world := (runAll Host.sample steps World.sample).1
    let errands : List Errand := [⟨proof "a", "t"⟩, ⟨proof "a", "a"⟩]
    let ran := runAll Host.sample (calls (errands.map (Due.payout.operation id))) world
    let other := runAll Host.sample (calls (errands.reverse.map (Due.payout.operation id))) world
    ran.1.ledger.balance "USDC" "t" = 133 ∧ ran.2.map Report.completes = [false, true] ∧
      other.1.books = ran.1.books ∧ other.1.ledger.balance "USDC" "t" = 133 ∧
      other.2.map Report.completes = [false, true] := by
  intro proof id steps world errands ran other
  have safe : world.AllSafe := by decide +kernel
  have isCircle : (world.books.circle id).toOption.map (fun _ => ()) = some () := by decide +kernel
  have returned : ∀ report ∈ ran.2, report.outcome.toOption.isSome := by decide +kernel
  have held : ran.1.ledger.balance "USDC" "t" = 133 := by decide +kernel
  have flags : ran.2.map Report.completes = [false, true] := by decide +kernel
  have batch : Due.payout.Batch Host.sample errands := ⟨fun _ _ => trivial, by decide⟩
  have visits : Visits Host.sample World.sample steps world := .inl rfl
  have reversed : errands.Perm errands.reverse := (List.reverse_perm errands).symm
  clear_value world
  obtain ⟨circle, found, -⟩ := exists_ok_of_map_toOption isCircle
  have noContribution : Due.payout = .contribution →
      world.now.le circle.deadline = true ∧ world.now.IsValue := nofun
  obtain ⟨-, books, balances, complete, told, again⟩ :=
    settlement_order_is_immaterial visits safe found noContribution batch returned _ reversed
  have balance := balances "USDC" "t" fun _ _ _ => Nat.le_trans (Nat.le_of_eq held) (by decide)
  exact ⟨held, flags, books, balance.trans held, again.trans (told.symm.trans flags)⟩

/-- The treasury is a member and holds all that is exact. Its balance after two payouts, of which
each adds a fee and one an own payout, depends on who is paid first. -/
theorem settlement_order_shows_in_treasury :
    let proof := Host.sample.proofOf
    let id := Number.ofNat 1
    let steps : List Step :=
      [.call (.claimProtocol (proof "p")) [],
        .call (.setProtocolFee (proof "p") (.ofNat 3334) (some "t")) [],
        .call (.createCircle (proof "a") { CircleTerms.sample with contribution := .ofNat 3 }) [],
        .call (.join (proof "a") id) [], .call (.join (proof "t") id) [],
        .mint "USDC" "a" (.ofNat 3), .mint "USDC" "t" (.ofNat 3),
        .call (.finalize (proof "a") id) [], .call (.contribute (proof "a") id) [],
        .call (.contribute (proof "t") id) [], .mint "USDC" "t" (.ofNat Number.maxSafe)]
    let world := (runAll Host.sample steps World.sample).1
    let errands : List Errand := [⟨proof "a", "t"⟩, ⟨proof "a", "a"⟩]
    let ran := runAll Host.sample (calls (errands.map (Due.payout.operation id))) world
    let other := runAll Host.sample (calls (errands.reverse.map (Due.payout.operation id))) world
    world.AllSafe ∧ (∀ report ∈ ran.2, report.outcome.toOption.isSome) ∧
      (∀ report ∈ other.2, report.outcome.toOption.isSome) ∧
      ran.1.ledger.balance "USDC" "t" = 9007199254740992 ∧
      other.1.ledger.balance "USDC" "t" = 9007199254740996 := by
  decide +kernel

end SavingsCircle
