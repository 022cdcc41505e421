import SavingsCircle.Proofs.Run.Alone
import SavingsCircle.Proofs.Run.Exactness

/-!
# What is credited and what is received

A contribution is credited to the balance of a circle, and a deposit to the entry of the user,
before the transfer into custody is made. The call returns only if the transfer is made; but a
transfer from an account to itself asks nothing of it and moves nothing. The account that holds what
is paid in can therefore be credited with what it never paid. Everyone else pays what is credited,
and custody receives it, as long as none of the two sums is rounded (`credits_are_received_iff`).
-/

namespace SavingsCircle

/-- The asset that a call pays in and what stood to the credit of what is paid: the balance of the
circle, or what the caller has deposited. -/
def Operation.credit? (operation : Operation) (caller : Address) (books : Books) :
    Option (Asset × Amount) :=
  match operation with
  | .contribute _ id => (books.circle id).toOption.map fun circle => (circle.asset, circle.balance)
  | .deposit _ asset _ => some (asset, books.deposited caller asset)
  | _ => none

/-- Between two worlds custody has gained as much of an asset as a credit has grown, and the account
of the one who is credited has lost as much. -/
structure Received (host : Host) (asset : Asset) (payer : Address) (before after : Amount)
    (world next : World) : Prop where
  gained : (next.ledger.balance asset host.custody : Int) -
    world.ledger.balance asset host.custody = (after : Int) - before
  paid : (world.ledger.balance asset payer : Int) - next.ledger.balance asset payer =
    (after : Int) - before

section

variable {books : Books} {user : Address} {asset : Asset} {amount : Amount}

/-- What a user has deposited after one more deposit. -/
theorem Books.deposited_addDeposit (safe : amount ≤ Number.maxSafe) :
    { books with custody := books.addDeposit user asset amount }.deposited user asset =
      Amount.add (books.deposited user asset) amount := by
  have keeps (entry : CustodyEntry) : (if entry.isOf user asset then
      { entry with amount := Amount.add entry.amount amount } else entry).isOf user asset =
        entry.isOf user asset := by
    split <;> rfl
  simp only [deposited, addDeposit]
  cases found : books.custody.find? (·.isOf user asset) with
  | some entry =>
      have present : books.custody.any (·.isOf user asset) = true := by
        rw [List.any_eq_true, ← List.find?_isSome, found]
        rfl
      have theirs : entry.isOf user asset = true := by simpa using List.find?_some found
      have same : (CustodyEntry.isOf · user asset) ∘ (fun entry : CustodyEntry =>
          if entry.isOf user asset then { entry with amount := Amount.add entry.amount amount }
          else entry) = (CustodyEntry.isOf · user asset) := funext keeps
      rw [if_pos present, List.find?_map, same, found]
      simp [theirs]
  | none =>
      have absent : ¬books.custody.any (·.isOf user asset) = true := by
        rw [List.any_eq_true, ← List.find?_isSome, found]
        simp
      rw [if_neg absent, List.find?_append, found]
      simp [CustodyEntry.isOf, Amount.add_eq (a := 0) (by simpa using safe)]

end

section

variable {host : Host} {moment : Moment} {books : Books} {operation : Operation} {effect : Effect}
variable {caller : Address} {asset : Asset} {before : Amount}

/-- A call that pays in asks for one transfer, from the caller to custody, of just the positive
amount that it adds to the credit. -/
theorem Performs.credits (performs : Performs host moment books operation effect)
    (sound : ∀ circle ∈ books.circles, circle.Sound)
    (accepted : host.authorize operation.proof = .ok caller)
    (credit : operation.credit? caller books = some (asset, before)) :
    ∃ amount : Amount, 0 < amount ∧
      effect.transfers = [⟨asset, caller, host.custody, .ofNat amount⟩] ∧
      operation.credit? caller effect.books = some (asset, Amount.add before amount) := by
  cases performs with
  | deposit given safe positive =>
      obtain rfl := Except.ok.inj (accepted.symm.trans given)
      obtain ⟨rfl, rfl⟩ := Prod.mk.inj (Option.some.inj credit)
      refine ⟨_, positive, rfl, ?_⟩
      exact congrArg (fun after => some (_, after))
        (Books.deposited_addDeposit (Number.safeNat?_le safe))
  | byMember named found given _ deed =>
      obtain rfl := Except.ok.inj (accepted.symm.trans given)
      cases deed with
      | contribute _ _ _ _ _ _ isAmount =>
          obtain rfl := Option.some.inj named
          obtain ⟨positive, safe, _⟩ := sound _ (Books.mem_of_circle found)
          rw [Operation.credit?, found] at credit
          obtain ⟨rfl, rfl⟩ := Prod.mk.inj (Option.some.inj credit)
          refine ⟨_, ?_, rfl, ?_⟩
          · rw [isAmount]
            exact Nat.lt_of_lt_of_le positive (Amount.le_add_add safe)
          · change ((books.replaceCircle _).circle _).toOption.map _ = _
            rw [Books.circle_replaceCircle found] <;> rfl
      | _ => cases credit
  | byAdmin _ _ _ administers deed =>
      cases deed with
      | contribute => cases administers
      | _ => cases credit
  | _ => cases credit

end

namespace Ledger

variable {ledger next : Ledger} {asset : Asset} {source target : Address} {amount : Amount}

theorem transfer_of_settle {plan : List Encounter} {transfer : Transfer}
    (settled : ledger.settle plan [transfer] = (next, none)) :
    ledger.transfer transfer.asset transfer.source transfer.target transfer.amount = .ok next := by
  rw [settle] at settled
  split at settled
  · simp at settled
  · split at settled
    · next made =>
      rw [made, ← (Prod.mk.inj settled).1]
    · simp at settled

theorem transfer_self (made : ledger.transfer asset source source (.ofNat amount) = .ok next) :
    next = ledger := by
  obtain ⟨_, _, ⟨_, same⟩ | ⟨apart, _⟩⟩ := transfer_eq_ok made
  · exact same
  · exact absurd rfl apart

/-- A transfer to another account moves the amount from one to the other. -/
theorem transfer_apart (made : ledger.transfer asset source target (.ofNat amount) = .ok next)
    (apart : source ≠ target) (safe : ledger.balance asset source ≤ Number.maxSafe)
    (positive : 0 < amount) :
    next.balance asset source + amount = ledger.balance asset source ∧
      next.balance asset target = Amount.add (ledger.balance asset target) amount := by
  obtain ⟨units, given, ⟨idle, _⟩ | ⟨_, enough, rfl⟩⟩ := transfer_eq_ok made
  all_goals
    have whole := Number.int?_of_safeNat? given
    obtain rfl : amount = units := by simpa [Number.ofNat] using whole
  · exact absurd idle (by simp [apart, Nat.pos_iff_ne_zero.1 positive])
  · rw [balance_credit, if_neg fun same => apart same.2, balance_put, if_pos ⟨rfl, rfl⟩,
      balance_credit, if_pos ⟨rfl, rfl⟩, balance_put, if_neg fun same => apart same.2.symm,
      Amount.sub_eq safe]
    exact ⟨Nat.sub_add_cancel enough, rfl⟩

end Ledger

/-- A call that pays in and is not re-entered returns only once its transfer is made. -/
theorem Step.paid_of_idle {host : Host} {operation : Operation} {plan : List Encounter}
    {world : World} {effect : Effect} {asset : Asset} {source target : Address} {amount : Number}
    {answer : Answer} (idle : ∀ met ∈ plan, met.isIdle = true)
    (performed : operation.perform host world.moment world.books = .ok effect)
    (transfers : effect.transfers = [⟨asset, source, target, amount⟩])
    (returned : ((Step.call operation plan).run host world).2.outcome = .ok answer) :
    ((Step.call operation plan).run host world).1.books = effect.books ∧
      world.ledger.transfer asset source target amount =
        .ok ((Step.call operation plan).run host world).1.ledger := by
  obtain ⟨same, written, again, committed, _, _, _⟩ := Step.run_eq_ok returned
  obtain rfl := Except.ok.inj (performed.symm.trans again)
  rw [Step.run_of_idle idle performed committed, transfers] at returned ⊢
  cases settled : world.ledger.settle plan [⟨asset, source, target, amount⟩] with
  | mk ledger ending =>
      cases ending with
      | some failure => simp [settled, Settlement.conclude, Report.outcome] at returned
      | none =>
          refine ⟨?_, Ledger.transfer_of_settle settled⟩
          exact (World.books_commit committed :)

section

variable {host : Host} {asset : Asset} {payer : Address} {before amount : Amount}
variable {world next : World}

/-- A payment into custody by someone else is received unless one of the sums is rounded. -/
theorem received_iff_of_paid
    (paid : next.ledger.balance asset payer + amount = world.ledger.balance asset payer)
    (gained : next.ledger.balance asset host.custody =
      Amount.add (world.ledger.balance asset host.custody) amount) :
    Received host asset payer before (Amount.add before amount) world next ↔
      Amount.add before amount = before + amount ∧
        Amount.add (world.ledger.balance asset host.custody) amount =
          world.ledger.balance asset host.custody + amount := by
  constructor
  · rintro ⟨rise, fall⟩
    rw [gained] at rise
    lia
  · rintro ⟨credited, received⟩
    rw [received] at gained
    constructor <;> lia

/-- A payment into custody by custody itself is not received. -/
theorem not_received_of_custody (safe : before ≤ Number.maxSafe) (positive : 0 < amount)
    (same : next.ledger = world.ledger) :
    ¬Received host asset payer before (Amount.add before amount) world next := by
  rintro ⟨_, fall⟩
  have grown := Amount.lt_add safe positive
  rw [same] at fall
  lia

end

/-- What stands to someone's credit is safe if all amounts in the books are. -/
theorem Books.AllSafe.credit_le {books : Books} (safe : books.AllSafe) {operation : Operation}
    {caller : Address} {asset : Asset} {amount : Amount}
    (credit : operation.credit? caller books = some (asset, amount)) :
    amount ≤ Number.maxSafe := by
  cases operation with
  | contribute proof id =>
      obtain ⟨circle, found, same⟩ := exists_ok_of_map_toOption credit
      rw [← (Prod.mk.inj same).2]
      exact (safe.circles circle (Books.mem_of_circle found)).balance
  | deposit proof asset given =>
      obtain ⟨rfl, rfl⟩ := Prod.mk.inj (Option.some.inj credit)
      rw [Books.deposited]
      cases found : books.custody.find? (·.isOf caller asset) with
      | none => exact Nat.zero_le _
      | some entry => exact safe.deposits entry (List.mem_of_find?_eq_some found)
  | _ => cases credit

/-- In every world of a run in which all amounts are safe, a contribution or a deposit that returns
without being re-entered has added a positive amount to the credit. Custody has received just that
from the caller if and only if the caller is not custody itself and neither of the two sums is
rounded, as is the case if all amounts are safe afterwards. What custody pays itself is credited
while the ledger stays as it was. -/
theorem credits_are_received_iff {host : Host} {now clock : Number} {nonce : String}
    {draws : Draws} {steps : List Step} {world : World} {operation : Operation}
    {plan : List Encounter} {caller : Address} {asset : Asset} {before : Amount} {answer : Answer}
    (visits : Visits host (.opened now clock nonce draws) steps world) (safe : world.AllSafe)
    (idle : ∀ met ∈ plan, met.isIdle = true)
    (accepted : host.authorize operation.proof = .ok caller)
    (credit : operation.credit? caller world.books = some (asset, before))
    (returned : ((Step.call operation plan).run host world).2.outcome = .ok answer) :
    ∃ (next : World) (after amount : Amount),
      next = ((Step.call operation plan).run host world).1 ∧
      operation.credit? caller next.books = some (asset, after) ∧
      0 < amount ∧ after = Amount.add before amount ∧
      (Received host asset caller before after world next ↔ caller ≠ host.custody ∧
        after = before + amount ∧
        Amount.add (world.ledger.balance asset host.custody) amount =
          world.ledger.balance asset host.custody + amount) ∧
      (next.AllSafe → (Received host asset caller before after world next ↔
        caller ≠ host.custody)) ∧
      (caller = host.custody → next.ledger = world.ledger ∧ before < after) := by
  have sound circle (mem : circle ∈ world.books.circles) : circle.Sound :=
    (circleInvariant_sound host).holds (fun _ _ _ _ => trivial) visits mem
  obtain ⟨effect, _, performed, _⟩ := Step.run_eq_ok returned
  obtain ⟨amount, positive, transfers, credited⟩ :=
    (performs_of_perform performed).credits sound accepted credit
  obtain ⟨books, made⟩ := Step.paid_of_idle idle performed transfers returned
  generalize ((Step.call operation plan).run host world).1 = next at books made
  rw [← books] at credited
  have held := safe.books.credit_le credit
  refine ⟨next, _, amount, rfl, credited, positive, rfl, ?_⟩
  by_cases own : caller = host.custody
  · subst own
    have same := Ledger.transfer_self made
    have missing : ¬Received host asset host.custody before (Amount.add before amount) world next :=
      not_received_of_custody held positive same
    exact ⟨by simp [missing], by simp [missing], fun _ => ⟨same, Amount.lt_add held positive⟩⟩
  · obtain ⟨paid, gained⟩ :=
      Ledger.transfer_apart made own (safe.ledger.balance_le asset caller) positive
    have received : Received host asset caller before (Amount.add before amount) world next ↔ _ :=
      received_iff_of_paid paid gained
    refine ⟨by simp [received, own], fun nextSafe => ?_, fun same => absurd same own⟩
    have first := nextSafe.books.credit_le credited
    have second := nextSafe.ledger.balance_le asset host.custody
    rw [gained] at second
    rw [received]
    simp [own, Amount.add_eq_of_le first, Amount.add_eq_of_le second]

/-- A member who has twice the contribution makes it, and custody receives it. -/
theorem credits_are_received_of_contribution :
    let proof := Host.sample.proofOf "a"
    let contribution : Operation := .contribute proof (.ofNat 1)
    let steps : List Step :=
      [.mint "USDC" "a" (.ofNat 200), .call (.createCircle proof .sample) [],
        .call (.join proof (.ofNat 1)) []]
    let world := (runAll Host.sample steps World.sample).1
    ∃ next after, next = ((Step.call contribution []).run Host.sample world).1 ∧
      contribution.credit? "a" next.books = some ("USDC", after) ∧
      Received Host.sample "USDC" "a" 0 after world next ∧ 0 < after := by
  intro proof contribution steps world
  have safe : world.AllSafe := by decide +kernel
  have credit : contribution.credit? "a" world.books = some ("USDC", 0) := by decide +kernel
  have returned : ((Step.call contribution []).run Host.sample world).2.outcome.toOption.map
      (fun _ => ()) = some () := by
    decide +kernel
  have stays : ((Step.call contribution []).run Host.sample world).1.AllSafe := by decide +kernel
  have accepted : Host.sample.authorize contribution.proof = .ok "a" := rfl
  have visits : Visits Host.sample World.sample steps world := .inl rfl
  clear_value world
  obtain ⟨answer, isAnswer, _⟩ := exists_ok_of_map_toOption returned
  obtain ⟨next, after, amount, isNext, credited, positive, rfl, _, received, _⟩ :=
    credits_are_received_iff visits safe (by simp) accepted credit isAnswer
  refine ⟨next, _, isNext, credited, (received (isNext ▸ stays)).2 (by decide), ?_⟩
  exact Amount.lt_add (Nat.zero_le _) positive

/-- The account that holds the deposits has nothing, deposits, and is credited with it. -/
theorem custody_is_credited_for_nothing :
    let deposit : Operation := .deposit (Host.sample.proofOf "vault") "USDC" (.ofNat 5)
    let next := ((Step.call deposit []).run Host.sample World.sample).1
    Host.sample.custody = "vault" ∧
      deposit.credit? "vault" World.sample.books = some ("USDC", 0) ∧
      deposit.credit? "vault" next.books = some ("USDC", 5) ∧
      ¬Received Host.sample "USDC" "vault" 0 5 World.sample next := by
  intro deposit next
  have same : next.ledger = World.sample.ledger := by decide +kernel
  refine ⟨rfl, by decide +kernel, by decide +kernel, fun received => ?_⟩
  have fall := received.paid
  rw [same] at fall
  omega

end SavingsCircle
