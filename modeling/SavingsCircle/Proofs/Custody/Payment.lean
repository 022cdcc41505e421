import Mathlib.Algebra.Order.BigOperators.Group.List
import SavingsCircle.Proofs.Custody.Owed

/-!
# Payments out of custody

The ledger refuses a transfer of more than its source has. What has to be shown of a call that pays
out is therefore that the account covers its transfers, one after the other (`Outgoing`). The checks
of the calls themselves never refuse for want of funds in an account (`perform_ne_shortfall`).
-/

namespace SavingsCircle

def Operation.paysOut : Operation → Bool
  | .kick .. | .fillVacancy .. | .processPayout .. | .withdrawProRata .. | .emergencyWithdraw .. =>
    true
  | _ => false

/-- An encounter in which nothing is done, though it may make the transfer fail. -/
def Encounter.isIdle : Encounter → Bool
  | .meets [] _ => true
  | .meets (_ :: _) _ => false

/-- Transfers of an asset out of an account to others, all but the first of natural amounts. -/
structure Outgoing (holder : Address) (asset : Asset) (transfers : List Transfer) : Prop where
  out : ∀ transfer ∈ transfers,
    transfer.asset = asset ∧ transfer.source = holder ∧ transfer.target ≠ holder
  natural : ∀ transfer ∈ transfers.tail, ∃ n, transfer.amount = .ofNat n

namespace Ledger

/-- No account holds more than is exact. -/
def IsSafe (ledger : Ledger) : Prop :=
  ∀ account ∈ ledger.accounts, account.balance ≤ Number.maxSafe

instance (ledger : Ledger) : Decidable ledger.IsSafe :=
  inferInstanceAs (Decidable (∀ account ∈ ledger.accounts, account.balance ≤ Number.maxSafe))

variable {ledger next : Ledger} {asset : Asset} {source target : Address} {amount : Number}

theorem IsSafe.balance_le (safe : ledger.IsSafe) (asset : Asset) (holder : Address) :
    ledger.balance asset holder ≤ Number.maxSafe := by
  rw [balance]
  cases found : ledger.account? asset holder with
  | none => exact Nat.zero_le _
  | some account => exact safe account (List.mem_of_find?_eq_some found)

/-- A transfer that takes effect moves units, if any, that the source has. -/
theorem transfer_eq_ok (made : ledger.transfer asset source target amount = .ok next) :
    ∃ units, amount.safeNat? = some units ∧
      ((units = 0 ∨ source = target) ∧ next = ledger ∨
        source ≠ target ∧ units ≤ ledger.balance asset source ∧
          next = (ledger.put asset source (Amount.sub (ledger.balance asset source) units)).credit
            asset target units) := by
  simp only [transfer, bind_eq_ok, demandSome_eq_ok] at made
  obtain ⟨units, safe, made⟩ := made
  refine ⟨units, safe, ?_⟩
  split at made
  · next idle => exact .inl ⟨idle, (Except.ok.inj made).symm⟩
  · next moves =>
    simp only [bind_eq_ok, demand_eq_ok] at made
    obtain ⟨_, enough, made⟩ := made
    exact .inr ⟨fun same => moves (.inr same), enough, (Except.ok.inj made).symm⟩

/-- A transfer that is refused for want of funds is one of more than the source has. -/
theorem lt_of_shortfall {message : String}
    (refused : ledger.transfer asset source target amount =
      .error (.circle .insufficientAllowance message)) :
    ∃ units : Nat, amount.safeNat? = some units ∧
      (ledger.balance asset source : Int) < units := by
  simp only [transfer, bind_eq_error, demandSome_eq_error, demandSome_eq_ok] at refused
  rcases refused with ⟨_, other⟩ | ⟨units, safe, refused⟩
  · simp [Failure.invalidAmount] at other
  · split at refused
    · simp [pure, Except.pure] at refused
    · simp only [bind_eq_error, demand_eq_error] at refused
      rcases refused with ⟨short, _⟩ | ⟨_, _, refused⟩
      · exact ⟨units, safe, Int.ofNat_lt.2 (Nat.lt_of_not_le short)⟩
      · simp [pure, Except.pure] at refused

/-- What a transfer drains from an account is what the account lacks afterwards. -/
theorem balance_transfer (transfer : Transfer)
    (made : ledger.transfer transfer.asset transfer.source transfer.target transfer.amount =
      .ok next)
    {other : Asset} {holder : Address} (safe : ledger.balance other holder ≤ Number.maxSafe)
    (nextSafe : transfer.target = holder → next.balance other holder ≤ Number.maxSafe) :
    (next.balance other holder : Int) + transfer.drain other holder =
      ledger.balance other holder := by
  obtain ⟨asset, source, target, amount⟩ := transfer
  dsimp only at made nextSafe
  obtain ⟨units, isUnits, ⟨idle, rfl⟩ | ⟨differ, enough, rfl⟩⟩ := transfer_eq_ok made
  · have nothing : Transfer.drain ⟨asset, source, target, amount⟩ other holder = 0 := by
      rcases idle with rfl | rfl <;> simp [Transfer.drain, Number.int?_of_safeNat? isUnits]
    rw [nothing, Int.add_zero]
  · have waiting (left : Amount) :
        (ledger.put asset source left).balance asset target = ledger.balance asset target := by
      rw [balance_put, if_neg fun same => differ same.2.symm]
    simp only [Transfer.drain, Number.int?_of_safeNat? isUnits, Option.getD_some]
    rw [balance_credit, waiting, balance_put] at nextSafe ⊢
    by_cases own : other = asset
    · subst own
      by_cases gains : target = holder
      · subst gains
        have grown := nextSafe rfl
        rw [if_pos ⟨rfl, rfl⟩] at grown ⊢
        rw [Amount.add_eq_of_le grown]
        simp [differ]
      · by_cases pays : source = holder
        · subst pays
          have left : Amount.sub (ledger.balance other source) units =
              ledger.balance other source - units := Amount.sub_eq safe
          have := Int.ofNat_sub enough
          simp only [gains, Ne.symm gains, left, and_false, and_self, if_true, if_false]
          omega
        · simp [pays, gains, Ne.symm pays, Ne.symm gains]
    · simp [own, Ne.symm own]

end Ledger

namespace Outgoing

variable {holder target : Address} {asset : Asset} {transfer : Transfer}
variable {transfers : List Transfer} {world : World}

theorem of_natural (paid : ∀ transfer ∈ transfers, ∃ target n, target ≠ holder ∧
    transfer = ⟨asset, holder, target, .ofNat n⟩) : Outgoing holder asset transfers where
  out transfer mem := by
    obtain ⟨target, n, apart, rfl⟩ := paid transfer mem
    exact ⟨rfl, rfl, apart⟩
  natural transfer mem := by
    obtain ⟨target, n, _, rfl⟩ := paid transfer (List.mem_of_mem_tail mem)
    exact ⟨n, rfl⟩

theorem cons {units : Int} (apart : target ≠ holder)
    (paid : ∀ transfer ∈ transfers, ∃ target n, target ≠ holder ∧
      transfer = ⟨asset, holder, target, .ofNat n⟩) :
    Outgoing holder asset (⟨asset, holder, target, .ofInt units⟩ :: transfers) where
  out := List.forall_mem_cons.2 ⟨⟨rfl, rfl, apart⟩, (of_natural paid).out⟩
  natural transfer mem := by
    obtain ⟨_, n, _, rfl⟩ := paid transfer mem
    exact ⟨n, rfl⟩

theorem drain_eq (outgoing : Outgoing holder asset transfers) (mem : transfer ∈ transfers) :
    transfer.drain asset holder = transfer.amount.int?.getD 0 := by
  obtain ⟨own, pays, apart⟩ := outgoing.out transfer mem
  simp [Transfer.drain, own, pays, apart]

theorem drains_tail_nonneg (outgoing : Outgoing holder asset (transfer :: transfers)) :
    0 ≤ drains transfers asset holder := by
  apply List.sum_nonneg
  intro units mem
  obtain ⟨other, isOther, rfl⟩ := List.mem_map.1 mem
  obtain ⟨n, natural⟩ := outgoing.natural other isOther
  rw [outgoing.drain_eq (List.mem_cons_of_mem _ isOther), natural]
  simp [Number.ofNat]

theorem tail (outgoing : Outgoing holder asset (transfer :: transfers)) :
    Outgoing holder asset transfers where
  out other mem := outgoing.out other (List.mem_cons_of_mem _ mem)
  natural other mem := outgoing.natural other (List.mem_of_mem_tail mem)

/-- An account that covers payments is not found short by the first, and covers the others once the
first is made. -/
theorem carry (outgoing : Outgoing holder asset (transfer :: transfers))
    (safe : world.ledger.balance asset holder ≤ Number.maxSafe)
    (covered : drains (transfer :: transfers) asset holder ≤ world.ledger.balance asset holder) :
    (∀ message, world.carry transfer ≠ .error (.circle .insufficientAllowance message)) ∧
    ∀ next, world.carry transfer = .ok next →
      next.ledger.balance asset holder ≤ Number.maxSafe ∧
        drains transfers asset holder ≤ next.ledger.balance asset holder := by
  obtain ⟨rfl, rfl, apart⟩ := outgoing.out transfer List.mem_cons_self
  have others := outgoing.drains_tail_nonneg
  have amount := outgoing.drain_eq List.mem_cons_self
  rw [drains_cons] at covered
  constructor
  · intro message refused
    simp only [World.carry, bind_eq_error] at refused
    rcases refused with refused | ⟨_, _, refused⟩
    · obtain ⟨units, isUnits, short⟩ := Ledger.lt_of_shortfall refused
      rw [Number.int?_of_safeNat? isUnits, Option.getD_some] at amount
      omega
    · simp [pure, Except.pure] at refused
  · intro next made
    obtain ⟨ledger, moved, rfl⟩ := World.carry_eq_ok made
    have drained := Ledger.balance_transfer transfer moved safe fun same => absurd same apart
    obtain ⟨units, isUnits, _⟩ := Ledger.transfer_eq_ok moved
    rw [Number.int?_of_safeNat? isUnits, Option.getD_some] at amount
    refine ⟨Nat.le_trans ?_ safe, ?_⟩
    · apply Int.ofNat_le.1
      change (ledger.balance transfer.asset transfer.source : Int) ≤ _
      omega
    · change _ ≤ (ledger.balance transfer.asset transfer.source : Int)
      omega

/-- An account that covers payments which meet nothing is not found short by any of them. -/
theorem settle_ne_shortfall (host : Host) (plan : List Encounter)
    (idle : ∀ met ∈ plan, met.isIdle = true) (outgoing : Outgoing holder asset transfers)
    (safe : world.ledger.balance asset holder ≤ Number.maxSafe)
    (covered : drains transfers asset holder ≤ world.ledger.balance asset holder)
    (message : String) :
    (settle host plan transfers world).failure ≠
      some (.circle .insufficientAllowance message) := by
  -- Each transfer that is made leaves the account covering those after it.
  induction transfers generalizing plan world with
  | nil => cases plan <;> simp [settle, World.carryAll]
  | cons transfer transfers ih =>
      obtain ⟨enough, next⟩ := outgoing.carry safe covered
      cases plan with
      | nil =>
          simp only [settle, World.carryAll]
          cases made : world.carry transfer with
          | error failure =>
              rintro ⟨⟩
              exact enough message made
          | ok after =>
              have kept := next after made
              exact ih [] (by simp) outgoing.tail kept.1 kept.2
      | cons met plan =>
          rw [List.forall_mem_cons] at idle
          obtain ⟨_ | _, fault⟩ := met
          · simp only [settle, runAll]
            cases fault with
            | some _ => simp
            | none =>
                cases made : world.carry transfer with
                | error failure =>
                    rintro ⟨⟩
                    exact enough message made
                | ok after =>
                    have kept := next after made
                    exact ih plan idle.2 outgoing.tail kept.1 kept.2
          · simp [Encounter.isIdle] at idle

end Outgoing

section

variable {host : Host} {moment : Moment} {books : Books} {operation : Operation} {effect : Effect}

/-- The checks of a call that pays out never refuse for want of funds in an account. -/
theorem perform_ne_shortfall (out : operation.paysOut = true) (message : String) :
    operation.perform host moment books ≠ .error (.circle .insufficientAllowance message) := by
  intro refused
  cases operation with
  | kick | processPayout | fillVacancy | withdrawProRata | emergencyWithdraw =>
      simp [Operation.perform, Books.kick, Books.processPayout, Books.payoutShortfall,
        Books.fillVacancy, Books.withdrawProRata, Books.emergencyWithdraw, Books.byAdmin,
        Books.byMember, Books.circle, Records.record, Host.authorize, Circle.demandOpen,
        bind_eq_error, demand_eq_error, demandSome_eq_error, Failure.ofKind, Failure.invalidAmount,
        pure, Except.pure, ite_eq_iff] at refused
  | _ => simp [Operation.paysOut] at out

theorem natural_of_mem_payOut {circle : Circle} {target : Address} {amount : Amount}
    (apart : target ≠ host.custody) :
    ∀ transfer ∈ circle.payOut host target amount, ∃ target n, target ≠ host.custody ∧
      transfer = ⟨circle.asset, host.custody, target, .ofNat n⟩ := by
  intro transfer mem
  rw [Circle.payOut] at mem
  split at mem
  · exact ⟨target, amount, apart, List.mem_singleton.1 mem⟩
  · simp at mem

theorem natural_of_mem_toList {whom : Option Address} {asset : Asset} {holder : Address}
    {amount : Amount} (apart : whom ≠ some holder) :
    ∀ transfer ∈ whom.toList.map fun target => (⟨asset, holder, target, .ofNat amount⟩ : Transfer),
      ∃ target n, target ≠ holder ∧ transfer = ⟨asset, holder, target, .ofNat n⟩ := by
  intro transfer mem
  obtain ⟨target, isTarget, rfl⟩ := List.mem_map.1 mem
  refine ⟨target, amount, ?_, rfl⟩
  rintro rfl
  exact apart (Option.mem_toList.1 isTarget)

/-- Calls that pay out ask for nothing but payments out of custody. -/
theorem Performs.outgoing (performs : Performs host moment books operation effect)
    (out : operation.paysOut = true) (sound : ∀ circle ∈ books.circles, circle.Sound)
    (spared : books.Spares host.custody)
    (stranger : ∀ proof ∈ operation.proof, proof.principal ≠ host.custody) :
    ∃ asset, Outgoing host.custody asset effect.transfers := by
  have fits {circle : Circle} {caller : Address} {change : Change} (mem : circle ∈ books.circles)
      (deed : Deed host moment books circle caller operation change) :
      ∃ asset, Outgoing host.custody asset change.transfers := by
    have apart {member : Address} {found : Nat × Seat}
        (seated : circle.seat? member = some found) : member ≠ host.custody :=
      (sound circle mem).indexed.ne_of_seat? (spared.members circle mem) seated
    cases deed with
    | kick _ _ seated _ _ _ isFined =>
        subst isFined
        refine ⟨circle.asset, .of_natural fun transfer isPaid => ?_⟩
        rcases List.mem_append.1 isPaid with refund | fine
        · exact natural_of_mem_payOut (apart seated) transfer refund
        · exact natural_of_mem_toList (Books.ne_of_treasury spared.treasury) transfer fine
    | fillVacancy _ _ seated => exact ⟨_, .of_natural (natural_of_mem_payOut (apart seated))⟩
    | processPayout _ _ active =>
        have seated := (Circle.seat?_of_activeSeat? active).2
        exact ⟨_, .cons (apart seated)
          (natural_of_mem_toList (Books.ne_of_treasury spared.treasury))⟩
    | withdrawNothing => exact ⟨circle.asset, .of_natural (by simp [Circle.answering])⟩
    | withdrawProRata _ seated => exact ⟨_, .of_natural (natural_of_mem_payOut (apart seated))⟩
    | _ => simp [Operation.paysOut] at out
  cases performs with
  | @emergencyWithdraw _ asset user caller =>
      obtain ⟨given, isGiven, rfl⟩ := Host.eq_principal_of_authorize caller
      refine ⟨asset, .of_natural fun transfer mem => ?_⟩
      split at mem
      · exact ⟨given.principal, _, stranger given isGiven, List.mem_singleton.1 mem⟩
      · simp at mem
  | byAdmin _ found _ _ deed => exact fits (Books.mem_of_circle found) deed
  | byMember _ found _ _ deed => exact fits (Books.mem_of_circle found) deed
  | _ => simp [Operation.paysOut] at out

end

end SavingsCircle
