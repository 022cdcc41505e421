import SavingsCircle.Proofs.Circle.Entries
import SavingsCircle.Proofs.Fees
import SavingsCircle.Proofs.Run.Alone
import SavingsCircle.Proofs.Run.Failure
import SavingsCircle.Proofs.Service.Reckoning

/-!
# Amounts that come out too large

What a call is given can be fit (`Operation.IsFit`) and still lead to an amount that is refused. A
penalty has no bound of its own, and a duration that is not given is what the host was set up with.
The dues of a member are a contribution with its surcharges, the fee on a payout can be rounded
above the payout, and deposits add up. `Oversized` lists these calls.

Nothing else that a call moves is too large: refunds and penalties come out of what was paid in at
one seat, which is one contribution at most (`Circle.Entered`). A call that is given what is fit and
is not re-entered is therefore refused for an amount exactly if it is oversized, and never for an
asset or an address (`Step.run_eq_request_iff`).
-/

namespace SavingsCircle

def Number.IsAmount (value : Number) : Prop := ∃ amount, value.safeNat? = some amount ∧ 0 < amount

structure CircleTerms.IsFit (terms : CircleTerms) : Prop where
  contribution : terms.contribution.IsAmount
  duration : ∀ duration ∈ terms.cycleDuration, duration.IsAmount
  lateFeeRate : (Fees.rate? (terms.lateFeeRate.getD (.ofNat 0))).isSome
  insuranceFeeRate : (Fees.rate? (terms.insuranceFeeRate.getD (.ofNat 0))).isSome
  asset : ∃ asset, terms.asset = some asset ∧ Text.hasInk asset = true

/-- What a call is given is fit to be worked with. -/
def Operation.IsFit : Operation → Prop
  | .createCircle _ terms => terms.IsFit
  | .transferAdmin _ _ admin => ∃ name, admin = some name ∧ Text.hasInk name = true
  | .kick _ _ _ penalty => penalty.nat?.isSome
  | .deposit _ _ amount => amount.IsAmount
  | _ => True

/-- The calls that lead to an amount which is refused, though what they are given is fit. -/
inductive Oversized (host : Host) (world : World) : Operation → Prop where
  | penalty {proof id circle member given penalty} (found : world.books.circle id = .ok circle)
      (caller : host.authorize proof = .ok circle.admin) (isOpen : circle.isDissolved = false)
      (isPenalty : given.nat? = some penalty) (exceeds : Number.maxSafe < penalty) :
      Oversized host world (.kick proof id member given)
  | duration {proof terms founder} (caller : host.authorize proof = .ok founder)
      (unset : terms.cycleDuration = none) (unfit : ¬host.defaultCycleDuration.IsAmount) :
      Oversized host world (.createCircle proof terms)
  | dues {proof id circle effect} (found : world.books.circle id = .ok circle)
      (performed : Operation.perform (.contribute proof id) host world.moment world.books =
        .ok effect)
      (dated : world.stamp?.isSome)
      (exceeds : Number.maxSafe <
        circle.contribution + circle.lateFee world.now + circle.insuranceFee) :
      Oversized host world (.contribute proof id)
  | fee {proof id circle recipient effect} (found : world.books.circle id = .ok circle)
      (performed : Operation.perform (.processPayout proof id recipient) host world.moment
        world.books = .ok effect)
      (dated : world.stamp?.isSome)
      (exceeds : Fees.Overcharges circle.contribution world.books.feeRate) :
      Oversized host world (.processPayout proof id recipient)
  | savings {proof asset user} (caller : host.authorize proof = .ok user)
      (unlocked : world.books.isUnlocked world.now = true)
      (exceeds : Number.maxSafe < world.books.deposited user asset) :
      Oversized host world (.emergencyWithdraw proof asset)

def Movable (transfers : List Transfer) : Prop :=
  ∀ transfer ∈ transfers, transfer.amount.safeNat?.isSome

theorem Number.safeNat?_ofNat {n : Nat} (safe : n ≤ maxSafe) : (ofNat n).safeNat? = some n := by
  rw [safeNat?, nat?_ofNat, Option.bind_some, if_pos safe]

theorem Number.isSome_safeNat?_ofNat_iff {n : Nat} : (ofNat n).safeNat?.isSome ↔ n ≤ maxSafe := by
  rw [ofNat, isSome_safeNat?_ofInt_iff]
  lia

theorem Number.safeNat?_ofNat_eq_none_iff {n : Nat} :
    (ofNat n).safeNat? = none ↔ maxSafe < n := by
  rw [← Option.not_isSome_iff_eq_none, isSome_safeNat?_ofNat_iff, Nat.not_le]

theorem Amount.add_add_le_iff {a b c : Amount} :
    add (add a b) c ≤ Number.maxSafe ↔ a + b + c ≤ Number.maxSafe := by
  constructor
  · intro safe
    rwa [← add_add_eq_of_le safe]
  · intro safe
    have first : a + b ≤ Number.maxSafe := (Nat.le_add_right _ c).trans safe
    rwa [add_eq first, add_eq safe]

/-! ## Calls that meet nothing -/

namespace Ledger

variable {ledger : Ledger} {status : Nat} {code message : String} {transfers : List Transfer}

/-- A transfer is refused as such only for its amount. -/
theorem transfer_eq_request {asset : Asset} {source target : Address} {amount : Number}
    (refused : ledger.transfer asset source target amount = .error (.request status code message)) :
    amount.safeNat? = none := by
  simp only [transfer, bind_eq_error, demandSome_eq_error] at refused
  rcases refused with ⟨none, _⟩ | ⟨units, _, refused⟩
  · exact none
  · split at refused
    · cases refused
    · simp only [bind_eq_error, demand_eq_error, shortfall] at refused
      rcases refused with ⟨_, short⟩ | ⟨_, _, done⟩
      · cases short
      · cases done

/-- Transfers of amounts that can be transferred fail for want of funds only. -/
theorem settle_ne_request (movable : Movable transfers) :
    (ledger.settle [] transfers).2 ≠ some (.request status code message) := by
  induction transfers generalizing ledger with
  | nil => exact nofun
  | cons transfer transfers ih =>
      rw [Movable, List.forall_mem_cons] at movable
      simp only [settle, List.head?_nil, Option.bind_none, List.tail_nil]
      cases made : ledger.transfer transfer.asset transfer.source transfer.target
          transfer.amount with
      | ok next => exact ih movable.2
      | error failure =>
          rintro ⟨⟩
          have refused := transfer_eq_request made
          simp [refused] at movable

/-- A transfer of an amount that cannot be transferred is refused, whatever the source has. -/
theorem settle_of_immovable {transfer : Transfer} (refused : transfer.amount.safeNat? = none) :
    ledger.settle [] (transfer :: transfers) =
      (ledger, some (.invalidAmount "Transfer amount must be a non-negative integer.")) := by
  simp only [settle, List.head?_nil, Option.bind_none, Ledger.transfer, refused]
  rfl

end Ledger

section

variable {host : Host} {world : World} {moment : Moment} {books : Books} {circle : Circle}
variable {operation : Operation} {proof : Option Proof} {id : Number} {status : Nat}
variable {code message : String}

/-! ## How checks refuse what is given -/

theorem Host.authorize_ne_request :
    host.authorize proof ≠ .error (.request status code message) := by
  intro rejected
  simp only [authorize, bind_eq_error, demandSome_eq_error, demand_eq_error] at rejected
  rcases rejected with ⟨_, other⟩ | ⟨_, _, ⟨_, other⟩ | ⟨_, _, done⟩⟩
  · cases other
  · cases other
  · cases done

theorem Books.circle_ne_request : books.circle id ≠ .error (.request status code message) := by
  rw [circle, Ne, demandSome_eq_error]
  rintro ⟨_, other⟩
  cases other

/-- A call of an administrator is refused as such in its body. -/
theorem byAdmin_eq_request {body : Circle → Except Failure Change}
    (refused : books.byAdmin host moment proof id body =
      .error (.request status code message)) :
    ∃ circle, books.circle id = .ok circle ∧ host.authorize proof = .ok circle.admin ∧
      body circle = .error (.request status code message) := by
  simp only [Books.byAdmin, bind_eq_error, demand_eq_error, demand_eq_ok] at refused
  rcases refused with missing |
    ⟨circle, found, rejected | ⟨_, accepted, ⟨_, stranger⟩ | ⟨_, rfl, refused | ⟨_, _, done⟩⟩⟩⟩
  · exact absurd missing Books.circle_ne_request
  · exact absurd rejected Host.authorize_ne_request
  · cases stranger
  · exact ⟨circle, found, accepted, refused⟩
  · cases done

theorem byMember_eq_request {body : Address → Circle → Except Failure Change}
    (refused : books.byMember host proof id body = .error (.request status code message)) :
    ∃ caller circle, body caller circle = .error (.request status code message) := by
  simp only [Books.byMember, bind_eq_error] at refused
  rcases refused with rejected |
    ⟨caller, _, missing | ⟨circle, _, refused | ⟨_, _, done⟩⟩⟩
  · exact absurd rejected Host.authorize_ne_request
  · exact absurd missing Books.circle_ne_request
  · exact ⟨caller, circle, refused⟩
  · cases done

theorem Number.IsAmount.demandPositive {value : Number} (isAmount : value.IsAmount)
    (message : String) : ∃ amount, demandPositive value message = .ok amount := by
  obtain ⟨amount, safe, positive⟩ := isAmount
  exact ⟨amount, demandPositive_eq_ok.2 ⟨safe, positive⟩⟩

theorem demandPositive_eq_error_iff {value : Number} {failure : Failure} :
    demandPositive value message = .error failure ↔
      ¬value.IsAmount ∧ .invalidAmount message = failure := by
  simp only [demandPositive, bind_eq_error, demandSome_eq_error, demandSome_eq_ok,
    demand_eq_error, Number.IsAmount]
  constructor
  · rintro (⟨none, same⟩ | ⟨amount, safe, ⟨nothing, same⟩ | ⟨_, _, done⟩⟩)
    · exact ⟨by simp [none], same⟩
    · exact ⟨by simpa [safe] using nothing, same⟩
    · cases done
  · rintro ⟨unfit, same⟩
    cases safe : value.safeNat? with
    | none => exact .inl ⟨rfl, same⟩
    | some amount => exact .inr ⟨amount, rfl, .inl ⟨fun some => unfit ⟨amount, safe, some⟩, same⟩⟩

theorem CircleTerms.IsFit.not_isAmount_iff {terms : CircleTerms} (fit : terms.IsFit)
    {usual : Number} :
    ¬(terms.cycleDuration.getD usual).IsAmount ↔
      terms.cycleDuration = none ∧ ¬usual.IsAmount := by
  cases given : terms.cycleDuration with
  | none => simp
  | some duration => simpa using fit.duration duration given

/-- A circle is not founded if the founder or the duration is refused, the other terms being fit. -/
theorem createCircle_eq_error_iff {terms : CircleTerms} {failure : Failure} (fit : terms.IsFit) :
    books.createCircle host moment proof terms = .error failure ↔
      host.authorize proof = .error failure ∨ ∃ founder, host.authorize proof = .ok founder ∧
        demandPositive (terms.cycleDuration.getD host.defaultCycleDuration)
          "Cycle duration must be a positive number of seconds." = .error failure := by
  obtain ⟨contribution, isContribution⟩ :=
    fit.contribution.demandPositive "Contribution must be a positive integer."
  obtain ⟨lateFeeRate, isLateFeeRate⟩ := Option.isSome_iff_exists.1 fit.lateFeeRate
  obtain ⟨insuranceFeeRate, isInsuranceFeeRate⟩ :=
    Option.isSome_iff_exists.1 fit.insuranceFeeRate
  obtain ⟨asset, isAsset, ink⟩ := fit.asset
  simp [Books.createCircle, bind_eq_error, isContribution, demandRate, demandSome,
    isLateFeeRate, isInsuranceFeeRate, isAsset, ink, demand, Functor.map, Except.map]

/-- The only amounts that checks refuse, if what a call is given is fit, are a penalty that is too
large and the duration that the host was set up with. -/
theorem Operation.perform_eq_request (fit : operation.IsFit)
    (refused : operation.perform host world.moment world.books =
      .error (.request status code message)) :
    code = "INVALID_AMOUNT" ∧ Oversized host world operation := by
  cases operation with
  | kick _ _ member given =>
      obtain ⟨penalty, isPenalty⟩ := Option.isSome_iff_exists.1 fit
      obtain ⟨circle, found, caller, refused⟩ := byAdmin_eq_request refused
      simp [Circle.demandOpen, bind_eq_error, demand_eq_error, demand_eq_ok, demandSome_eq_error,
        Failure.ofKind, Failure.invalidAmount, pure, Except.pure] at refused
      obtain ⟨isOpen, tooLarge, _, rfl, _⟩ := refused
      refine ⟨rfl, .penalty found caller isOpen isPenalty ?_⟩
      rw [Number.safeNat?, isPenalty, Option.bind_some] at tooLarge
      by_contra small
      rw [if_pos (Nat.le_of_not_lt small)] at tooLarge
      cases tooLarge
  | createCircle =>
      obtain rejected | ⟨founder, caller, refused⟩ := (createCircle_eq_error_iff fit).1 refused
      · exact absurd rejected Host.authorize_ne_request
      · obtain ⟨unfit, same⟩ := demandPositive_eq_error_iff.1 refused
        obtain ⟨unset, unfit⟩ := fit.not_isAmount_iff.1 unfit
        cases same
        exact ⟨rfl, .duration caller unset unfit⟩
  | transferAdmin =>
      obtain ⟨name, rfl, ink⟩ := fit
      obtain ⟨_, _, _, refused⟩ := byAdmin_eq_request refused
      simp [demandSome, ink, bind_eq_error, demand_eq_error, pure, Except.pure] at refused
  | deposit =>
      obtain ⟨amount, isAmount⟩ :=
        Number.IsAmount.demandPositive fit "Deposit amount must be a positive integer."
      simp [perform, Books.deposit, bind_eq_error, isAmount, Host.authorize_ne_request, pure,
        Except.pure] at refused
  -- The calls that are left are given no amount, and their refusals are the service's own.
  | eject | fillVacancy | swapByAdmin | processPayout | finalize | rollover | coverMember =>
      obtain ⟨_, _, _, refused⟩ := byAdmin_eq_request refused
      simp [Books.swapIn, Circle.demandOpen, Records.record, Host.authorize, bind_eq_error,
        demand_eq_error, demandSome_eq_error, Failure.ofKind, Books.payoutShortfall, ite_eq_iff,
        pure, Except.pure] at refused
  | join | requestExit | contribute | withdrawProRata | proposeDissolution | voteDissolution
  | proposeLateFee | voteLateFee =>
      obtain ⟨_, _, refused⟩ := byMember_eq_request refused
      simp [Circle.demandOpen, Circle.demandVoter, Records.record, demandRate, bind_eq_error,
        demand_eq_error, demandSome_eq_error, Failure.ofKind, ite_eq_iff, pure, Except.pure]
        at refused
  | swap =>
      simp [perform, Books.swap, Books.swapIn, Circle.demandOpen, Records.record, bind_eq_error,
        Host.authorize_ne_request, Books.circle_ne_request, demand_eq_error, demandSome_eq_error,
        Failure.ofKind, ite_eq_iff, pure, Except.pure] at refused
  | claimProtocol | adminAction | setProtocolFee | emergencyWithdraw =>
      simp [perform, Books.claimProtocol, Books.adminAction, Books.administered,
        Books.setProtocolFee, Books.emergencyWithdraw, Host.authorize_ne_request, demandRate,
        bind_eq_error, demand_eq_error, demandSome_eq_error, Failure.ofKind, pure, Except.pure]
        at refused

/-! ## What calls move -/

/-- Books in which circles, what is paid in, and the fee on payouts are bounded. -/
structure Books.Bounded (books : Books) : Prop where
  sound : ∀ circle ∈ books.circles, circle.Sound
  entered : ∀ circle ∈ books.circles, circle.Entered books.records
  rate : books.feeRate ≤ Fees.wholeRate

theorem movable_payOut {target : Address} {amount : Amount} (safe : amount ≤ Number.maxSafe) :
    Movable (circle.payOut host target amount) := by
  intro transfer mem
  rw [Circle.payOut] at mem
  split at mem
  · rw [List.mem_singleton.1 mem]
    exact Number.isSome_safeNat?_ofNat_iff.2 safe
  · cases mem

/-- Refunds, penalties and dues can be transferred, unless the dues are too large. Of payouts
nothing is said. -/
theorem Deed.movable {caller : Address} {change : Change} (sound : circle.Sound)
    (entered : circle.Entered books.records)
    (deed : Deed host moment books circle caller operation change) :
    Movable change.transfers ∨
      (∃ proof id recipient, operation = .processPayout proof id recipient) ∨
      (∃ proof id, operation = .contribute proof id) ∧ Number.maxSafe <
        circle.contribution + circle.lateFee moment.now + circle.insuranceFee := by
  have paidIn {address : Address} {found : Nat × Seat}
      (seated : circle.seat? address = some found) : found.2.paidIn ≤ Number.maxSafe :=
    entered.paidIn_le sound (List.mem_of_getElem? (Circle.seat?_eq_some_iff.1 seated).2)
  cases deed with
  | processPayout => exact .inr (.inl ⟨_, _, _, rfl⟩)
  | kick _ given seated _ _ isRefund isFined =>
      have refund := Amount.sub_le_maxSafe (paidIn seated)
      refine .inl (List.forall_mem_append.2 ⟨movable_payOut (isRefund ▸ refund _), ?_⟩)
      intro transfer mem
      obtain ⟨_, _, rfl⟩ := List.mem_map.1 mem
      exact Number.isSome_safeNat?_ofNat_iff.2 (Number.safeNat?_le given)
  | fillVacancy _ _ seated _ _ _ isRefund =>
      exact .inl (movable_payOut (isRefund ▸ Amount.sub_le_maxSafe (paidIn seated) _))
  | withdrawProRata _ seated isRefund =>
      exact .inl (movable_payOut (isRefund ▸ Amount.sub_le_maxSafe (paidIn seated) _))
  | contribute _ _ _ _ isLateFee isInsuranceFee isAmount =>
      subst isAmount isLateFee isInsuranceFee
      rcases Nat.lt_or_ge Number.maxSafe
        (circle.contribution + circle.lateFee moment.now + circle.insuranceFee) with large | within
      · exact .inr (.inr ⟨⟨_, _, rfl⟩, large⟩)
      · refine .inl (List.forall_mem_singleton.2 ?_)
        exact Number.isSome_safeNat?_ofNat_iff.2 (Amount.add_add_le_iff.2 within)
  | swap _ swapping | swapByAdmin swapping => cases swapping <;> exact .inl (List.forall_mem_nil _)
  | _ => exact .inl (List.forall_mem_nil _)

/-- Where an amount cannot be transferred it is one that comes out too large. -/
theorem oversized_of_immovable (bounded : world.books.Bounded) {effect : Effect} {written : World}
    (performed : operation.perform host world.moment world.books = .ok effect)
    (committed : world.commit effect = .ok written) (fixed : ¬Movable effect.transfers) :
    Oversized host world operation := by
  have dated := World.isSome_stamp?_of_commit committed
  cases performs_of_perform performed with
  | claimProtocol | adminAction | setProtocolFee | createCircle =>
      exact absurd (List.forall_mem_nil _) fixed
  | deposit _ safe =>
      have units := Number.isSome_safeNat?_ofNat_iff.2 (Number.safeNat?_le safe)
      refine absurd ?_ fixed
      exact List.forall_mem_singleton.2 units
  | emergencyWithdraw caller unlocked =>
      refine .savings caller unlocked (Nat.lt_of_not_le fun small => fixed ?_)
      intro transfer mem
      dsimp only at mem
      split at mem
      · rw [List.mem_singleton.1 mem]
        exact Number.isSome_safeNat?_ofNat_iff.2 small
      · cases mem
  | byAdmin named found _ administers deed =>
      have mem := Books.mem_of_circle found
      have sound := bounded.sound _ mem
      rcases deed.movable sound (bounded.entered _ mem) with
        movable | ⟨_, _, _, rfl⟩ | ⟨⟨_, _, rfl⟩, _⟩
      · exact absurd movable fixed
      · obtain rfl := Option.some.inj named
        obtain ⟨_, _, _, _, acceptable⟩ :=
          (performs_of_perform performed).payout_acceptable_iff found sound bounded.rate
        refine .fee found performed (dated ?_) (by_contra fun fair => fixed (acceptable.2 fair))
        cases deed
        exact List.cons_ne_nil _ _
      · cases administers
  | byMember named found _ belongs deed =>
      have mem := Books.mem_of_circle found
      rcases deed.movable (bounded.sound _ mem) (bounded.entered _ mem) with
        movable | ⟨_, _, _, rfl⟩ | ⟨⟨_, _, rfl⟩, exceeds⟩
      · exact absurd movable fixed
      · cases belongs
      · obtain rfl := Option.some.inj named
        refine .dues found performed (dated ?_) exceeds
        cases deed
        exact List.cons_ne_nil _ _

/-- A call fails if its first transfer is of an amount that cannot be transferred. -/
theorem Step.run_of_immovable {effect : Effect} {transfer : Transfer} {transfers : List Transfer}
    (performed : operation.perform host world.moment world.books = .ok effect)
    (dated : effect.events ≠ [] → world.stamp?.isSome)
    (areTransfers : effect.transfers = transfer :: transfers)
    (refused : transfer.amount.safeNat? = none) :
    ((Step.call operation []).run host world).2.outcome =
      .error (.invalidAmount "Transfer amount must be a non-negative integer.") := by
  obtain ⟨written, committed⟩ := World.exists_commit effect dated
  rw [Step.run_of_idle (by simp) performed committed, areTransfers,
    Ledger.settle_of_immovable refused]
  rfl

/-- The administrator of an open circle is refused a penalty that is not safe, whoever is to be
removed. -/
theorem Operation.perform_kick_of_unsafe {member : Address} {given : Number}
    (found : books.circle id = .ok circle) (caller : host.authorize proof = .ok circle.admin)
    (isOpen : circle.isDissolved = false) (tooLarge : given.safeNat? = none) :
    Operation.perform (.kick proof id member given) host moment books =
      .error (.invalidAmount "Penalty must be a non-negative integer.") := by
  simp [perform, Books.kick, Books.byAdmin, found, caller, Circle.demandOpen, isOpen, tooLarge,
    demand, demandSome, bind, Except.bind]

theorem Operation.exists_perform_emergencyWithdraw {asset : Asset} {user : Address}
    (caller : host.authorize proof = .ok user) (unlocked : books.isUnlocked moment.now = true) :
    ∃ effect, Operation.perform (.emergencyWithdraw proof asset) host moment books =
      .ok effect := by
  simp only [perform, Books.emergencyWithdraw, bind_eq_ok, demand_eq_ok]
  exact ⟨_, user, caller, (), unlocked, rfl⟩

/-- A call that leads to an amount which comes out too large is refused for it. -/
theorem Oversized.outcome (oversized : Oversized host world operation) (fit : operation.IsFit)
    (bounded : world.books.Bounded) :
    ∃ message, ((Step.call operation []).run host world).2.outcome =
      .error (.invalidAmount message) := by
  cases oversized with
  | @penalty _ _ _ _ given _ found caller isOpen isPenalty exceeds =>
      have tooLarge : given.safeNat? = none := by
        rw [Number.safeNat?, isPenalty, Option.bind_some, if_neg (Nat.not_le.2 exceeds)]
      rw [Step.run_of_refused (Operation.perform_kick_of_unsafe found caller isOpen tooLarge)]
      exact ⟨_, rfl⟩
  | @duration proof terms founder caller unset unfit =>
      have refused : Operation.perform (.createCircle proof terms) host world.moment world.books =
          .error (.invalidAmount "Cycle duration must be a positive number of seconds.") := by
        refine (createCircle_eq_error_iff fit).2 (.inr ⟨founder, caller, ?_⟩)
        exact demandPositive_eq_error_iff.2 ⟨fit.not_isAmount_iff.2 ⟨unset, unfit⟩, rfl⟩
      rw [Step.run_of_refused refused]
      exact ⟨_, rfl⟩
  | dues found performed dated exceeds =>
      have tooLarge := mt Amount.add_add_le_iff.1 (Nat.not_le.2 exceeds)
      cases performs_of_perform performed with
      | byAdmin _ _ _ administers => cases administers
      | byMember named here _ _ deed =>
          obtain rfl := Option.some.inj named
          obtain rfl := Except.ok.inj (here.symm.trans found)
          cases deed with
          | contribute _ _ _ _ isLateFee isInsuranceFee isAmount =>
              subst isAmount isLateFee isInsuranceFee
              exact ⟨_, Step.run_of_immovable performed (fun _ => dated) rfl
                (Number.safeNat?_ofNat_eq_none_iff.2 (Nat.lt_of_not_le tooLarge))⟩
  | fee found performed dated exceeds =>
      have sound := bounded.sound _ (Books.mem_of_circle found)
      obtain ⟨fee, net, isSplit, whole, within, excess⟩ :=
        Fees.split_eq sound.positive sound.safe bounded.rate
      have amounts := (performs_of_perform performed).payout_amounts found isSplit whole
      obtain ⟨transfer, transfers, areTransfers, first, _⟩ := List.map_eq_cons_iff.1 amounts
      refine ⟨_, Step.run_of_immovable performed (fun _ => dated) areTransfers ?_⟩
      rw [first, ← Option.not_isSome_iff_eq_none, Number.isSome_safeNat?_ofInt_iff]
      have negative := excess exceeds
      omega
  | @savings _ _ _ caller unlocked exceeds =>
      have isUnlocked : world.books.isUnlocked world.moment.now = true := unlocked
      obtain ⟨effect, performed⟩ :=
        Operation.exists_perform_emergencyWithdraw caller isUnlocked
      cases performs_of_perform performed with
      | emergencyWithdraw accepted =>
          obtain rfl := Except.ok.inj (accepted.symm.trans caller)
          have some := Nat.zero_lt_of_lt exceeds
          exact ⟨_, Step.run_of_immovable performed (absurd rfl) (if_pos some)
            (Number.safeNat?_ofNat_eq_none_iff.2 exceeds)⟩
      | byAdmin named | byMember named => cases named

/-- A call that is given what is fit and is not re-entered is refused as such only for an amount,
and exactly if it leads to one that comes out too large. -/
theorem Step.run_eq_request_iff (fit : operation.IsFit) (bounded : world.books.Bounded) :
    (∃ status message, ((Step.call operation []).run host world).2.outcome =
        .error (.request status code message)) ↔
      code = "INVALID_AMOUNT" ∧ Oversized host world operation := by
  constructor
  · rintro ⟨status, message, failed⟩
    rcases Step.run_eq_error failed with refused | undated |
      ⟨effect, written, performed, committed, unsettled⟩
    · exact Operation.perform_eq_request fit refused
    · cases undated
    · have amount : code = "INVALID_AMOUNT" := by
        rcases settle_eq_some _ _ _ unsettled with ⟨_, other⟩ | ⟨_, same⟩ | ⟨_, other⟩
        · cases other
        · cases same
          rfl
        · cases other
      rw [settle_of_idle (by simp)] at unsettled
      refine ⟨amount, oversized_of_immovable bounded performed committed fun movable => ?_⟩
      exact Ledger.settle_ne_request movable unsettled
  · rintro ⟨rfl, oversized⟩
    obtain ⟨message, outcome⟩ := oversized.outcome fit bounded
    exact ⟨400, message, outcome⟩

end

end SavingsCircle
