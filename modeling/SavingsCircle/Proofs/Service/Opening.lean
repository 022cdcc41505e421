import SavingsCircle.Proofs.Service.Deed

/-!
# Calls opened

A call is a chain of checks with an effect at its end. Here every chain is opened once: a call that
is not refused performs what `Performs` lists for it, under the conditions that its checks have
established (`performs_of_perform`).
-/

namespace SavingsCircle

variable {host : Host} {moment : Moment} {books : Books} {effect : Effect}

theorem bind_eq_ok {ε α β : Type} {first : Except ε α} {next : α → Except ε β} {b : β} :
    (first >>= next) = .ok b ↔ ∃ a, first = .ok a ∧ next a = .ok b := by
  cases first <;> simp [bind, Except.bind]

theorem demand_eq_ok {condition : Prop} [Decidable condition] {failure : Failure} {done : Unit} :
    demand condition failure = .ok done ↔ condition := by
  by_cases holds : condition <;> simp [demand, holds]

theorem demandSome_eq_ok {α : Type} {found : Option α} {failure : Failure} {a : α} :
    demandSome found failure = .ok a ↔ found = some a := by
  cases found <;> simp [demandSome]

theorem bind_eq_error {α β : Type} {first : Except Failure α} {next : α → Except Failure β}
    {failure : Failure} :
    (first >>= next) = .error failure ↔
      first = .error failure ∨ ∃ a, first = .ok a ∧ next a = .error failure := by
  cases first <;> simp [bind, Except.bind]

theorem demand_eq_error {condition : Prop} [Decidable condition] {refusal failure : Failure} :
    demand condition refusal = .error failure ↔ ¬condition ∧ refusal = failure := by
  by_cases holds : condition <;> simp [demand, holds]

theorem demandSome_eq_error {α : Type} {found : Option α} {refusal failure : Failure} :
    demandSome found refusal = .error failure ↔ found = none ∧ refusal = failure := by
  cases found <;> simp [demandSome]

theorem toOption_eq_some_iff {α : Type} {result : Except Failure α} {a : α} :
    result.toOption = some a ↔ result = .ok a := by
  cases result <;> simp [Except.toOption]

theorem exists_ok_of_map_toOption {ε α β : Type} {result : Except ε α} {f : α → β} {b : β}
    (mapped : result.toOption.map f = some b) : ∃ a, result = .ok a ∧ f a = b := by
  cases result with
  | error failure => simp [Except.toOption] at mapped
  | ok a => exact ⟨a, rfl, by simpa [Except.toOption] using mapped⟩

theorem record_eq_ok {records : Records} {circle : Nat} {address : Address}
    {record : MemberRecord} :
    records.record circle address = .ok record ↔
      records.record? circle address = some record :=
  demandSome_eq_ok

theorem demandPositive_eq_ok {value : Number} {message : String} {amount : Amount} :
    demandPositive value message = .ok amount ↔ value.safeNat? = some amount ∧ 0 < amount := by
  simp only [demandPositive, bind_eq_ok, demandSome_eq_ok, demand_eq_ok]
  constructor
  · rintro ⟨amount, safe, _, positive, ⟨⟩⟩
    exact ⟨safe, positive⟩
  · rintro ⟨safe, positive⟩
    exact ⟨amount, safe, (), positive, rfl⟩

theorem demandRate_eq_ok {value : Number} {message : String} {rate : Nat} :
    demandRate value message = .ok rate ↔ Fees.rate? value = some rate :=
  demandSome_eq_ok

/-- A call by an administrator goes through for the administrator of a circle that is there. -/
theorem byAdmin_eq_ok {proof : Option Proof} {id : Number}
    {body : Circle → Except Failure Change}
    (performed : books.byAdmin host moment proof id body = .ok effect) :
    ∃ circle change, books.circle id = .ok circle ∧ host.authorize proof = .ok circle.admin ∧
      body circle = .ok change ∧
      effect = { books with lastActiveAt := moment.now }.install change := by
  simp only [Books.byAdmin, bind_eq_ok, demand_eq_ok] at performed
  obtain ⟨circle, found, _, caller, _, rfl, change, done, ⟨⟩⟩ := performed
  exact ⟨circle, change, found, caller, done, rfl⟩

theorem byMember_eq_ok {proof : Option Proof} {id : Number}
    {body : Address → Circle → Except Failure Change}
    (performed : books.byMember host proof id body = .ok effect) :
    ∃ caller circle change, host.authorize proof = .ok caller ∧ books.circle id = .ok circle ∧
      body caller circle = .ok change ∧ effect = books.install change := by
  simp only [Books.byMember, bind_eq_ok] at performed
  obtain ⟨caller, isCaller, circle, found, change, done, ⟨⟩⟩ := performed
  exact ⟨caller, circle, change, isCaller, found, done, rfl⟩

theorem performs_claimProtocol {proof : Option Proof}
    (performed : books.claimProtocol host moment proof = .ok effect) :
    Performs host moment books (.claimProtocol proof) effect := by
  simp only [Books.claimProtocol, bind_eq_ok, demand_eq_ok] at performed
  obtain ⟨admin, caller, _, unclaimed, ⟨⟩⟩ := performed
  exact .claimProtocol caller unclaimed rfl

theorem administered_eq_ok {proof : Option Proof} {protocol : Protocol}
    (administered : books.administered host proof = .ok protocol) :
    books.protocol = some protocol ∧ host.authorize proof = .ok protocol.admin := by
  simp only [Books.administered, bind_eq_ok, demandSome_eq_ok, demand_eq_ok] at administered
  obtain ⟨protocol, claimed, _, caller, _, rfl, ⟨⟩⟩ := administered
  exact ⟨claimed, caller⟩

theorem performs_adminAction {proof : Option Proof}
    (performed : books.adminAction host moment proof = .ok effect) :
    Performs host moment books (.adminAction proof) effect := by
  simp only [Books.adminAction, bind_eq_ok] at performed
  obtain ⟨protocol, administered, ⟨⟩⟩ := performed
  obtain ⟨claimed, caller⟩ := administered_eq_ok administered
  exact .adminAction claimed caller

theorem performs_setProtocolFee {proof : Option Proof} {rate : Number}
    {treasury : Option Address}
    (performed : books.setProtocolFee host moment proof rate treasury = .ok effect) :
    Performs host moment books (.setProtocolFee proof rate treasury) effect := by
  simp only [Books.setProtocolFee, bind_eq_ok, demandRate_eq_ok, demandSome_eq_ok,
    demand_eq_ok] at performed
  obtain ⟨protocol, administered, feeRate, isRate, treasury, rfl, _, ink, ⟨⟩⟩ := performed
  obtain ⟨claimed, caller⟩ := administered_eq_ok administered
  exact .setProtocolFee claimed caller isRate ink rfl

theorem performs_createCircle {proof : Option Proof} {terms : CircleTerms}
    (performed : books.createCircle host moment proof terms = .ok effect) :
    Performs host moment books (.createCircle proof terms) effect := by
  simp only [Books.createCircle, bind_eq_ok, demandPositive_eq_ok, demandRate_eq_ok,
    demandSome_eq_ok, demand_eq_ok] at performed
  obtain ⟨admin, caller, contribution, ⟨priced, positive⟩, lateFeeRate, isLateFeeRate,
    insuranceFeeRate, isInsuranceFeeRate, cycleDuration, ⟨isDuration, lasting⟩, asset, isAsset, _,
    ink, ⟨⟩⟩ := performed
  exact .createCircle caller priced positive isLateFeeRate isInsuranceFeeRate isDuration lasting
    isAsset ink rfl

theorem performs_deposit {proof : Option Proof} {asset : Asset} {amount : Number}
    (performed : books.deposit host moment proof asset amount = .ok effect) :
    Performs host moment books (.deposit proof asset amount) effect := by
  simp only [Books.deposit, bind_eq_ok, demandPositive_eq_ok] at performed
  obtain ⟨user, caller, units, ⟨safe, positive⟩, ⟨⟩⟩ := performed
  exact .deposit caller safe positive

theorem performs_emergencyWithdraw {proof : Option Proof} {asset : Asset}
    (performed : books.emergencyWithdraw host moment proof asset = .ok effect) :
    Performs host moment books (.emergencyWithdraw proof asset) effect := by
  simp only [Books.emergencyWithdraw, bind_eq_ok, demand_eq_ok] at performed
  obtain ⟨user, caller, _, unlocked, ⟨⟩⟩ := performed
  exact .emergencyWithdraw caller unlocked

theorem demandOpen_eq_ok {circle : Circle} {done : Unit} :
    circle.demandOpen = .ok done ↔ circle.isDissolved = false := by
  simp [Circle.demandOpen, demand_eq_ok]

theorem demandVoter_eq_ok {circle : Circle} {records : Records} {address : Address}
    {done : Unit} :
    circle.demandVoter records address = .ok done ↔ circle.isVoter records address = true := by
  simp [Circle.demandVoter, demand_eq_ok]

theorem performs_transferAdmin {proof : Option Proof} {id : Number} {admin : Option Address}
    (performed : books.transferAdmin host moment proof id admin = .ok effect) :
    Performs host moment books (.transferAdmin proof id admin) effect := by
  obtain ⟨circle, change, found, caller, done, rfl⟩ := byAdmin_eq_ok performed
  simp only [bind_eq_ok, demandSome_eq_ok, demand_eq_ok] at done
  obtain ⟨admin, rfl, _, ink, ⟨⟩⟩ := done
  exact .byAdmin rfl found caller rfl (.handOver ink)

theorem performs_join {proof : Option Proof} {id : Number}
    (performed : books.join host moment proof id = .ok effect) :
    Performs host moment books (.join proof id) effect := by
  obtain ⟨caller, circle, change, isCaller, found, done, rfl⟩ := byMember_eq_ok performed
  simp only [bind_eq_ok, demandOpen_eq_ok, demand_eq_ok, Option.isNone_iff_eq_none,
    List.isEmpty_iff] at done
  obtain ⟨_, isOpen, _, absent, _, room, _, unqueued, ⟨⟩⟩ := done
  exact .byMember rfl found isCaller rfl (.join isOpen absent room unqueued)

theorem performs_kick {proof : Option Proof} {id penalty : Number} {member : Address}
    (performed : books.kick host moment proof id member penalty = .ok effect) :
    Performs host moment books (.kick proof id member penalty) effect := by
  obtain ⟨circle, change, found, caller, done, rfl⟩ := byAdmin_eq_ok performed
  simp only [bind_eq_ok, demandOpen_eq_ok, demandSome_eq_ok, demand_eq_ok,
    Bool.not_eq_true'] at done
  obtain ⟨_, isOpen, units, given, ⟨position, seat⟩, seated, _, owed, _, unpaid, _, covered,
    ⟨⟩⟩ := done
  exact .byAdmin rfl found caller rfl
    (.kick isOpen given seated owed unpaid rfl rfl rfl covered rfl rfl rfl)

theorem swapping_of_swapIn {circle : Circle} {former successor : Address} {change : Change}
    (done : books.swapIn moment circle former successor = .ok change) :
    Swapping moment books circle former successor change := by
  simp only [Books.swapIn, bind_eq_ok, demandOpen_eq_ok, demandSome_eq_ok] at done
  obtain ⟨_, isOpen, position, seated, done⟩ := done
  split at done
  · next equal =>
    obtain rfl := Except.ok.inj done
    exact .same isOpen (by simp [seated]) equal
  · next differ =>
    simp only [bind_eq_ok, demand_eq_ok, record_eq_ok, Option.isNone_iff_eq_none] at done
    obtain ⟨_, absent, record, recorded, ⟨⟩⟩ := done
    exact .renamed isOpen seated differ absent recorded rfl rfl

theorem performs_swap {proof successorProof : Option Proof} {id : Number}
    (performed : books.swap host moment proof successorProof id = .ok effect) :
    Performs host moment books (.swap proof successorProof id) effect := by
  simp only [Books.swap, bind_eq_ok] at performed
  obtain ⟨former, caller, successor, consent, circle, found, change, done, ⟨⟩⟩ := performed
  exact .byMember rfl found caller rfl (.swap consent (swapping_of_swapIn done))

theorem performs_swapByAdmin {proof : Option Proof} {id : Number} {former successor : Address}
    (performed : books.swapByAdmin host moment proof id former successor = .ok effect) :
    Performs host moment books (.swapByAdmin proof id former successor) effect := by
  obtain ⟨circle, change, found, caller, done, rfl⟩ := byAdmin_eq_ok performed
  exact .byAdmin rfl found caller rfl (.swapByAdmin (swapping_of_swapIn done))

theorem performs_eject {proof : Option Proof} {id : Number} {member : Address}
    (performed : books.eject host moment proof id member = .ok effect) :
    Performs host moment books (.eject proof id member) effect := by
  obtain ⟨circle, change, found, caller, done, rfl⟩ := byAdmin_eq_ok performed
  simp only [bind_eq_ok, demandOpen_eq_ok, demand_eq_ok, record_eq_ok] at done
  obtain ⟨_, isOpen, _, seated, record, recorded, _, takesPart, ⟨⟩⟩ := done
  exact .byAdmin rfl found caller rfl (.eject isOpen seated recorded takesPart rfl)

theorem performs_requestExit {proof : Option Proof} {id : Number}
    (performed : books.requestExit host moment proof id = .ok effect) :
    Performs host moment books (.requestExit proof id) effect := by
  obtain ⟨caller, circle, change, isCaller, found, done, rfl⟩ := byMember_eq_ok performed
  simp only [bind_eq_ok, demandOpen_eq_ok, demand_eq_ok, record_eq_ok] at done
  obtain ⟨_, isOpen, _, seated, record, recorded, _, active, ⟨⟩⟩ := done
  exact .byMember rfl found isCaller rfl (.requestExit isOpen seated recorded active)

theorem performs_fillVacancy {proof successorProof : Option Proof} {id : Number}
    {exiting : Address}
    (performed : books.fillVacancy host moment proof successorProof id exiting = .ok effect) :
    Performs host moment books (.fillVacancy proof successorProof id exiting) effect := by
  obtain ⟨circle, change, found, caller, done, rfl⟩ := byAdmin_eq_ok performed
  simp only [bind_eq_ok, demandOpen_eq_ok, demandSome_eq_ok, demand_eq_ok, record_eq_ok,
    Option.isNone_iff_eq_none] at done
  obtain ⟨successor, consent, _, isOpen, ⟨position, seat⟩, seated, record, recorded, _, waiting, _,
    absent, _, covered, ⟨⟩⟩ := done
  exact .byAdmin rfl found caller rfl
    (.fillVacancy consent isOpen seated recorded waiting absent rfl covered rfl rfl rfl)

theorem performs_finalize {proof : Option Proof} {id : Number}
    (performed : books.finalize host moment proof id = .ok effect) :
    Performs host moment books (.finalize proof id) effect := by
  obtain ⟨circle, change, found, caller, done, rfl⟩ := byAdmin_eq_ok performed
  simp only [bind_eq_ok, demandOpen_eq_ok] at done
  obtain ⟨_, isOpen, done⟩ := done
  split at done
  · next queued =>
    obtain rfl := Except.ok.inj done
    exact .byAdmin rfl found caller rfl (.finalizeAgain isOpen (by simpa using queued))
  · next unqueued =>
    simp only [bind_eq_ok, demand_eq_ok] at done
    obtain ⟨_, seated, _, permuted, ⟨⟩⟩ := done
    exact .byAdmin rfl found caller rfl
      (.finalize isOpen (by simpa using unqueued) (by simpa using seated) rfl permuted)

theorem performs_processPayout {proof : Option Proof} {id : Number} {recipient : Address}
    (performed : books.processPayout host moment proof id recipient = .ok effect) :
    Performs host moment books (.processPayout proof id recipient) effect := by
  obtain ⟨circle, change, found, caller, done, rfl⟩ := byAdmin_eq_ok performed
  simp only [bind_eq_ok, demandOpen_eq_ok, demandSome_eq_ok, demand_eq_ok,
    Bool.not_eq_true'] at done
  obtain ⟨_, isOpen, _, queued, ⟨position, seat⟩, seated, _, unpaid, _, covered, _, routed,
    ⟨⟩⟩ := done
  exact .byAdmin rfl found caller rfl
    (.processPayout isOpen (by simpa using queued) seated unpaid covered rfl rfl routed rfl rfl)

theorem performs_rollover {proof : Option Proof} {id : Number}
    (performed : books.rollover host moment proof id = .ok effect) :
    Performs host moment books (.rollover proof id) effect := by
  obtain ⟨circle, change, found, caller, done, rfl⟩ := byAdmin_eq_ok performed
  simp only [bind_eq_ok, demandOpen_eq_ok, demand_eq_ok] at done
  obtain ⟨_, isOpen, _, complete, ⟨⟩⟩ := done
  exact .byAdmin rfl found caller rfl (.rollover isOpen complete)

theorem performs_contribute {proof : Option Proof} {id : Number}
    (performed : books.contribute host moment proof id = .ok effect) :
    Performs host moment books (.contribute proof id) effect := by
  obtain ⟨caller, circle, change, isCaller, found, done, rfl⟩ := byMember_eq_ok performed
  simp only [bind_eq_ok, demandOpen_eq_ok, demandSome_eq_ok, demand_eq_ok, record_eq_ok,
    Bool.not_eq_true'] at done
  obtain ⟨_, isOpen, ⟨position, seat⟩, seated, _, unpaid, record, recorded, ⟨⟩⟩ := done
  exact .byMember rfl found isCaller rfl
    (.contribute isOpen seated unpaid recorded rfl rfl rfl)

theorem performs_coverMember {proof : Option Proof} {id : Number} {member : Address}
    (performed : books.coverMember host moment proof id member = .ok effect) :
    Performs host moment books (.coverMember proof id member) effect := by
  obtain ⟨circle, change, found, caller, done, rfl⟩ := byAdmin_eq_ok performed
  simp only [bind_eq_ok, demandOpen_eq_ok, demandSome_eq_ok, demand_eq_ok,
    Bool.not_eq_true'] at done
  obtain ⟨_, isOpen, ⟨position, seat⟩, seated, _, unused, _, unpaid, _, funded, ⟨⟩⟩ := done
  exact .byAdmin rfl found caller rfl (.coverMember isOpen seated unused unpaid funded rfl)

theorem performs_proposeDissolution {proof : Option Proof} {id : Number}
    (performed : books.proposeDissolution host moment proof id = .ok effect) :
    Performs host moment books (.proposeDissolution proof id) effect := by
  obtain ⟨caller, circle, change, isCaller, found, done, rfl⟩ := byMember_eq_ok performed
  simp only [bind_eq_ok, demandOpen_eq_ok, demandVoter_eq_ok] at done
  obtain ⟨_, isOpen, _, voter, ⟨⟩⟩ := done
  exact .byMember rfl found isCaller rfl (.proposeDissolution isOpen voter rfl)

theorem performs_voteDissolution {proof : Option Proof} {id : Number}
    (performed : books.voteDissolution host moment proof id = .ok effect) :
    Performs host moment books (.voteDissolution proof id) effect := by
  obtain ⟨caller, circle, change, isCaller, found, done, rfl⟩ := byMember_eq_ok performed
  simp only [bind_eq_ok, demandOpen_eq_ok, demandVoter_eq_ok, demand_eq_ok] at done
  obtain ⟨_, isOpen, _, voter, _, first, ⟨⟩⟩ := done
  exact .byMember rfl found isCaller rfl (.voteDissolution isOpen voter first)

theorem performs_proposeLateFee {proof : Option Proof} {id rate : Number}
    (performed : books.proposeLateFee host moment proof id rate = .ok effect) :
    Performs host moment books (.proposeLateFee proof id rate) effect := by
  obtain ⟨caller, circle, change, isCaller, found, done, rfl⟩ := byMember_eq_ok performed
  simp only [bind_eq_ok, demandOpen_eq_ok, demandVoter_eq_ok, demandRate_eq_ok] at done
  obtain ⟨_, isOpen, _, voter, rate, isRate, ⟨⟩⟩ := done
  exact .byMember rfl found isCaller rfl (.proposeLateFee isOpen voter isRate)

theorem performs_voteLateFee {proof : Option Proof} {id : Number}
    (performed : books.voteLateFee host moment proof id = .ok effect) :
    Performs host moment books (.voteLateFee proof id) effect := by
  obtain ⟨caller, circle, change, isCaller, found, done, rfl⟩ := byMember_eq_ok performed
  simp only [bind_eq_ok, demandOpen_eq_ok, demandVoter_eq_ok, demand_eq_ok] at done
  obtain ⟨_, isOpen, _, voter, _, proposed, _, first, ⟨⟩⟩ := done
  exact .byMember rfl found isCaller rfl (.voteLateFee isOpen voter proposed first)

theorem performs_withdrawProRata {proof : Option Proof} {id : Number}
    (performed : books.withdrawProRata host moment proof id = .ok effect) :
    Performs host moment books (.withdrawProRata proof id) effect := by
  obtain ⟨caller, circle, change, isCaller, found, done, rfl⟩ := byMember_eq_ok performed
  simp only [bind_eq_ok, demandSome_eq_ok, demand_eq_ok] at done
  obtain ⟨_, dissolved, ⟨position, seat⟩, seated, done⟩ := done
  split at done
  · next empty =>
    obtain rfl := Except.ok.inj done
    exact .byMember rfl found isCaller rfl (.withdrawNothing dissolved seated empty)
  · next some =>
    simp only [bind_eq_ok, demand_eq_ok] at done
    obtain ⟨_, covered, ⟨⟩⟩ := done
    exact .byMember rfl found isCaller rfl (.withdrawProRata dissolved seated rfl some covered)

/-- Every call that is not refused has one of the effects listed. -/
theorem performs_of_perform {operation : Operation}
    (performed : operation.perform host moment books = .ok effect) :
    Performs host moment books operation effect := by
  cases operation with
  | claimProtocol => exact performs_claimProtocol performed
  | adminAction => exact performs_adminAction performed
  | setProtocolFee => exact performs_setProtocolFee performed
  | createCircle => exact performs_createCircle performed
  | transferAdmin => exact performs_transferAdmin performed
  | join => exact performs_join performed
  | kick => exact performs_kick performed
  | swap => exact performs_swap performed
  | swapByAdmin => exact performs_swapByAdmin performed
  | eject => exact performs_eject performed
  | requestExit => exact performs_requestExit performed
  | fillVacancy => exact performs_fillVacancy performed
  | finalize => exact performs_finalize performed
  | processPayout => exact performs_processPayout performed
  | rollover => exact performs_rollover performed
  | contribute => exact performs_contribute performed
  | coverMember => exact performs_coverMember performed
  | proposeDissolution => exact performs_proposeDissolution performed
  | voteDissolution => exact performs_voteDissolution performed
  | proposeLateFee => exact performs_proposeLateFee performed
  | voteLateFee => exact performs_voteLateFee performed
  | withdrawProRata => exact performs_withdrawProRata performed
  | deposit => exact performs_deposit performed
  | emergencyWithdraw => exact performs_emergencyWithdraw performed

section

variable {operation : Operation} {id : Number} {circle : Circle}

/-- A call of the administrator that is not refused does a deed on the circle, installs what it
comes to and restarts the emergency lock. -/
theorem deed_of_administrator (named : operation.circleId? = some id)
    (administers : operation.isAdministrative = true) (found : books.circle id = .ok circle)
    (performed : operation.perform host moment books = .ok effect) :
    ∃ change, host.authorize operation.proof = .ok circle.admin ∧
      Deed host moment books circle circle.admin operation change ∧
      effect = { books with lastActiveAt := moment.now }.install change := by
  cases performs_of_perform performed with
  | byAdmin isId same caller _ deed =>
      obtain rfl := Option.some.inj (named.symm.trans isId)
      obtain rfl := Except.ok.inj (found.symm.trans same)
      exact ⟨_, caller, deed, rfl⟩
  | byMember _ _ _ belongs => exact absurd (administers.symm.trans belongs) (by decide)
  | _ => simp [Operation.circleId?] at named

/-- A call of anyone else that is not refused does a deed on the circle and installs what it comes
to. -/
theorem deed_of_member (named : operation.circleId? = some id)
    (belongs : operation.isAdministrative = false) (found : books.circle id = .ok circle)
    (performed : operation.perform host moment books = .ok effect) :
    ∃ caller change, host.authorize operation.proof = .ok caller ∧
      Deed host moment books circle caller operation change ∧ effect = books.install change := by
  cases performs_of_perform performed with
  | byAdmin _ _ _ administers => exact absurd (administers.symm.trans belongs) (by decide)
  | byMember isId same caller _ deed =>
      obtain rfl := Option.some.inj (named.symm.trans isId)
      obtain rfl := Except.ok.inj (found.symm.trans same)
      exact ⟨_, _, caller, deed, rfl⟩
  | _ => simp [Operation.circleId?] at named

/-- A call on a circle that is not refused does a deed on that circle, and installs what it comes
to. Calls of the administrator restart the emergency lock besides. -/
theorem deed_of_perform (named : operation.circleId? = some id)
    (found : books.circle id = .ok circle)
    (performed : operation.perform host moment books = .ok effect) :
    ∃ caller change lastActiveAt, host.authorize operation.proof = .ok caller ∧
      Deed host moment books circle caller operation change ∧
      effect = { books with lastActiveAt }.install change := by
  cases administers : operation.isAdministrative with
  | true =>
      obtain ⟨change, caller, deed, isEffect⟩ :=
        deed_of_administrator named administers found performed
      exact ⟨_, change, moment.now, caller, deed, isEffect⟩
  | false =>
      obtain ⟨member, change, caller, deed, isEffect⟩ :=
        deed_of_member named administers found performed
      exact ⟨member, change, books.lastActiveAt, caller, deed, isEffect⟩

end

end SavingsCircle
