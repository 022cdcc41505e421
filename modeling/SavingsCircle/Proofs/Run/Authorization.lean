import SavingsCircle.Proofs.Circle.Invariant
import SavingsCircle.Proofs.Run.Alone
import SavingsCircle.Token.Written

/-!
# Who can do what

A call acts for those whose proofs it carries, and a proof that is none gets it refused before it
has done anything (`Performs.authorized`). What a call may do for them is bounded in four ways, each
shown by cases on the effects that a call can have: it takes money only from the account of the
caller who contributes or deposits, it seats only an address that consents unless the administrator
of the circle swaps it in, and it hands over a circle, or configures the protocol, only for who
administers them. All of this holds in any books, whatever has gone before.
-/

namespace SavingsCircle

def Operation.proofs (operation : Operation) : List (Option Proof) :=
  match operation with
  | .swap _ successorProof _ | .fillVacancy _ successorProof _ _ =>
    [operation.proof, successorProof]
  | _ => [operation.proof]

/-- What the transfers of a call take money from. -/
inductive Charges (host : Host) (books : Books) : Operation → Effect → Prop where
  | custody {operation : Operation} {effect : Effect}
      (sources : ∀ transfer ∈ effect.transfers, transfer.source = host.custody) :
      Charges host books operation effect
  | contributor {member id circle amount lateFee insuranceFee} {effect : Effect}
      (found : books.circle id = .ok circle)
      (transfers : effect.transfers = [⟨circle.asset, member, host.custody, .ofNat amount⟩])
      (receipt : effect.receipt = .settled (.contribution member amount lateFee insuranceFee)) :
      Charges host books (.contribute (host.proofOf member) id) effect
  | depositor {user asset given amount} {effect : Effect} (isAmount : given.safeNat? = some amount)
      (transfers : effect.transfers = [⟨asset, user, host.custody, .ofNat amount⟩]) :
      Charges host books (.deposit (host.proofOf user) asset given) effect

theorem Circle.source_payOut (circle : Circle) (host : Host) (target : Address)
    (amount : Amount) :
    ∀ transfer ∈ circle.payOut host target amount, transfer.source = host.custody := by
  intro transfer mem
  rw [payOut] at mem
  split at mem
  · rw [List.mem_singleton.1 mem]
  · cases mem

section

variable {host : Host} {moment : Moment} {books : Books} {circle : Circle} {caller : Address}
variable {operation : Operation} {effect : Effect} {change : Change}

theorem Deed.authorized (deed : Deed host moment books circle caller operation change)
    (accepted : host.authorize operation.proof = .ok caller) :
    ∀ proof ∈ operation.proofs, ∃ address, proof = host.proofOf address := by
  have own : ∃ address, operation.proof = host.proofOf address :=
    ⟨caller, Host.eq_proofOf_of_authorize accepted⟩
  cases deed with
  | swap consent | fillVacancy consent =>
      exact List.forall_mem_cons.2
        ⟨own, List.forall_mem_singleton.2 ⟨_, Host.eq_proofOf_of_authorize consent⟩⟩
  | _ => exact List.forall_mem_singleton.2 own

/-- A call that is not refused carries valid proofs only. -/
theorem Performs.authorized (performs : Performs host moment books operation effect) :
    ∀ proof ∈ operation.proofs, ∃ address, proof = host.proofOf address := by
  cases performs with
  | byAdmin _ _ accepted _ deed => exact deed.authorized accepted
  | byMember _ _ accepted _ deed => exact deed.authorized accepted
  | claimProtocol accepted | adminAction _ accepted | setProtocolFee _ accepted
  | createCircle accepted | deposit accepted | emergencyWithdraw accepted =>
      exact List.forall_mem_singleton.2 ⟨_, Host.eq_proofOf_of_authorize accepted⟩

theorem Swapping.enters {former successor address : Address}
    (swapping : Swapping moment books circle former successor change)
    (mem : address ∈ change.circle.members) : address ∈ circle.members ∨ address = successor := by
  cases swapping with
  | same => exact .inl mem
  | renamed _ _ _ _ _ isRenamed =>
      subst isRenamed
      rw [Circle.members_renameMember, List.mem_map] at mem
      obtain ⟨member, isMember, rfl⟩ := mem
      rw [Circle.renamed]
      split
      · exact .inr rfl
      · exact .inl isMember

/-- Whoever is a member after a call on a circle was one before, or consents to it, or is swapped in
by the administrator. -/
theorem Deed.enters (deed : Deed host moment books circle caller operation change)
    (accepted : host.authorize operation.proof = .ok caller) {address : Address}
    (mem : address ∈ change.circle.members) :
    address ∈ circle.members ∨ host.proofOf address ∈ operation.proofs ∨
      ∃ id former, operation = .swapByAdmin (host.proofOf caller) id former address := by
  have own := Host.eq_proofOf_of_authorize accepted
  have consents {proof : Option Proof} {successor : Address}
      (consent : host.authorize proof = .ok successor) : proof = host.proofOf successor :=
    Host.eq_proofOf_of_authorize consent
  cases deed with
  | join =>
      rw [Circle.members_addSeat, List.mem_append, List.mem_singleton] at mem
      rcases mem with member | rfl
      · exact .inl member
      · exact .inr (.inl (own ▸ List.mem_cons_self))
  | kick _ _ _ _ _ _ _ _ _ isRemoved _ isKept =>
      subst isKept isRemoved
      rw [Circle.members_settle] at mem
      change address ∈ (circle.removeSeat _).members at mem
      rw [Circle.members_removeSeat] at mem
      exact .inl (List.mem_of_mem_eraseIdx mem)
  | swap consent swapping =>
      rcases swapping.enters mem with member | rfl
      · exact .inl member
      · exact .inr (.inl (consents consent ▸ List.mem_cons_of_mem _ List.mem_cons_self))
  | swapByAdmin swapping =>
      rcases swapping.enters mem with member | rfl
      · exact .inl member
      · obtain rfl := own
        exact .inr (.inr ⟨_, _, rfl⟩)
  | @fillVacancy _ _ _ exiting _ _ _ _ _ _ _ _ consent _ _ _ _ _ _ _ isVacated _ isKept =>
      subst isKept isVacated
      rw [Circle.members_settle] at mem
      change address ∈ (circle.vacateSeat _ exiting _).members at mem
      rw [Circle.members_vacateSeat] at mem
      rcases List.mem_or_eq_of_mem_set mem with member | rfl
      · exact .inl member
      · exact .inr (.inl (consents consent ▸ List.mem_cons_of_mem _ List.mem_cons_self))
  | contribute | withdrawProRata =>
      change address ∈ (circle.updateSeat _ _).members at mem
      rw [Circle.members_updateSeat] at mem
      · exact .inl mem
      · exact fun _ => rfl
  | coverMember _ _ _ _ _ isCovered =>
      subst isCovered
      change address ∈ (circle.updateSeat _ _).members at mem
      rw [Circle.members_updateSeat] at mem
      · exact .inl mem
      · exact fun _ => rfl
  | processPayout _ _ _ _ _ _ _ _ isPaid =>
      subst isPaid
      exact .inl (Circle.members_paySeat .. ▸ mem)
  | rollover => exact .inl (Circle.members_rollOver _ ▸ mem)
  | eject =>
      rw [Circle.members_settle] at mem
      exact .inl mem
  | proposeDissolution | voteDissolution | proposeLateFee | voteLateFee =>
      change address ∈ (Circle.settle _ _).1.members at mem
      rw [Circle.members_settle] at mem
      exact .inl mem
  | handOver | requestExit | finalizeAgain | finalize | withdrawNothing => exact .inl mem

/-- A call on a circle keeps its administrator unless it hands the circle over. -/
theorem Deed.handsOver (deed : Deed host moment books circle caller operation change)
    (accepted : host.authorize operation.proof = .ok caller) :
    change.circle.admin = circle.admin ∨
      ∃ id, operation = .transferAdmin (host.proofOf caller) id (some change.circle.admin) := by
  have settled {kept : Circle} {records : Records} :
      (kept.settle records).1.admin = kept.admin :=
    Circle.settle_keeps (·.admin) fun _ _ _ _ _ _ => rfl
  cases deed with
  | handOver =>
      obtain rfl := Host.eq_proofOf_of_authorize accepted
      exact .inr ⟨_, rfl⟩
  | swap _ swapping | swapByAdmin swapping =>
      cases swapping with
      | same => exact .inl rfl
      | renamed _ _ _ _ _ isRenamed => exact .inl (isRenamed ▸ rfl)
  | kick _ _ _ _ _ _ _ _ _ isRemoved _ isKept =>
      subst isKept isRemoved
      exact .inl settled
  | fillVacancy _ _ _ _ _ _ _ _ isVacated _ isKept =>
      subst isKept isVacated
      exact .inl settled
  | eject | proposeDissolution | voteDissolution | proposeLateFee | voteLateFee =>
      exact .inl settled
  | processPayout _ _ _ _ _ _ _ _ isPaid => exact .inl (isPaid ▸ rfl)
  | coverMember _ _ _ _ _ isCovered => exact .inl (isCovered ▸ rfl)
  | _ => exact .inl rfl

/-- What a call makes of the circle of a number: nothing, or what a deed on that circle makes of
it. -/
theorem Touches.circle?_of_circle? (touches : Touches host moment books operation effect)
    {number : Nat} (found : books.circle? number = some circle) :
    effect.books.circle? number = some circle ∨
      ∃ id caller change, operation.circleId? = some id ∧ id.nat? = some number ∧
        books.circle id = .ok circle ∧ host.authorize operation.proof = .ok caller ∧
        Deed host moment books circle caller operation change ∧
        effect.books.circle? number = some change.circle := by
  cases touches with
  | aside _ circles =>
      left
      rwa [Books.circle?, circles]
  | founding _ _ _ circles =>
      left
      rw [Books.circle?] at found ⊢
      rw [circles, List.find?_append, found, Option.some_or]
  | @deed id other caller change named known accepted deed circles =>
      have same : other.id = change.circle.id := deed.lasts.id.symm
      have replaced : effect.books.circle? number = (books.circle? number).map fun circle =>
          if circle.id = change.circle.id then change.circle else circle := by
        rw [← Books.circle?_replaceCircle, Books.circle?, Books.circle?, circles]
      have number_eq : circle.id = number := by simpa using List.find?_some found
      rw [replaced, found, Option.map_some]
      by_cases own : circle.id = change.circle.id
      · have one := Books.circle?_of_circle known
        rw [same, ← own, number_eq, found, Option.some.injEq] at one
        subst one
        rw [if_pos own]
        have isNumber := Books.nat?_of_circle known
        rw [number_eq] at isNumber
        exact .inr ⟨id, caller, change, named, isNumber, known, accepted, deed, rfl⟩
      · exact .inl (congrArg some (if_neg own))

/-- A circle that a call founds has no members. -/
theorem Touches.members_of_founded (touches : Touches host moment books operation effect)
    {number : Nat} (unknown : books.circle? number = none)
    (found : effect.books.circle? number = some circle) : circle.members = [] := by
  cases touches with
  | aside _ circles =>
      rw [Books.circle?, circles, ← Books.circle?, unknown] at found
      cases found
  | founding _ isNew _ circles =>
      rw [Books.circle?] at unknown found
      rw [circles, List.find?_append, unknown, Option.none_or] at found
      obtain rfl := List.mem_singleton.1 (List.mem_of_find?_eq_some found)
      rw [Circle.members, isNew.seats, List.map_nil]
  | deed _ _ _ _ circles =>
      rw [Books.circle?, circles, ← Books.circle?, Books.circle?_replaceCircle, unknown] at found
      cases found

/-- Calls of the administrator are made by the administrator. -/
theorem Performs.eq_admin (performs : Performs host moment books operation effect) {id : Number}
    (named : operation.circleId? = some id) (found : books.circle id = .ok circle)
    (administers : operation.isAdministrative = true)
    (accepted : host.authorize operation.proof = .ok caller) : caller = circle.admin := by
  cases performs with
  | byAdmin sameName other isAdmin =>
      obtain rfl := Option.some.inj (sameName.symm.trans named)
      obtain rfl := Except.ok.inj (other.symm.trans found)
      exact Except.ok.inj (accepted.symm.trans isAdmin)
  | byMember _ _ _ belongs => rw [administers] at belongs; cases belongs
  | _ => cases named

/-- Nobody is seated without consent but by the administrator of the circle. -/
theorem Performs.enters (performs : Performs host moment books operation effect) {number : Nat}
    {next : Circle} (found : effect.books.circle? number = some next) {address : Address}
    (mem : address ∈ next.members) :
    (∃ former, books.circle? number = some former ∧ address ∈ former.members) ∨
      host.proofOf address ∈ operation.proofs ∨
      ∃ former id member, books.circle? number = some former ∧ id.nat? = some number ∧
        operation = .swapByAdmin (host.proofOf former.admin) id member address := by
  cases known : books.circle? number with
  | none =>
      rw [performs.touches.members_of_founded known found] at mem
      cases mem
  | some former =>
      rcases performs.touches.circle?_of_circle? known with
        same | ⟨id, caller, change, named, isNumber, isFormer, accepted, deed, isNext⟩
      · obtain rfl := Option.some.inj (same.symm.trans found)
        exact .inl ⟨former, rfl, mem⟩
      · obtain rfl := Option.some.inj (isNext.symm.trans found)
        rcases deed.enters accepted mem with member | consents | ⟨_, member, rfl⟩
        · exact .inl ⟨former, rfl, member⟩
        · exact .inr (.inl consents)
        · obtain rfl := Option.some.inj named
          obtain rfl := performs.eq_admin named isFormer rfl accepted
          exact .inr (.inr ⟨former, _, member, rfl, isNumber, rfl⟩)

/-- A circle stays, and only its administrator hands it over. -/
theorem Performs.handsOver (performs : Performs host moment books operation effect) {number : Nat}
    (known : books.circle? number = some circle) :
    ∃ next, effect.books.circle? number = some next ∧ (next.admin = circle.admin ∨
      ∃ id, id.nat? = some number ∧
        operation = .transferAdmin (host.proofOf circle.admin) id (some next.admin)) := by
  rcases performs.touches.circle?_of_circle? known with
    same | ⟨id, caller, change, named, isNumber, isFormer, accepted, deed, isNext⟩
  · exact ⟨circle, same, .inl rfl⟩
  · refine ⟨change.circle, isNext, ?_⟩
    rcases deed.handsOver accepted with kept | ⟨_, handed⟩
    · exact .inl kept
    · have administers : operation.isAdministrative = true := handed ▸ rfl
      obtain rfl := performs.eq_admin named isFormer administers accepted
      rw [handed] at named
      obtain rfl := Option.some.inj named
      exact .inr ⟨_, isNumber, handed⟩

/-- The protocol keeps its administrator. -/
theorem Performs.protocol_admin (performs : Performs host moment books operation effect)
    {protocol : Protocol} (claimed : books.protocol = some protocol) :
    ∃ next, effect.books.protocol = some next ∧ next.admin = protocol.admin := by
  cases performs with
  | claimProtocol _ unclaimed =>
      rw [unclaimed] at claimed
      cases claimed
  | setProtocolFee former _ _ _ isProtocol =>
      obtain rfl := Option.some.inj (former.symm.trans claimed)
      subst isProtocol
      exact ⟨_, rfl, rfl⟩
  | _ => exact ⟨protocol, claimed, rfl⟩

/-- Only the administrator of the protocol sets the fee and the treasury. -/
theorem Performs.configures (performs : Performs host moment books operation effect) :
    effect.books.feeRate = books.feeRate ∧ effect.books.treasury = books.treasury ∨
      ∃ protocol rate treasury, books.protocol = some protocol ∧
        operation = .setProtocolFee (host.proofOf protocol.admin) rate treasury := by
  cases performs with
  | claimProtocol _ unclaimed isProtocol =>
      subst isProtocol
      left
      simp [Books.answering, Books.feeRate, Books.treasury, unclaimed]
  | setProtocolFee claimed accepted =>
      obtain rfl := Host.eq_proofOf_of_authorize accepted
      exact .inr ⟨_, _, _, claimed, rfl⟩
  | _ => exact .inl ⟨rfl, rfl⟩

theorem Deed.charges (deed : Deed host moment books circle caller operation change) {id : Number}
    (named : operation.circleId? = some id) (found : books.circle id = .ok circle)
    (accepted : host.authorize operation.proof = .ok caller) (others : Books) :
    Charges host books operation (others.install change) := by
  have toAll {targets : List Address} {asset : Asset} {amount : Number} :
      ∀ transfer ∈ targets.map fun target => (⟨asset, host.custody, target, amount⟩ : Transfer),
        transfer.source = host.custody := by
    intro transfer mem
    obtain ⟨target, _, rfl⟩ := List.mem_map.1 mem
    rfl
  cases deed with
  | contribute =>
      obtain rfl := Host.eq_proofOf_of_authorize accepted
      obtain rfl := Option.some.inj named
      exact .contributor found rfl rfl
  | kick => exact .custody (List.forall_mem_append.2 ⟨circle.source_payOut _ _ _, toAll⟩)
  | fillVacancy | withdrawProRata => exact .custody (circle.source_payOut _ _ _)
  | processPayout => exact .custody (List.forall_mem_cons.2 ⟨rfl, toAll⟩)
  | swap _ swapping | swapByAdmin swapping => cases swapping <;> exact .custody nofun
  | _ => exact .custody nofun

/-- Money comes out of custody, or from the account of the caller who pays it in. -/
theorem Performs.charges (performs : Performs host moment books operation effect) :
    Charges host books operation effect := by
  cases performs with
  | byAdmin named found accepted _ deed => exact deed.charges named found accepted _
  | byMember named found accepted _ deed => exact deed.charges named found accepted _
  | deposit accepted isAmount =>
      obtain rfl := Host.eq_proofOf_of_authorize accepted
      exact .depositor isAmount rfl
  | emergencyWithdraw =>
      refine .custody fun transfer mem => ?_
      split at mem
      · rw [List.mem_singleton.1 mem]
      · cases mem
  | _ => exact .custody nofun

end

namespace Ledger

variable {ledger next : Ledger} {asset other : Asset} {source target holder : Address}
variable {amount : Number}

/-- A transfer takes nothing from accounts other than its source. -/
theorem le_balance_transfer {floor : Nat}
    (made : ledger.transfer asset source target amount = .ok next)
    (apart : ¬(other = asset ∧ holder = source)) (small : floor ≤ Number.maxSafe)
    (enough : floor ≤ ledger.balance other holder) : floor ≤ next.balance other holder := by
  have waiting (left : Amount) :
      (ledger.put asset source left).balance other holder = ledger.balance other holder := by
    rw [balance_put, if_neg apart]
  obtain ⟨units, _, ⟨_, rfl⟩ | ⟨_, _, rfl⟩⟩ := transfer_eq_ok made
  · exact enough
  · rw [balance_credit]
    split
    · next gains =>
      obtain ⟨rfl, rfl⟩ := gains
      rw [waiting]
      -- A sum that is rounded lies above all safe amounts.
      by_cases whole : Amount.add (ledger.balance other holder) units ≤ Number.maxSafe
      · rw [Amount.add_eq_of_le whole]
        exact Nat.le_add_right_of_le enough
      · exact Nat.le_trans small (Nat.le_of_lt (Nat.lt_of_not_le whole))
    · rw [waiting]
      exact enough

/-- Transfers take nothing from accounts that are the source of none of them. -/
theorem le_balance_settle {floor : Nat} (transfers : List Transfer)
    (apart : ∀ transfer ∈ transfers, transfer.source ≠ holder) (small : floor ≤ Number.maxSafe)
    (plan : List Encounter) (enough : floor ≤ ledger.balance other holder) :
    floor ≤ (ledger.settle plan transfers).1.balance other holder := by
  induction transfers generalizing ledger plan with
  | nil => exact enough
  | cons transfer transfers ih =>
      rw [List.forall_mem_cons] at apart
      rw [settle]
      split
      · exact enough
      · split
        · next made =>
          exact ih apart.2 _
            (le_balance_transfer made (fun same => apart.1 same.2.symm) small enough)
        · exact enough

/-- When an account is lower after a transfer, it is the source and lacks what was moved. -/
theorem balance_of_lower {units : Nat} (safe : ledger.IsSafe)
    (made : ledger.transfer asset source target (.ofNat units) = .ok next)
    (lower : next.balance other holder < ledger.balance other holder) :
    other = asset ∧ holder = source ∧
      next.balance other holder + units = ledger.balance other holder := by
  have small := safe.balance_le other holder
  obtain ⟨rfl, rfl⟩ : other = asset ∧ holder = source := by
    by_contra apart
    exact Nat.not_lt.2 (le_balance_transfer made apart small (Nat.le_refl _)) lower
  refine ⟨rfl, rfl, ?_⟩
  obtain ⟨moved, isMoved, ⟨_, rfl⟩ | ⟨differ, enough, rfl⟩⟩ := transfer_eq_ok made
  · exact absurd lower (Nat.lt_irrefl _)
  · have whole := Number.int?_of_safeNat? isMoved
    obtain rfl : units = moved := by simpa [Number.ofNat] using whole
    rw [balance_credit, if_neg fun same => differ same.2, balance_put, if_pos ⟨rfl, rfl⟩,
      Amount.sub_eq small]
    exact Nat.sub_add_cancel enough

/-- When an account is lower after a single transfer, then the transfer was made and is why. -/
theorem lower_of_settle {units : Nat} {plan : List Encounter} {ending : Option Failure}
    (safe : ledger.IsSafe)
    (settled : ledger.settle plan [⟨asset, source, target, .ofNat units⟩] = (next, ending))
    (lower : next.balance other holder < ledger.balance other holder) :
    ending = none ∧ other = asset ∧ holder = source ∧
      next.balance other holder + units = ledger.balance other holder := by
  rw [settle] at settled
  split at settled
  · obtain ⟨rfl, _⟩ := Prod.mk.inj settled
    exact absurd lower (Nat.lt_irrefl _)
  · split at settled
    · next made =>
      obtain ⟨rfl, rfl⟩ := Prod.mk.inj settled
      exact ⟨rfl, balance_of_lower safe made lower⟩
    · obtain ⟨rfl, _⟩ := Prod.mk.inj settled
      exact absurd lower (Nat.lt_irrefl _)

end Ledger

/-- A call has taken an amount of an asset from an account whose holder asked for that. -/
inductive PaysIn (host : Host) (world : World) (asset : Asset) (holder : Address)
    (amount : Amount) : Operation → Except Failure Answer → Prop where
  | contribution {id circle lateFee insuranceFee} (found : world.books.circle id = .ok circle)
      (isAsset : circle.asset = asset) :
      PaysIn host world asset holder amount (.contribute (host.proofOf holder) id)
        (.ok (.contribution holder amount lateFee insuranceFee))
  | deposit {given answer} (isAmount : given.safeNat? = some amount) :
      PaysIn host world asset holder amount (.deposit (host.proofOf holder) asset given)
        (.ok answer)

/-- What a call may do by the authority of the proofs that it carries, from how it ended. -/
structure Authorized (host : Host) (operation : Operation) (world : World)
    (ran : World × Report) : Prop where
  /-- A proof that is missing, or that consists of texts and is not the one of its principal, gets
  the call refused. -/
  refuses : ∀ written : Option WrittenProof, written.all (·.isText) = true →
    (∀ principal, written ≠ some (host.authority.writtenProofOf principal)) →
    written.map (·.read) ∈ operation.proofs →
    ∃ failure, ran = (world.detached, .of (.error failure) [])
  /-- Only who contributes or deposits is charged, and exactly what was paid in. -/
  charges : ∀ asset holder, holder ≠ host.custody →
    ran.1.ledger.balance asset holder < world.ledger.balance asset holder →
    ∃ amount, ran.1.ledger.balance asset holder + amount = world.ledger.balance asset holder ∧
      PaysIn host world asset holder amount operation ran.2.outcome
  /-- Only who gives proof becomes a member, or who is swapped in by the administrator. -/
  enters : ∀ number next address, ran.1.books.circle? number = some next →
    address ∈ next.members →
    (∃ former, world.books.circle? number = some former ∧ address ∈ former.members) ∨
      host.proofOf address ∈ operation.proofs ∨
      ∃ former id member, world.books.circle? number = some former ∧ id.nat? = some number ∧
        operation = .swapByAdmin (host.proofOf former.admin) id member address
  /-- Only the administrator hands over a circle. -/
  handsOver : ∀ number circle, world.books.circle? number = some circle →
    ∃ next, ran.1.books.circle? number = some next ∧ (next.admin = circle.admin ∨
      ∃ id, id.nat? = some number ∧
        operation = .transferAdmin (host.proofOf circle.admin) id (some next.admin))
  /-- Nobody takes over the protocol. -/
  keepsAdmin : ∀ protocol, world.books.protocol = some protocol →
    ∃ next, ran.1.books.protocol = some next ∧ next.admin = protocol.admin
  /-- Only the administrator of the protocol configures it. -/
  configures :
    ran.1.books.feeRate = world.books.feeRate ∧ ran.1.books.treasury = world.books.treasury ∨
      ∃ protocol rate treasury, world.books.protocol = some protocol ∧
        operation = .setProtocolFee (host.proofOf protocol.admin) rate treasury

section

variable {host : Host} {operation : Operation} {plan : List Encounter} {world : World}
variable {effect : Effect} {ran : World × Report}

/-- An account that is lower after a call is the account of a caller who has paid in. -/
theorem Charges.paysIn (charges : Charges host world.books operation effect)
    (ends : effect.Ends plan world ran) (safe : world.ledger.IsSafe) (asset : Asset)
    (holder : Address) (apart : holder ≠ host.custody)
    (lower : ran.1.ledger.balance asset holder < world.ledger.balance asset holder) :
    ∃ amount, ran.1.ledger.balance asset holder + amount = world.ledger.balance asset holder ∧
      PaysIn host world asset holder amount operation ran.2.outcome := by
  -- Transfers out of custody lower no other account, even if the call fails after some of them.
  have kept {ending : Option Failure}
      (sources : ∀ transfer ∈ effect.transfers, transfer.source = host.custody)
      (settled : world.ledger.settle plan effect.transfers = (ran.1.ledger, ending)) :
      world.ledger.balance asset holder ≤ ran.1.ledger.balance asset holder := by
    have others := world.ledger.le_balance_settle effect.transfers
      (fun transfer mem same => apart (same.symm.trans (sources transfer mem)))
      (safe.balance_le asset holder) plan (Nat.le_refl _)
    rwa [settled] at others
  cases ends with
  | undone _ ledger =>
      rw [ledger] at lower
      exact absurd lower (Nat.lt_irrefl _)
  | paid _ settled =>
      cases charges with
      | custody sources => exact absurd lower (Nat.not_lt.2 (kept sources settled))
      | contributor _ transfers | depositor _ transfers =>
          rw [transfers] at settled
          cases (Ledger.lower_of_settle safe settled lower).1
  | returned _ settled outcome =>
      cases charges with
      | custody sources => exact absurd lower (Nat.not_lt.2 (kept sources settled))
      | contributor found transfers receipt =>
          rw [transfers] at settled
          rw [outcome, receipt]
          obtain ⟨_, rfl, rfl, paid⟩ := Ledger.lower_of_settle safe settled lower
          exact ⟨_, paid, .contribution found rfl⟩
      | depositor isAmount transfers =>
          rw [transfers] at settled
          rw [outcome]
          obtain ⟨_, rfl, rfl, paid⟩ := Ledger.lower_of_settle safe settled lower
          exact ⟨_, paid, .deposit isAmount⟩

/-- A call that is not re-entered acts within the authority of the proofs that it carries. All its
addresses are texts. -/
theorem calls_are_authorized (host : Host) (operation : Operation) (plan : List Encounter)
    (world : World) (safe : world.ledger.IsSafe) (idle : ∀ met ∈ plan, met.isIdle = true) :
    Authorized host operation world ((Step.call operation plan).run host world) := by
  cases performed : operation.perform host world.moment world.books with
  | error failure =>
      rw [Step.run_of_refused performed]
      exact
        { refuses := fun _ _ _ _ => ⟨failure, rfl⟩
          charges := fun _ _ _ lower => absurd lower (Nat.lt_irrefl _)
          enters := fun _ next _ found mem => .inl ⟨next, found, mem⟩
          handsOver := fun _ circle found => ⟨circle, found, .inl rfl⟩
          keepsAdmin := fun protocol claimed => ⟨protocol, claimed, rfl⟩
          configures := .inl ⟨rfl, rfl⟩ }
  | ok effect =>
      have performs := performs_of_perform performed
      have ends := Step.ends_of_idle idle performed
      generalize (Step.call operation plan).run host world = ran at ends
      have refuses (written : Option WrittenProof) (whole : written.all (·.isText) = true)
          (invalid : ∀ principal, written ≠ some (host.authority.writtenProofOf principal))
          (mem : written.map (·.read) ∈ operation.proofs) :
          ∃ failure, ran = (world.detached, .of (.error failure) []) := by
        obtain ⟨address, valid⟩ := performs.authorized _ mem
        obtain ⟨proof, rfl, same⟩ := Option.map_eq_some_iff.1 valid
        rw [Option.all_some] at whole
        exact absurd (congrArg some (Authority.eq_writtenProofOf whole same)) (invalid _)
      have charges := performs.charges.paysIn ends safe
      have books : ran.1.books = world.books ∨ ran.1.books = effect.books := by
        cases ends with
        | undone books | paid books => exact .inl books
        | returned books => exact .inr books
      rcases books with same | written
      · exact
          { refuses, charges
            enters := fun _ next _ found mem => .inl ⟨next, same ▸ found, mem⟩
            handsOver := fun _ circle found => ⟨circle, same ▸ found, .inl rfl⟩
            keepsAdmin := fun protocol claimed => ⟨protocol, same ▸ claimed, rfl⟩
            configures := .inl (same ▸ ⟨rfl, rfl⟩) }
      · exact
          { refuses, charges
            enters := fun _ _ _ found mem => performs.enters (written ▸ found) mem
            handsOver := fun _ _ found => written ▸ performs.handsOver found
            keepsAdmin := fun _ claimed => written ▸ performs.protocol_admin claimed
            configures := written ▸ performs.configures }

end

/-- The account of a member is lower after a contribution, by just that. -/
theorem calls_are_authorized_of_contribution :
    let proof := Host.sample.proofOf
    let steps : List Step :=
      [.mint "USDC" "a" (.ofNat 200), .mint "USDC" "b" (.ofNat 200),
        .call (.createCircle (proof "b") .sample) [], .call (.join (proof "a") (.ofNat 1)) [],
        .call (.join (proof "b") (.ofNat 1)) [], .call (.finalize (proof "b") (.ofNat 1)) []]
    let world := (runAll Host.sample steps World.sample).1
    let contribution : Operation := .contribute (proof "a") (.ofNat 1)
    let ran := (Step.call contribution []).run Host.sample world
    world.ledger.IsSafe ∧ ran.1.ledger.balance "USDC" "a" < world.ledger.balance "USDC" "a" ∧
      ∃ amount, ran.1.ledger.balance "USDC" "a" + amount = world.ledger.balance "USDC" "a" ∧
        PaysIn Host.sample world "USDC" "a" amount contribution ran.2.outcome := by
  intro proof steps world contribution ran
  have safe : world.ledger.IsSafe := by decide +kernel
  have lower : ran.1.ledger.balance "USDC" "a" < world.ledger.balance "USDC" "a" := by
    decide +kernel
  have authorized : Authorized Host.sample contribution world ran :=
    calls_are_authorized Host.sample contribution [] world safe (by simp)
  exact ⟨safe, lower, authorized.charges "USDC" "a" (by decide) lower⟩

/-- A proof that is no text, with the token of another principal who is none, is not the one of its
principal and lets its bearer in all the same. -/
theorem token_of_another_is_accepted :
    let host := { Host.sample with authority := .keyed "a secret of the service" }
    let proof : WrittenProof := ⟨[0xd801], host.authority.issueUnits [0xd800]⟩
    let world := (runAll host [.advance (.ofNat 604801)] World.sample).1
    let withdrawal : Operation := .emergencyWithdraw (some proof.read) "USDC"
    (∀ principal, proof ≠ host.authority.writtenProofOf principal) ∧
      host.authority.accepts proof = true ∧
      ((Step.call withdrawal []).run host world).2.outcome = .ok (.amount 0) := by
  intro host proof world withdrawal
  have accepted : host.authority.accepts proof = true := Authority.accepts_of_alike rfl
  refine ⟨?_, accepted, ?_⟩
  · rintro principal same
    obtain rfl : principal = [0xd801] := (congrArg WrittenProof.principal same).symm
    have begins := congrArg (·.token.head?) same
    simp [proof, Authority.writtenProofOf, Authority.issueUnits] at begins
  · have caller : host.authorize (some proof.read) = .ok proof.read.principal := by
      rw [Authority.accepts_eq_verify] at accepted
      simp [Host.authorize, demandSome, demand, accepted, bind, Except.bind, pure, Except.pure]
    have unlocked : world.books.isUnlocked world.moment.now = true := by decide +kernel
    have nothing (user : Address) : world.books.deposited user "USDC" = 0 := rfl
    have performed : ∃ effect, withdrawal.perform host world.moment world.books = .ok effect ∧
        effect.events = [] ∧ effect.transfers = [] ∧ effect.receipt = .settled (.amount 0) := by
      simp [withdrawal, Operation.perform, Books.emergencyWithdraw, caller, unlocked, nothing,
        demand, bind, Except.bind, pure, Except.pure]
    obtain ⟨effect, performed, silent, noTransfers, settled⟩ := performed
    obtain ⟨written, committed⟩ := world.exists_commit effect fun some => absurd silent some
    have settles : (settle host [] effect.transfers written).world.answer = .amount 0 :=
      settle_answer committed settled
    rw [noTransfers] at settles
    rw [Step.run_of_no_transfers performed committed noTransfers]
    exact congrArg Except.ok settles

end SavingsCircle
