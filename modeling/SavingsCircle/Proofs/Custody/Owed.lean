import Mathlib.Algebra.BigOperators.Group.List.Basic
import Mathlib.Algebra.Order.Ring.Int
import SavingsCircle.Proofs.Circle.Roster

/-!
# What custody owes

One account holds what all circles and all users have paid in. What the books owe of an asset is
what the circles of the asset hold and what users have deposited of it. A call changes it by exactly
what the transfers that it asks for drain from the account (`Performs.owed`), as long as no amount
is rounded and custody itself is no party of the call.
-/

namespace SavingsCircle

/-- What a transfer drains from an account of an asset; below zero it pays in. -/
def Transfer.drain (transfer : Transfer) (asset : Asset) (holder : Address) : Int :=
  let units := if transfer.asset = asset then transfer.amount.int?.getD 0 else 0
  (if transfer.source = holder then units else 0) - (if transfer.target = holder then units else 0)

def drains (transfers : List Transfer) (asset : Asset) (holder : Address) : Int :=
  (transfers.map (·.drain asset holder)).sum

def Circle.held (circle : Circle) (asset : Asset) : Nat :=
  if circle.asset = asset then circle.balance else 0

def CustodyEntry.held (entry : CustodyEntry) (asset : Asset) : Nat :=
  if entry.asset = asset then entry.amount else 0

namespace Books

/-- What custody owes of an asset: what the circles of the asset hold and what users have
deposited of it. -/
def owed (books : Books) (asset : Asset) : Nat :=
  (books.circles.map (·.held asset)).sum + (books.custody.map (·.held asset)).sum

/-- Nothing in custody is too large to be exact. -/
structure IsSafe (books : Books) : Prop where
  balances : ∀ circle ∈ books.circles, circle.balance ≤ Number.maxSafe
  deposits : ∀ entry ∈ books.custody, entry.amount ≤ Number.maxSafe

/-- An address is no member of any circle, and no fees go to it. -/
structure Spares (books : Books) (address : Address) : Prop where
  members : ∀ circle ∈ books.circles, address ∉ circle.members
  treasury : books.treasury ≠ some address

instance (books : Books) : Decidable books.IsSafe :=
  decidable_of_iff
    ((∀ circle ∈ books.circles, circle.balance ≤ Number.maxSafe) ∧
      ∀ entry ∈ books.custody, entry.amount ≤ Number.maxSafe)
    ⟨fun h => ⟨h.1, h.2⟩, fun h => ⟨h.balances, h.deposits⟩⟩

instance (books : Books) (address : Address) : Decidable (books.Spares address) :=
  decidable_of_iff
    ((∀ circle ∈ books.circles, address ∉ circle.members) ∧ books.treasury ≠ some address)
    ⟨fun h => ⟨h.1, h.2⟩, fun h => ⟨h.members, h.treasury⟩⟩

/-- A user has at most one entry of an asset. -/
def Filed (books : Books) : Prop :=
  (books.custody.map fun entry => (entry.user, entry.asset)).Nodup

end Books

section

variable {asset : Asset} {holder source target : Address}

@[simp] theorem drains_nil : drains [] asset holder = 0 := rfl

@[simp] theorem drains_cons (transfer : Transfer) (transfers : List Transfer) :
    drains (transfer :: transfers) asset holder =
      transfer.drain asset holder + drains transfers asset holder := by
  simp [drains]

@[simp] theorem drains_append (first second : List Transfer) :
    drains (first ++ second) asset holder =
      drains first asset holder + drains second asset holder := by
  simp [drains]

theorem drains_eq_zero {transfers : List Transfer}
    (others : ∀ transfer ∈ transfers, transfer.asset ≠ asset) :
    drains transfers asset holder = 0 := by
  induction transfers with
  | nil => rfl
  | cons transfer transfers ih =>
      rw [List.forall_mem_cons] at others
      simp [ih others.2, Transfer.drain, others.1]

theorem drain_out {given : Asset} {units : Int} (apart : target ≠ holder) :
    Transfer.drain ⟨given, holder, target, .ofInt units⟩ asset holder =
      if given = asset then units else 0 := by
  simp [Transfer.drain, apart]

theorem drain_in {given : Asset} {units : Int} (apart : source ≠ holder) :
    Transfer.drain ⟨given, source, holder, .ofInt units⟩ asset holder =
      -if given = asset then units else 0 := by
  simp [Transfer.drain, apart]

theorem drains_payOut (circle : Circle) (host : Host) {amount : Amount}
    (apart : target ≠ host.custody) :
    drains (circle.payOut host target amount) circle.asset host.custody = amount := by
  rw [Circle.payOut]
  split
  · rw [drains_cons, Number.ofNat, drain_out apart]
    simp
  · next nothing =>
    obtain rfl : amount = 0 := Nat.eq_zero_of_not_pos nothing
    rfl

end

theorem drains_toList {whom : Option Address} {asset : Asset} {holder : Address} {amount : Amount}
    (apart : whom ≠ some holder) :
    drains (whom.toList.map fun target => ⟨asset, holder, target, .ofNat amount⟩) asset holder =
      if whom.isSome then (amount : Int) else 0 := by
  cases whom with
  | none => rfl
  | some target =>
      have elsewhere : target ≠ holder := fun same => apart (congrArg some same)
      simp [Number.ofNat, drain_out elsewhere]

/-- When one element of a list without repetitions is changed, a sum over the list changes by
what the element contributes to it. -/
theorem sum_map_change {α : Type} [DecidableEq α] {xs : List α} (nodup : xs.Nodup) {x : α}
    (mem : x ∈ xs) (value : α → Nat) (change : α → α)
    (others : ∀ y ∈ xs, y ≠ x → change y = y) :
    ((xs.map change).map value).sum + value x = (xs.map value).sum + value (change x) := by
  have before := List.sum_map_erase value mem
  have after := List.sum_map_erase (fun y => value (change y)) mem
  have rest : (xs.erase x).map (fun y => value (change y)) = (xs.erase x).map value := by
    apply List.map_congr_left
    intro y isOther
    obtain ⟨differ, isIn⟩ := nodup.mem_erase_iff.1 isOther
    rw [others y isIn differ]
  have mapped : (xs.map change).map value = xs.map fun y => value (change y) := by
    rw [List.map_map]
    rfl
  rw [rest] at after
  rw [mapped]
  omega

section

variable {books : Books} {user : Address} {asset : Asset}

theorem CustodyEntry.asset_of_isOf {entry : CustodyEntry} (theirs : entry.isOf user asset = true) :
    entry.asset = asset := by
  simp only [isOf, Bool.and_eq_true, beq_iff_eq] at theirs
  exact theirs.2

theorem Books.Filed.eq (filed : books.Filed) {entry other : CustodyEntry}
    (mem : entry ∈ books.custody) (isOther : other ∈ books.custody)
    (theirs : entry.isOf user asset = true) (same : other.isOf user asset = true) :
    other = entry := by
  simp only [CustodyEntry.isOf, Bool.and_eq_true, beq_iff_eq] at theirs same
  exact List.inj_on_of_nodup_map filed isOther mem (by rw [same.1, same.2, theirs.1, theirs.2])

/-- A deposit of an amount that is not rounded is owed from then on. -/
theorem Books.Filed.sum_addDeposit (filed : books.Filed) {amount : Amount}
    (safe : ∀ entry ∈ books.addDeposit user asset amount, entry.amount ≤ Number.maxSafe)
    (other : Asset) :
    ((books.addDeposit user asset amount).map (·.held other)).sum =
      (books.custody.map (·.held other)).sum + if asset = other then amount else 0 := by
  rw [Books.addDeposit] at safe ⊢
  split
  · next present =>
    rw [if_pos present] at safe
    obtain ⟨entry, mem, theirs⟩ := List.any_eq_true.1 present
    have total := sum_map_change (List.Nodup.of_map _ filed) mem (·.held other)
      (fun entry => if entry.isOf user asset then
        { entry with amount := Amount.add entry.amount amount } else entry)
      fun next isNext differ => if_neg fun same => differ (filed.eq mem isNext theirs same)
    have exactly := safe _ (List.mem_map_of_mem mem)
    rw [if_pos theirs] at exactly total
    have grown : CustodyEntry.held { entry with amount := Amount.add entry.amount amount } other =
        entry.held other + if asset = other then amount else 0 := by
      rw [Amount.add_eq_of_le exactly]
      by_cases here : asset = other <;>
        simp [CustodyEntry.held, CustodyEntry.asset_of_isOf theirs, here]
    rw [grown] at total
    omega
  · simp [CustodyEntry.held]

/-- A deposit that is taken back is no longer owed. -/
theorem Books.Filed.sum_filter (filed : books.Filed) (user : Address) (asset other : Asset) :
    ((books.custody.filter fun entry => !entry.isOf user asset).map (·.held other)).sum +
        (if asset = other then books.deposited user asset else 0) =
      (books.custody.map (·.held other)).sum := by
  rw [Books.deposited]
  cases found : books.custody.find? (·.isOf user asset) with
  | none =>
      rw [List.find?_eq_none] at found
      rw [List.filter_eq_self.2 fun entry mem => by simpa using found entry mem]
      simp
  | some entry =>
      have mem := List.mem_of_find?_eq_some found
      have theirs : entry.isOf user asset = true := by simpa using List.find?_some found
      have rest : (books.custody.filter fun entry => !entry.isOf user asset) =
          books.custody.erase entry := by
        rw [(List.Nodup.of_map _ filed).erase_eq_filter]
        apply List.filter_congr
        intro next isNext
        by_cases same : next.isOf user asset = true
        · simp [filed.eq mem isNext theirs same, theirs]
        · have differ : next ≠ entry := by
            rintro rfl
            exact same theirs
          simp [same, differ]
      have total := List.sum_map_erase (CustodyEntry.held · other) mem
      rw [rest, ← total, Nat.add_comm]
      simp [CustodyEntry.held, CustodyEntry.asset_of_isOf theirs]

end

section

variable {host : Host} {moment : Moment} {books : Books} {circle : Circle} {caller : Address}
variable {operation : Operation} {change : Change} {effect : Effect}

/-- When a circle is replaced, what is owed changes by what the circle holds. -/
theorem Books.Numbered.owed_replaceCircle (numbered : books.Numbered)
    (mem : circle ∈ books.circles) {next : Circle} (lasts : circle.Lasts next) (asset : Asset) :
    (books.replaceCircle next).owed asset + circle.held asset =
      books.owed asset + next.held asset := by
  have total : ((books.replaceCircle next).circles.map (·.held asset)).sum + circle.held asset =
      (books.circles.map (·.held asset)).sum + next.held asset := by
    have total := sum_map_change (List.Nodup.of_map _ numbered.nodup) mem (·.held asset)
      (fun other => if other.id = next.id then next else other)
      fun other isOther differ => if_neg fun same =>
        differ (numbered.eq_of_id_eq mem isOther (same.trans lasts.id))
    rwa [if_pos lasts.id.symm] at total
  have custody : (books.replaceCircle next).custody = books.custody := rfl
  rw [owed, owed, custody]
  omega

theorem Books.ne_of_treasury {address : Address} (apart : books.treasury ≠ some address)
    {condition : Prop} [Decidable condition] :
    (if condition then books.treasury else none) ≠ some address := by
  split
  · exact apart
  · simp

/-- The transfers that a call on a circle asks for move the circle's own asset. -/
theorem Deed.asset_of_mem_transfers
    (deed : Deed host moment books circle caller operation change) :
    ∀ transfer ∈ change.transfers, transfer.asset = circle.asset := by
  have paid {target : Address} {amount : Amount} :
      ∀ transfer ∈ circle.payOut host target amount, transfer.asset = circle.asset := by
    intro transfer mem
    rw [Circle.payOut] at mem
    split at mem <;> simp_all
  cases deed with
  | swap _ swapping | swapByAdmin swapping => cases swapping <;> simp [Circle.answering]
  | kick =>
      intro transfer mem
      rcases List.mem_append.1 mem with refund | fine
      · exact paid transfer refund
      · obtain ⟨_, _, rfl⟩ := List.mem_map.1 fine
        rfl
  | fillVacancy | withdrawProRata => exact paid
  | processPayout =>
      intro transfer mem
      rcases List.mem_cons.1 mem with rfl | fee
      · rfl
      · obtain ⟨_, _, rfl⟩ := List.mem_map.1 fee
        rfl
  | contribute => simp
  | _ => simp [Circle.answering, Circle.afterVote]

/-- What a call on a circle takes from its balance is what the transfers drain from custody. -/
theorem Deed.balance_add_drains (deed : Deed host moment books circle caller operation change)
    (sound : circle.Sound) (safe : circle.balance ≤ Number.maxSafe)
    (next : change.circle.balance ≤ Number.maxSafe) (noMember : host.custody ∉ circle.members)
    (noTreasury : books.treasury ≠ some host.custody) (stranger : caller ≠ host.custody) :
    (change.circle.balance : Int) + drains change.transfers circle.asset host.custody =
      circle.balance := by
  have apart {member : Address} {found : Nat × Seat}
      (seated : circle.seat? member = some found) : member ≠ host.custody :=
    sound.indexed.ne_of_seat? noMember seated
  have taken {amount : Amount} (covered : amount ≤ circle.balance) :
      ((Amount.sub circle.balance amount : Nat) : Int) = circle.balance - amount := by
    rw [Amount.sub_eq safe]
    exact Int.ofNat_sub covered
  cases deed with
  | swap _ swapping | swapByAdmin swapping =>
      cases swapping with
      | same => simp [Circle.answering]
      | renamed _ _ _ _ _ isRenamed =>
          subst isRenamed
          simp [Circle.renameMember, Circle.reindexed]
  | @kick _ _ _ _ penalty _ seat refund fined outflow _ _ _ _ _ seated owed _ isRefund isFined
      isOutflow covered isRemoved _ isKept =>
      subst isKept
      simp only [Circle.balance_settle, drains_append, drains_payOut circle host (apart seated),
        taken covered]
      have elsewhere : fined ≠ some host.custody := by
        rw [isFined]
        exact Books.ne_of_treasury noTreasury
      rw [drains_toList elsewhere]
      split at isOutflow
      · next forwarded =>
        rw [isOutflow] at covered ⊢
        rw [isRefund, Amount.sub_eq (Nat.le_trans covered safe), if_pos forwarded]
        have := Int.ofNat_sub owed
        omega
      · next kept =>
        rw [isOutflow, if_neg kept]
        omega
  | fillVacancy _ _ seated _ _ _ _ covered _ _ isKept =>
      subst isKept
      simp only [Circle.balance_settle, drains_payOut circle host (apart seated), taken covered]
      omega
  | @processPayout _ _ _ _ _ fee _ _ _ _ _ active _ covered _ isNet routed isPaid =>
      have seated := (Circle.seat?_of_activeSeat? active).2
      have enough : circle.contribution ≤ circle.balance :=
        Nat.le_trans (circle.contribution_le_payoutTarget sound.safe moment.now) covered
      have elsewhere : (if 0 < fee then books.treasury else none) ≠ some host.custody :=
        Books.ne_of_treasury noTreasury
      have whole : (if (if 0 < fee then books.treasury else none).isSome then (fee : Int) else 0) =
          fee := by
        rcases routed with nothing | routed
        · simp [nothing]
        · by_cases positive : 0 < fee
          · rw [if_pos positive, if_pos routed]
          · simp [Nat.eq_zero_of_not_pos positive]
      subst isPaid
      rw [drains_cons, drain_out (apart seated), if_pos rfl, drains_toList elsewhere, whole]
      simp only [Circle.paySeat, taken enough]
      omega
  | @contribute _ _ _ _ _ _ _ amount =>
      have paid : Transfer.drain ⟨circle.asset, caller, host.custody, .ofNat amount⟩ circle.asset
          host.custody = -amount := (drain_in stranger).trans (by rw [if_pos rfl])
      have grown : Amount.add circle.balance amount = circle.balance + amount :=
        Amount.add_eq_of_le next
      simp only [drains_cons, drains_nil, paid, grown]
      simp
  | withdrawProRata _ seated _ _ covered =>
      simp only [drains_payOut circle host (apart seated), taken covered]
      omega
  | coverMember _ _ _ _ _ isCovered =>
      subst isCovered
      simp [Circle.updateSeat]
  | join | rollover => exact Int.add_zero _
  | _ => simp [Circle.answering, Circle.afterVote]

theorem Host.eq_principal_of_authorize {proof : Option Proof}
    (accepted : host.authorize proof = .ok caller) :
    ∃ given, proof = some given ∧ given.principal = caller := by
  simp only [authorize, bind_eq_ok, demandSome_eq_ok] at accepted
  obtain ⟨given, isGiven, _, _, ⟨⟩⟩ := accepted
  exact ⟨given, isGiven, rfl⟩

/-- A call changes what is owed of an asset by what its transfers drain from custody. -/
theorem Performs.owed (performs : Performs host moment books operation effect)
    (numbered : books.Numbered) (sound : ∀ circle ∈ books.circles, circle.Sound)
    (filed : books.Filed) (safe : books.IsSafe) (next : effect.books.IsSafe)
    (spared : books.Spares host.custody)
    (stranger : ∀ proof, operation.proof = some proof → proof.principal ≠ host.custody)
    (asset : Asset) :
    (effect.books.owed asset : Int) + drains effect.transfers asset host.custody =
      books.owed asset := by
  have apart {caller : Address} (accepted : host.authorize operation.proof = .ok caller) :
      caller ≠ host.custody := by
    obtain ⟨given, isGiven, rfl⟩ := Host.eq_principal_of_authorize accepted
    exact stranger given isGiven
  have installed {circle : Circle} {caller : Address} {change : Change}
      (mem : circle ∈ books.circles) (isCaller : caller ≠ host.custody)
      (deed : Deed host moment books circle caller operation change)
      (nextSafe : (books.replaceCircle change.circle).IsSafe) :
      ((books.replaceCircle change.circle).owed asset : Int) +
        drains change.transfers asset host.custody = books.owed asset := by
    have replaced := numbered.owed_replaceCircle mem deed.lasts asset
    by_cases own : circle.asset = asset
    · have moved := deed.balance_add_drains (sound circle mem) (safe.balances circle mem)
        (nextSafe.balances _ (Books.mem_replaceCircle_self mem deed.lasts.id))
        (spared.members circle mem) spared.treasury isCaller
      rw [Circle.held, Circle.held, if_pos own, if_pos (deed.lasts.asset.trans own)] at replaced
      rw [own] at moved
      omega
    · rw [Circle.held, Circle.held, if_neg own, if_neg (deed.lasts.asset ▸ own)] at replaced
      rw [drains_eq_zero fun transfer mem => deed.asset_of_mem_transfers transfer mem ▸ own]
      omega
  cases performs with
  | claimProtocol | adminAction | setProtocolFee => exact Int.add_zero _
  | createCircle _ _ _ _ _ _ _ _ _ isCircle =>
      subst isCircle
      simp [Books.owed, Circle.held]
  | @deposit _ given _ user amount caller =>
      have total := filed.sum_addDeposit next.deposits asset
      have paid : Transfer.drain ⟨given, user, host.custody, .ofNat amount⟩ asset host.custody =
          -if given = asset then (amount : Int) else 0 := drain_in (apart caller)
      simp only [Books.owed, drains_cons, drains_nil, paid, total]
      split <;> omega
  | @emergencyWithdraw _ given user caller =>
      have total := filed.sum_filter user given asset
      have paid : drains (if 0 < books.deposited user given then
            [⟨given, host.custody, user, .ofNat (books.deposited user given)⟩] else [])
          asset host.custody = if given = asset then (books.deposited user given : Int) else 0 := by
        split
        · rw [drains_cons, Number.ofNat, drain_out (apart caller), drains_nil, Int.add_zero]
        · next nothing => simp [Nat.eq_zero_of_not_pos nothing]
      simp only [Books.owed, paid, ← total]
      split <;> omega
  | byAdmin _ found caller _ deed =>
      exact installed (Books.mem_of_circle found) (apart caller) deed ⟨next.balances, next.deposits⟩
  | byMember _ found caller _ deed =>
      exact installed (Books.mem_of_circle found) (apart caller) deed ⟨next.balances, next.deposits⟩

/-- A deposit adds to the entry of its user and asset, or makes one. -/
theorem Books.Filed.addDeposit (filed : books.Filed) (user : Address) (asset : Asset)
    (amount : Amount) :
    ((books.addDeposit user asset amount).map fun entry => (entry.user, entry.asset)).Nodup := by
  rw [Books.addDeposit]
  split
  · have same : ((books.custody.map fun entry => if entry.isOf user asset then
        { entry with amount := Amount.add entry.amount amount } else entry).map
          fun entry => (entry.user, entry.asset)) =
        books.custody.map fun entry => (entry.user, entry.asset) := by
      rw [List.map_map]
      apply List.map_congr_left
      intro entry _
      by_cases theirs : entry.isOf user asset = true <;> simp [theirs]
    rw [same]
    exact filed
  · next absent =>
    rw [List.map_append, List.nodup_append]
    refine ⟨filed, List.nodup_singleton _, ?_⟩
    simp only [List.mem_map, List.map_cons, List.map_nil, List.mem_singleton]
    rintro _ ⟨entry, mem, rfl⟩ _ rfl same
    refine absent (List.any_eq_true.2 ⟨entry, mem, ?_⟩)
    simpa [CustodyEntry.isOf] using same

theorem booksKept_filed (host : Host) :
    BooksKept host (fun _ => True) fun books _ => books.Filed where
  reset _ _ := List.nodup_nil
  write := by
    intro books _ _ _ _ _ filed performed _ _
    cases performs_of_perform performed with
    | deposit => exact filed.addDeposit ..
    | emergencyWithdraw => exact filed.sublist (List.filter_sublist.map _)
    | _ => exact filed

end

end SavingsCircle
