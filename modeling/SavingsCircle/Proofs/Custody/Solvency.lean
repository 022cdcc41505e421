import SavingsCircle.Proofs.Custody.Payment
import SavingsCircle.Proofs.Run.Failure

/-!
# Custody is solvent

The service writes its books before the ledger moves. While calls are in progress the account of
custody is therefore off by exactly what their outstanding transfers drain from it, and every move
of a run keeps this account balanced (`kept_balanced`). Whatever re-entered calls do or undo, at the
end of a top-level step nothing is outstanding and custody has exactly what the books owe
(`custody_is_solvent`).
-/

namespace SavingsCircle

/-- A move that an account has no part in and that does not throw the books away. -/
def Move.Spares (address : Address) : Move → Prop
  | .write operation => ∀ proof ∈ operation.proof, proof.principal ≠ address
  | .act (.mint _ target _) => target ≠ address
  | .act (.transfer _ source target _) => source ≠ address ∧ target ≠ address
  | .act .reset => False
  | _ => True

/-- A passage at which all amounts are safe and custody is nothing but custody. -/
structure Passage.Ordinary (passage : Passage) (custody : Address) : Prop where
  books : passage.world.books.IsSafe
  ledger : ∀ account ∈ passage.world.ledger.accounts, account.balance ≤ Number.maxSafe
  spared : passage.world.books.Spares custody
  move : passage.move.Spares custody

instance (address : Address) : (move : Move) → Decidable (move.Spares address)
  | .write operation =>
    inferInstanceAs (Decidable (∀ proof ∈ operation.proof, proof.principal ≠ address))
  | .act (.mint _ target _) => inferInstanceAs (Decidable (target ≠ address))
  | .act (.transfer _ source target _) =>
    inferInstanceAs (Decidable (source ≠ address ∧ target ≠ address))
  | .act .reset => inferInstanceAs (Decidable False)
  | .act (.call ..) | .act (.query _) | .act (.setClock _) | .act (.advance _)
  | .act (.setDating _) | .act .unknown | .refuse _ | .carry _ | .fail | .conclude =>
    inferInstanceAs (Decidable True)

instance (passage : Passage) (custody : Address) : Decidable (passage.Ordinary custody) :=
  decidable_of_iff
    (passage.world.books.IsSafe ∧
      (∀ account ∈ passage.world.ledger.accounts, account.balance ≤ Number.maxSafe) ∧
      passage.world.books.Spares custody ∧ passage.move.Spares custody)
    ⟨fun h => ⟨h.1, h.2.1, h.2.2.1, h.2.2.2⟩, fun h => ⟨h.books, h.ledger, h.spared, h.move⟩⟩

/-- Books and a ledger that the service can be in when all passages are ordinary. -/
structure Regular (custody : Address) (books : Books) (ledger : Ledger) : Prop where
  numbered : books.Numbered
  sound : ∀ circle ∈ books.circles, circle.Sound
  filed : books.Filed
  safe : books.IsSafe
  ledger : ∀ asset, ledger.balance asset custody ≤ Number.maxSafe
  spared : books.Spares custody

/-- Custody has what the books owe and what outstanding transfers are still to drain. -/
def Balanced (custody : Address) (pending : List Transfer) (books : Books) (ledger : Ledger) :
    Prop :=
  ∀ asset, (ledger.balance asset custody : Int) = books.owed asset + drains pending asset custody

section

variable {host : Host}

/-- Every move that leaves custody alone, and after which the world is regular, keeps the account
of custody balanced. -/
theorem kept_balanced (restores : host.restoresLedger = true) :
    Kept host
      (fun passage => Regular host.custody passage.world.books passage.world.ledger ∧
        passage.move.Spares host.custody)
      (fun pending world => Regular host.custody world.books world.ledger ∧
        Balanced host.custody pending world.books world.ledger) where
  same holds books _ ledger := by rwa [books, ledger restores]
  write := by
    rintro pending world operation effect written ⟨regular, balanced⟩ performed committed
      ⟨next, stranger⟩
    refine ⟨next, fun asset => ?_⟩
    have safe := World.books_commit committed ▸ next.safe
    -- Writing changes what is owed and what is outstanding by opposite amounts.
    have moved := (performs_of_perform performed).owed regular.numbered regular.sound regular.filed
      regular.safe safe regular.spared stranger asset
    rw [World.books_commit committed, World.ledger_commit committed, balanced asset, drains_append]
    omega
  carry := by
    rintro pending world transfer next ⟨regular, balanced⟩ made ⟨after, _⟩
    obtain ⟨ledger, moved, rfl⟩ := World.carry_eq_ok made
    refine ⟨after, fun asset => ?_⟩
    have drained := Ledger.balance_transfer transfer moved (regular.ledger asset) fun _ =>
      after.ledger asset
    have before := balanced asset
    rw [drains_cons] at before
    change (ledger.balance asset host.custody : Int) = world.books.owed asset + _
    omega
  mint := by
    rintro pending world asset target amount ledger ⟨_, balanced⟩ minted ⟨next, apart⟩
    refine ⟨next, fun other => ?_⟩
    simp only [Ledger.mint, bind_eq_ok, demandSome_eq_ok, demand_eq_ok] at minted
    obtain ⟨_, _, _, _, ⟨⟩⟩ := minted
    rw [Ledger.balance_credit, if_neg fun same => apart same.2.symm]
    exact balanced other
  move := by
    rintro pending world asset source target amount ledger ⟨regular, balanced⟩ moved ⟨next, apart⟩
    refine ⟨next, fun other => ?_⟩
    have drained := Ledger.balance_transfer ⟨asset, source, target, amount⟩ moved
      (regular.ledger other) fun _ => next.ledger other
    have nothing : Transfer.drain ⟨asset, source, target, amount⟩ other host.custody = 0 := by
      simp [Transfer.drain, apart.1, apart.2]
    have before := balanced other
    change (ledger.balance other host.custody : Int) = world.books.owed other + _
    omega
  reset _ admitted := admitted.2.elim

/-- A call that pays out of a balanced custody and is not re-entered finds the funds there. -/
theorem run_ne_shortfall (restores : host.restoresLedger = true) {world : World}
    (regular : Regular host.custody world.books world.ledger)
    (balanced : Balanced host.custody [] world.books world.ledger) {operation : Operation}
    {plan : List Encounter} (out : operation.paysOut = true)
    (idle : ∀ met ∈ plan, met.isIdle = true)
    (admitted : ∀ passage ∈ (Step.call operation plan).course host world,
      Regular host.custody passage.world.books passage.world.ledger ∧
        passage.move.Spares host.custody)
    (message : String) :
    ((Step.call operation plan).run host world).2.outcome ≠
      .error (.circle .insufficientAllowance message) := by
  intro refused
  rcases Step.run_eq_error refused with performed | undated |
    ⟨effect, written, performed, committed, ending⟩
  · exact perform_ne_shortfall out message performed
  · simp at undated
  · have passes : ⟨.write operation, written⟩ ∈ (Step.call operation plan).course host world := by
      simp [Step.course, performed, committed]
    obtain ⟨next, stranger⟩ := admitted _ passes
    obtain ⟨_, after⟩ :=
      (kept_balanced restores).write ⟨regular, balanced⟩ performed committed ⟨next, stranger⟩
    obtain ⟨asset, outgoing⟩ := (performs_of_perform performed).outgoing out regular.sound
      regular.spared stranger
    have covered : drains effect.transfers asset host.custody ≤
        written.ledger.balance asset host.custody := by
      have holds := after asset
      rw [List.append_nil] at holds
      omega
    exact outgoing.settle_ne_shortfall host plan idle (next.ledger asset) covered message ending

variable {now clock : Number} {nonce : String} {draws : Draws} {steps : List Step}

/-- When all passages are ordinary, the books are regular at all of them. -/
theorem regular_of_ordinary
    (ordinary : ∀ passage ∈ runCourse host steps (.opened now clock nonce draws),
      passage.Ordinary host.custody) :
    ∀ passage ∈ runCourse host steps (.opened now clock nonce draws),
      Regular host.custody passage.world.books passage.world.ledger := by
  have sound := ((circleInvariant_sound host).booksKept.run steps (.opened now clock nonce draws)
    (fun _ _ _ _ => trivial) ((circleInvariant_sound host).booksKept.reset [] now)).2
  have filed := ((booksKept_filed host).run steps (.opened now clock nonce draws)
    (fun _ _ => trivial) ((booksKept_filed host).reset [] now)).2
  intro passage mem
  have usual := ordinary passage mem
  exact
    { numbered := (sound passage mem).1
      sound := (sound passage mem).2
      filed := filed passage mem
      safe := usual.books
      ledger := fun asset => Ledger.IsSafe.balance_le usual.ledger asset host.custody
      spared := usual.spared }

/-- When all passages are ordinary, custody is balanced after all steps of a run. -/
theorem balanced_of_ordinary (restores : host.restoresLedger = true)
    (ordinary : ∀ passage ∈ runCourse host steps (.opened now clock nonce draws),
      passage.Ordinary host.custody) :
    let world := (runAll host steps (.opened now clock nonce draws)).1
    Regular host.custody world.books world.ledger ∧
      Balanced host.custody [] world.books world.ledger := by
  refine ((kept_balanced restores).run (fun passage mem => ?_) ⟨?_, ?_⟩).1
  · exact ⟨regular_of_ordinary ordinary passage mem, (ordinary passage mem).move⟩
  · exact
      { numbered := ((circleInvariant_sound host).booksKept.reset [] now).1
        sound := by simp [World.opened, Books.opened]
        filed := (booksKept_filed host).reset [] now
        safe := ⟨by simp [World.opened, Books.opened], by simp [World.opened, Books.opened]⟩
        ledger := fun _ => Nat.zero_le _
        spared := ⟨by simp [World.opened, Books.opened],
          by simp [World.opened, Books.opened, Books.treasury]⟩ }
  · intro asset
    rfl

/-- When all passages of a run are ordinary, custody has after every top-level step exactly what
the books owe of every asset, whatever was called again in the meantime and whatever failed. A call
that pays out and is not re-entered is therefore never refused for want of funds in custody. -/
theorem custody_is_solvent (restores : host.restoresLedger = true)
    (ordinary : ∀ passage ∈ runCourse host steps (.opened now clock nonce draws),
      passage.Ordinary host.custody) :
    ∀ done rest world, steps = done ++ rest →
      world = (runAll host done (.opened now clock nonce draws)).1 →
      (∀ asset, world.ledger.balance asset host.custody = world.books.owed asset) ∧
      ∀ operation plan others, rest = .call operation plan :: others →
        operation.paysOut = true → (∀ met ∈ plan, met.isIdle = true) →
        ∀ message, ((Step.call operation plan).run host world).2.outcome ≠
          .error (.circle .insufficientAllowance message) := by
  rintro done rest world rfl rfl
  have course := runCourse_append host done rest (.opened now clock nonce draws)
  obtain ⟨regular, balanced⟩ := balanced_of_ordinary restores fun passage mem =>
    ordinary passage (course ▸ List.mem_append_left _ mem)
  constructor
  · intro asset
    exact Int.ofNat_inj.1 (by simpa using balanced asset)
  · rintro operation plan others rfl out idle message
    refine run_ne_shortfall restores regular balanced out idle (fun passage mem => ?_) message
    have passes := course ▸ List.mem_append_right _ (List.mem_append_left _ mem)
    exact ⟨regular_of_ordinary ordinary passage passes, (ordinary passage passes).move⟩

end

/-- A member deposits in the middle of contributing, and a second deposit fails. Custody then has
the contribution and the first deposit, and does not lack what the payout of the contribution asks
for. -/
theorem custody_is_solvent_of_nested_deposits :
    let proof := Host.sample.proofOf "a"
    let deposit (units : Nat) (fault : Option String) : Step :=
      .call (.deposit proof "USDC" (.ofNat units)) [.meets [] fault]
    let done : List Step :=
      [.mint "USDC" "a" (.ofNat 200), .call (.createCircle proof .sample) [],
        .call (.join proof (.ofNat 1)) [], .call (.finalize proof (.ofNat 1)) [],
        .call (.contribute proof (.ofNat 1))
          [.meets [deposit 30 none, deposit 20 (some "stopped")] none]]
    let payout : Operation := .processPayout proof (.ofNat 1) "a"
    let world := (runAll Host.sample done World.sample).1
    (∀ passage ∈ runCourse Host.sample (done ++ [.call payout []]) World.sample,
        passage.Ordinary Host.sample.custody) ∧
      world.books.owed "USDC" = 130 ∧ world.ledger.balance "USDC" Host.sample.custody = 130 ∧
      ∀ message, ((Step.call payout []).run Host.sample world).2.outcome ≠
        .error (.circle .insufficientAllowance message) := by
  intro proof deposit done payout world
  have ordinary : ∀ passage ∈ runCourse Host.sample (done ++ [.call payout []]) World.sample,
      passage.Ordinary Host.sample.custody := by
    decide +kernel
  have owed : world.books.owed "USDC" = 130 := by decide +kernel
  obtain ⟨solvent, funded⟩ := custody_is_solvent rfl ordinary done [.call payout []] world rfl rfl
  exact ⟨ordinary, owed, (solvent "USDC").trans owed, funded payout [] [] rfl rfl (by simp)⟩

end SavingsCircle
