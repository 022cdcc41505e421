import Mathlib.Data.List.DropRight
import SavingsCircle.Proofs.Circle.Isolation
import SavingsCircle.Proofs.Custody.Intake
import SavingsCircle.Proofs.Run.InEffect
import SavingsCircle.Proofs.Run.Reentry

/-!
# Deposits and withdrawals

A deposit is credited before its transfer is made, and an emergency withdrawal drops the entry
before it pays out, so calls that the transfers meet find the books as they will be if all goes
well. What a user has deposited of an asset is therefore told by the calls in effect: it is the sum
of the deposits that began after the last withdrawal (`depositsSince`).
-/

namespace SavingsCircle

/-- The user whose deposits a call is about, and the asset. -/
def Operation.account? (host : Host) : Operation → Option (Address × Asset)
  | .deposit proof asset _ | .emergencyWithdraw proof asset =>
    (host.authorize proof).toOption.map fun user => (user, asset)
  | _ => none

def Operation.deposits : Operation → Nat
  | .deposit _ _ amount => amount.toNat
  | _ => 0

def Operation.takesBack : Operation → Bool
  | .emergencyWithdraw .. => true
  | _ => false

/-- The sum of what a user has deposited of an asset by calls since the last of them that took the
deposits of that asset back. -/
def depositsSince (host : Host) (user : Address) (asset : Asset) (calls : List Operation) : Nat :=
  (((calls.filter fun call => call.account? host = some (user, asset)).rtakeWhile
    fun call => !call.takesBack).map (·.deposits)).sum

section

variable {host : Host} {moment : Moment} {books : Books} {operation : Operation} {effect : Effect}
variable {user other : Address} {asset given : Asset} {amount : Amount} {calls : List Operation}

/-- One more call counts if it is about these deposits. -/
theorem depositsSince_concat (calls : List Operation) (call : Operation) :
    depositsSince host user asset (calls ++ [call]) =
      if call.account? host = some (user, asset) then
        if call.takesBack then 0 else depositsSince host user asset calls + call.deposits
      else depositsSince host user asset calls := by
  rw [depositsSince, List.filter_append]
  by_cases own : call.account? host = some (user, asset)
  · rw [if_pos own, List.filter_cons_of_pos (by simpa using own), List.filter_nil,
      List.rtakeWhile_concat]
    cases call.takesBack with
    | true => rfl
    | false => simp [depositsSince]
  · rw [if_neg own, List.filter_cons_of_neg (by simpa using own), List.filter_nil, List.append_nil]
    rfl

theorem depositsSince_append_of_others {more : List Operation}
    (others : ∀ call ∈ more, call.account? host ≠ some (user, asset)) :
    depositsSince host user asset (calls ++ more) = depositsSince host user asset calls := by
  have none : more.filter (fun call => call.account? host = some (user, asset)) = [] :=
    List.filter_eq_nil_iff.2 fun call mem => by simpa using others call mem
  rw [depositsSince, List.filter_append, none, List.append_nil, depositsSince]

/-- A call about some deposits leaves the entries of all others. -/
theorem Books.find?_of_filter {next : Books} (differ : ¬(other = user ∧ given = asset))
    (same : next.custody.filter (fun entry => !entry.isOf other given) =
      books.custody.filter fun entry => !entry.isOf other given) :
    next.custody.find? (·.isOf user asset) = books.custody.find? (·.isOf user asset) := by
  have apart (entries : List CustodyEntry) : entries.find? (·.isOf user asset) =
      (entries.filter fun entry => !entry.isOf other given).find? (·.isOf user asset) := by
    rw [List.find?_filter]
    congr 1
    funext entry
    by_cases theirs : entry.isOf user asset = true
    · have kept : entry.isOf other given = false := by
        simp only [CustodyEntry.isOf, Bool.and_eq_true, beq_iff_eq] at theirs
        rw [CustodyEntry.isOf, theirs.1, theirs.2]
        rw [and_comm, eq_comm (b := asset), eq_comm (b := user)] at differ
        simpa [and_comm] using differ
      rw [theirs, kept]
      rfl
    · simp [theirs]
  rw [apart, same, ← apart]

theorem Operation.account?_of_circleId? {id : Number} (named : operation.circleId? = some id) :
    operation.account? host = none := by
  cases operation <;> first | rfl | cases named

theorem Operation.account?_emergencyWithdraw {proof : Option Proof} (asset : Asset)
    (caller : host.authorize proof = .ok user) :
    (emergencyWithdraw proof asset).account? host = some (user, asset) := by
  rw [account?, caller]
  rfl

/-- What a call makes of the deposits that it is about. -/
theorem Performs.deposited_of_own (performs : Performs host moment books operation effect)
    (own : operation.account? host = some (user, asset)) :
    effect.books.deposited user asset =
      if operation.takesBack then 0
      else Amount.add (books.deposited user asset) operation.deposits := by
  cases performs with
  | deposit accepted safe =>
      rw [Operation.account?, accepted] at own
      obtain ⟨rfl, rfl⟩ := Prod.mk.inj (Option.some.inj own)
      rw [Operation.deposits, Number.toNat_of_safeNat? safe]
      exact Books.deposited_addDeposit (Number.safeNat?_le safe)
  | @emergencyWithdraw proof given caller accepted =>
      rw [Operation.account?, accepted] at own
      obtain ⟨rfl, rfl⟩ := Prod.mk.inj (Option.some.inj own)
      have gone : (books.custody.filter fun entry => !entry.isOf caller given).find?
          (·.isOf caller given) = none := by
        simp
      rw [Books.deposited, gone]
      rfl
  | byAdmin named | byMember named =>
      rw [Operation.account?_of_circleId? named] at own
      cases own
  | _ => cases own

/-- A call leaves the entries of deposits that it is not about. -/
theorem Performs.find?_of_other (performs : Performs host moment books operation effect)
    (others : operation.account? host ≠ some (user, asset)) :
    effect.books.custody.find? (·.isOf user asset) = books.custody.find? (·.isOf user asset) := by
  cases performs with
  | @deposit proof given _ caller amount accepted =>
      rw [Operation.account?, accepted] at others
      exact Books.find?_of_filter (by simpa [Except.toOption] using others)
        (books.filter_addDeposit caller given amount)
  | emergencyWithdraw accepted =>
      rw [Operation.account?, accepted] at others
      refine Books.find?_of_filter (by simpa [Except.toOption] using others) ?_
      exact (List.filter_filter ..).trans (List.filter_congr fun entry _ => Bool.and_self _)
  | _ => rfl

theorem Performs.deposited_of_other (performs : Performs host moment books operation effect)
    (others : operation.account? host ≠ some (user, asset)) :
    effect.books.deposited user asset = books.deposited user asset := by
  rw [Books.deposited, performs.find?_of_other others, Books.deposited]

/-- What an exact call leaves of a deposit is told by one call more. -/
theorem Performs.deposited_eq (performs : Performs host moment books operation effect)
    (safe : effect.books.deposited user asset ≤ Number.maxSafe)
    (told : books.deposited user asset = depositsSince host user asset calls) :
    effect.books.deposited user asset =
      depositsSince host user asset (calls ++ [operation]) := by
  rw [depositsSince_concat]
  by_cases own : operation.account? host = some (user, asset)
  · rw [performs.deposited_of_own own] at safe ⊢
    rw [if_pos own]
    cases takes : operation.takesBack with
    | true => rfl
    | false =>
        simp only [takes, Bool.false_eq_true, if_false] at safe ⊢
        rw [Amount.add_eq_of_le safe, told]
  · rw [performs.deposited_of_other own, if_neg own, told]

theorem Books.deposited_le (safe : ∀ entry ∈ books.custody, entry.amount ≤ Number.maxSafe) :
    books.deposited user asset ≤ Number.maxSafe := by
  rw [deposited]
  cases found : books.custody.find? (·.isOf user asset) with
  | none => exact Nat.zero_le _
  | some entry => exact safe entry (List.mem_of_find?_eq_some found)

end

/-- A move to books in which no deposit is too large to be exact. -/
def Passage.DepositsSafely (passage : Passage) : Prop :=
  ∀ entry ∈ passage.world.books.custody, entry.amount ≤ Number.maxSafe

instance (passage : Passage) : Decidable passage.DepositsSafely :=
  inferInstanceAs (Decidable (∀ entry ∈ passage.world.books.custody, entry.amount ≤ Number.maxSafe))

section

variable (host : Host) (user : Address) (asset : Asset)

/-- The calls in effect go on to tell all deposits. -/
theorem carriedOn_deposited_eq : CarriedOn host Passage.DepositsSafely fun calls books =>
    books.Filed ∧
      ∀ user asset, books.deposited user asset = depositsSince host user asset calls where
  write := by
    intro calls books moment operation effect written ⟨filed, told⟩ performed safe isBooks
    have next : effect.books.Filed :=
      @BooksKept.write _ _ _ (booksKept_filed host) _ [] _ _ _ _ filed performed trivial isBooks
    refine ⟨next, fun user asset => ?_⟩
    refine (performs_of_perform performed).deposited_eq ?_ (told user asset)
    exact isBooks ▸ Books.deposited_le safe

/-- Calls in effect of which the first took a deposit back go on to tell it. -/
theorem carriedOn_deposited_of_takesBack : CarriedOn host Passage.DepositsSafely fun calls books =>
    ∀ call nested, calls = call :: nested → call.account? host = some (user, asset) →
      call.takesBack = true →
        books.deposited user asset = depositsSince host user asset calls where
  write := by
    intro calls books moment operation effect written told performed safe isBooks
      call nested isFirst own takes
    have performs := performs_of_perform performed
    cases calls with
    | nil =>
        -- The call itself takes the deposit back, whatever it was before.
        obtain ⟨rfl, -⟩ := List.cons.inj isFirst
        rw [performs.deposited_of_own own, depositsSince_concat, if_pos own, takes]
        rfl
    | cons first others =>
        obtain ⟨rfl, -⟩ := List.cons.inj isFirst
        refine performs.deposited_eq ?_ (told first others rfl own takes)
        exact isBooks ▸ Books.deposited_le safe

/-- Calls in effect that are about other deposits go on to leave a deposit alone. -/
theorem carriedOn_deposited_of_other (held : Amount) :
    CarriedOn host (fun _ => True) fun calls books =>
    (∀ call ∈ calls, call.account? host ≠ some (user, asset)) →
      books.deposited user asset = held where
  write := by
    intro calls books moment operation effect written spared performed _ _ others
    rw [List.forall_mem_append, List.forall_mem_singleton] at others
    rw [(performs_of_perform performed).deposited_of_other others.2, spared others.1]

end

/-- A call that is carried out writes the books first. -/
theorem Step.course_of_commit {host : Host} {world written : World} {operation : Operation}
    {effect : Effect} (plan : List Encounter)
    (performed : operation.perform host world.moment world.books = .ok effect)
    (committed : world.commit effect = .ok written) :
    ∃ later, (Step.call operation plan).course host world =
      ⟨.write operation, written⟩ :: later := by
  simp only [course, performed, committed, List.cons_append]
  exact ⟨_, rfl⟩

/-- A withdrawal that returns has answered what the user had deposited when it began, and had taken
that out of the books at once. -/
theorem emergencyWithdraw_eq_ok {host : Host} {world : World} {proof : Option Proof}
    {user : Address} {asset : Asset} {plan : List Encounter} {answer : Answer}
    (caller : host.authorize proof = .ok user)
    (returned :
      ((Step.call (.emergencyWithdraw proof asset) plan).run host world).2.outcome = .ok answer) :
    answer = .amount (world.books.deposited user asset) ∧
      ∃ written later, (Step.call (.emergencyWithdraw proof asset) plan).course host world =
          ⟨.write (.emergencyWithdraw proof asset), written⟩ :: later ∧
        written.books.deposited user asset = 0 := by
  obtain ⟨effect, written, performed, committed, _, _, isAnswer⟩ := Step.run_eq_ok returned
  have performs := performs_of_perform performed
  have emptied := performs.deposited_of_own (Operation.account?_emergencyWithdraw asset caller)
  cases performs with
  | emergencyWithdraw accepted =>
      obtain rfl := Except.ok.inj (caller.symm.trans accepted)
      obtain ⟨later, isCourse⟩ := Step.course_of_commit plan performed committed
      refine ⟨isAnswer.symm.trans (settle_answer committed rfl), written, later, isCourse, ?_⟩
      rw [World.books_commit committed]
      exact emptied
  | byAdmin named | byMember named => cases named

/-- Anywhere in a run without resets in which no deposit is too large to be exact, a user has one
entry of an asset at most, and the deposits of the user are told by the calls in effect: those that
have written the books and were not undone, re-entrant ones included. Their sum since the last
withdrawal is what the user has deposited. A withdrawal that returns answers that sum as it was when
the withdrawal began. It leaves nothing, or what calls that its transfers met deposited anew. No
step changes what a user has deposited of an asset unless it leaves a deposit or a withdrawal of
that user and asset in effect. -/
theorem deposits_last_until_withdrawn {host : Host} {now clock : Number} {nonce : String}
    {draws : Draws} {steps : List Step} {start world : World} {front back : List Passage}
    (isStart : start = .opened now clock nonce draws)
    (lasting : ∀ passage ∈ runCourse host steps start, passage.move.isReset = false)
    (safe : ∀ passage ∈ runCourse host steps start, passage.DepositsSafely)
    (parts : runCourse host steps start = front ++ back)
    (isWorld : world = worldAfter start front) :
    world.books.Filed ∧
      (∀ user asset,
        world.books.deposited user asset = depositsSince host user asset (inEffect front)) ∧
      (∀ withdrawal proof user asset plan answer,
        withdrawal = Step.call (.emergencyWithdraw proof asset) plan →
        host.authorize proof = .ok user →
        (withdrawal.run host world).2.outcome = .ok answer →
          answer = .amount (depositsSince host user asset (inEffect front)) ∧
          (∃ written later, withdrawal.course host world =
              ⟨.write (.emergencyWithdraw proof asset), written⟩ :: later ∧
            written.books.deposited user asset = 0) ∧
          ((∀ passage ∈ withdrawal.course host world,
              passage.move.isReset = false ∧ passage.DepositsSafely) →
            (withdrawal.run host world).1.books.deposited user asset =
                depositsSince host user asset (inEffect (withdrawal.course host world)) ∧
              ((∀ call ∈ (inEffect (withdrawal.course host world)).tail,
                  call.account? host ≠ some (user, asset)) →
                (withdrawal.run host world).1.books.deposited user asset = 0))) ∧
      ∀ (step : Step) user asset,
        (∀ passage ∈ step.course host world, passage.move.isReset = false) →
        (∀ call ∈ inEffect (step.course host world), call.account? host ≠ some (user, asset)) →
          (step.run host world).1.books.deposited user asset =
            world.books.deposited user asset := by
  have began : start.books.Filed ∧
      ∀ user asset, start.books.deposited user asset = depositsSince host user asset [] := by
    rw [isStart]
    exact ⟨List.nodup_nil, fun _ _ => rfl⟩
  obtain ⟨filed, told⟩ := (carriedOn_deposited_eq host).of_front began lasting safe parts
  rw [← isWorld] at filed told
  refine ⟨filed, told, ?_, ?_⟩
  · rintro withdrawal proof user asset plan answer rfl caller returned
    obtain ⟨isAnswer, atOnce⟩ := emergencyWithdraw_eq_ok caller returned
    refine ⟨told user asset ▸ isAnswer, atOnce, fun exact => ?_⟩
    obtain ⟨nested, isInEffect⟩ := Step.inEffect_course_of_ok returned
    have own := Operation.account?_emergencyWithdraw asset caller
    have left := (carriedOn_deposited_of_takesBack host user asset).of_step
      (fun _ _ none => nomatch none)
      (fun passage mem => (exact passage mem).1) (fun passage mem => (exact passage mem).2)
      _ nested isInEffect own rfl
    refine ⟨left, fun others => ?_⟩
    rw [isInEffect] at others
    rw [left, isInEffect]
    calc depositsSince host user asset ([.emergencyWithdraw proof asset] ++ nested)
        = depositsSince host user asset ([] ++ [.emergencyWithdraw proof asset]) :=
          depositsSince_append_of_others others
      _ = 0 := by
          rw [depositsSince_concat, if_pos own]
          rfl
  · intro step user asset unreset others
    exact (carriedOn_deposited_of_other host user asset _).of_step (fun _ => rfl) unreset
      (fun _ _ => trivial)
      others

/-- A deposit that fails takes along the one that its transfer met, and a deposit whose transfer
meets a withdrawal is taken back with what was deposited before. What is deposited after that is
returned, and a deposit that the transfer of this withdrawal meets stays. -/
theorem deposits_of_reentered_calls :
    let deposit (amount : Nat) (plan : List Encounter) : Step :=
      .call (.deposit (Host.sample.proofOf "a") "USDC" (.ofNat amount)) plan
    let withdrawal (plan : List Encounter) : Step :=
      .call (.emergencyWithdraw (Host.sample.proofOf "a") "USDC") plan
    let steps : List Step :=
      [.mint "USDC" "a" (.ofNat 100), .mint "USDC" "vault" (.ofNat 50), deposit 5 [],
        deposit 3 [.meets [deposit 2 []] (some "stopped")], .setClock (.ofNat 1700604801),
        deposit 4 [.meets [withdrawal []] none], deposit 6 []]
    let world := (runAll Host.sample steps World.sample).1
    let last := (withdrawal [.meets [deposit 7 []] none]).run Host.sample world
    (runAll Host.sample steps World.sample).2.map (·.succeeds) =
        [true, true, true, false, true, true, true] ∧
      world.books.deposited "a" "USDC" = 6 ∧ last.2.outcome = .ok (.amount 6) ∧
      last.1.books.deposited "a" "USDC" = 7 := by
  intro deposit withdrawal steps world last
  have outcomes : (runAll Host.sample steps World.sample).2.map (·.succeeds) =
      [true, true, true, false, true, true, true] := by decide +kernel
  have lasting : ∀ passage ∈ runCourse Host.sample steps World.sample,
      passage.move.isReset = false := by decide +kernel
  have safe : ∀ passage ∈ runCourse Host.sample steps World.sample,
      passage.DepositsSafely := by decide +kernel
  have sum : depositsSince Host.sample "a" "USDC"
      (inEffect (runCourse Host.sample steps World.sample)) = 6 := by decide +kernel
  have caller : Host.sample.authorize (Host.sample.proofOf "a") = .ok "a" := by decide +kernel
  have returned : last.2.succeeds = true := by decide +kernel
  have exact : ∀ passage ∈ (withdrawal [.meets [deposit 7 []] none]).course Host.sample world,
      passage.move.isReset = false ∧ passage.DepositsSafely := by decide +kernel
  have anew : depositsSince Host.sample "a" "USDC"
      (inEffect ((withdrawal [.meets [deposit 7 []] none]).course Host.sample world)) = 7 := by
    decide +kernel
  have isWorld : world = worldAfter World.sample (runCourse Host.sample steps World.sample) :=
    (worldAfter_runCourse ..).symm
  have isLast : last = (withdrawal [.meets [deposit 7 []] none]).run Host.sample world := rfl
  clear_value last world
  obtain ⟨answer, isAnswer⟩ := Report.succeeds_eq_true_iff.1 returned
  obtain ⟨_, told, withdrawn, _⟩ :=
    deposits_last_until_withdrawn rfl lasting safe (List.append_nil _).symm isWorld
  rw [isLast] at isAnswer
  obtain ⟨isSum, _, left⟩ := withdrawn _ _ _ _ _ _ rfl caller isAnswer
  have held : world.books.deposited "a" "USDC" = 6 := (told _ _).trans sum
  refine ⟨outcomes, held, ?_, ?_⟩
  · rw [isLast, isAnswer, isSum, ← told, held]
  · rw [isLast, (left exact).1, anew]

end SavingsCircle
