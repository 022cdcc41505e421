import SavingsCircle.Proofs.Run.Invariant
import SavingsCircle.Proofs.Service.Reckoning

/-!
# Exact amounts along runs

Whatever calls, mints and transfers a service goes through, its amounts stay safe exactly as long as
no sum that is formed on the way leaves the safe range; then nothing is rounded, and no difference
is cut off that is not meant to be (`amounts_stay_safe_iff`). A single move is decided by its own
sums (`Advance.decides`), and a path by those of its moves (`Path.decides`), because what calls in
progress began with was safe as well and undoing brings nothing else back. No sum is checked: two
payouts of the largest contribution already come to a volume that is not safe, even where no more
units exist than are (`amounts_leave_safe_range`).
-/

namespace SavingsCircle

namespace Ledger

def reckonMint (ledger : Ledger) (asset : Asset) (target : Address) (amount : Number) :
    List Reckoning :=
  match amount.safeNat? with
  | some units => if 0 < units then [.plus (ledger.balance asset target) units] else []
  | none => []

/-- The reckonings of a transfer. One that moves nothing, or more than there is, reckons nothing. -/
def reckonTransfer (ledger : Ledger) (asset : Asset) (source target : Address) (amount : Number) :
    List Reckoning :=
  match amount.safeNat? with
  | some units =>
    if units = 0 ∨ source = target ∨ ledger.balance asset source < units then []
    else [.minus (ledger.balance asset source) units, .plus (ledger.balance asset target) units]
  | none => []

variable {ledger next : Ledger} {asset : Asset} {holder source target : Address} {amount : Number}

/-- A balance that is written is safe with all others if it is safe itself. -/
theorem IsSafe.put_iff (safe : ledger.IsSafe) {balance : Amount} :
    (ledger.put asset holder balance).IsSafe ↔ balance ≤ Number.maxSafe := by
  constructor
  · intro written
    have held := written.balance_le asset holder
    rwa [balance_put, if_pos ⟨rfl, rfl⟩] at held
  · intro small
    rw [put]
    split
    · refine List.forall_mem_map.2 fun account mem => ?_
      split
      · exact small
      · exact safe account mem
    · refine List.forall_mem_append.2 ⟨safe, ?_⟩
      rw [List.forall_mem_singleton]
      exact small

theorem IsSafe.decides_mint (safe : ledger.IsSafe)
    (minted : ledger.mint asset target amount = .ok next) :
    Decides (ledger.reckonMint asset target amount) next.IsSafe := by
  simp only [mint, bind_eq_ok, demandSome_eq_ok, demand_eq_ok] at minted
  obtain ⟨units, given, _, positive, ⟨⟩⟩ := minted
  rw [reckonMint, given]
  dsimp only
  rw [if_pos positive]
  refine (Decides.nil trivial).plus.congr ?_
  rw [credit, safe.put_iff, and_true]

theorem reckonMint_of_error {failure : Failure}
    (refused : ledger.mint asset target amount = .error failure) :
    ledger.reckonMint asset target amount = [] := by
  rw [reckonMint]
  split
  · next units given =>
    refine if_neg fun positive => ?_
    simp [mint, given, positive, demandSome, demand, bind, Except.bind, pure, Except.pure]
      at refused
  · rfl

/-- A transfer that is refused reckons nothing. -/
theorem reckonTransfer_of_error {failure : Failure}
    (refused : ledger.transfer asset source target amount = .error failure) :
    ledger.reckonTransfer asset source target amount = [] := by
  rw [reckonTransfer]
  split
  · next units given =>
    refine if_pos ?_
    by_contra! moves
    obtain ⟨some, apart, enough⟩ := moves
    simp [transfer, given, some, apart, enough, demandSome, demand, bind, Except.bind, pure,
      Except.pure] at refused
  · rfl

theorem IsSafe.decides_transfer (safe : ledger.IsSafe)
    (made : ledger.transfer asset source target amount = .ok next) :
    Decides (ledger.reckonTransfer asset source target amount) next.IsSafe := by
  obtain ⟨units, given, ⟨idle, rfl⟩ | ⟨apart, enough, rfl⟩⟩ := transfer_eq_ok made
  · rw [reckonTransfer, given]
    dsimp only
    rw [if_pos (by tauto)]
    exact .nil safe
  · have small := safe.balance_le asset source
    have left : (ledger.put asset source (Amount.sub (ledger.balance asset source) units)).IsSafe :=
      safe.put_iff.2 (Amount.sub_le_maxSafe small units)
    have grown : ((ledger.put asset source (Amount.sub (ledger.balance asset source) units)).credit
        asset target units).IsSafe ↔
          Amount.add (ledger.balance asset target) units ≤ Number.maxSafe := by
      rw [credit, left.put_iff, balance_put, if_neg fun same => apart same.2.symm]
    rw [reckonTransfer, given]
    dsimp only
    by_cases nothing : units = 0
    · subst nothing
      have held := safe.balance_le asset target
      rw [if_pos (.inl rfl)]
      exact .nil (grown.2 (by rwa [Amount.add_eq held, Nat.add_zero]))
    · rw [if_neg (by simp [nothing, apart, enough])]
      exact ((Decides.nil trivial).plus.congr (by rw [grown, and_true])).minus small enough

end Ledger

/-- No amount that is kept anywhere is too large to be exact. -/
structure World.AllSafe (world : World) : Prop where
  books : world.books.AllSafe
  ledger : world.ledger.IsSafe

instance (world : World) : Decidable world.AllSafe :=
  decidable_of_iff (world.books.AllSafe ∧ world.ledger.IsSafe)
    ⟨fun h => ⟨h.1, h.2⟩, fun h => ⟨h.books, h.ledger⟩⟩

theorem World.AllSafe.iff_of_books {world after : World} (safe : world.AllSafe)
    (same : after.books = world.books) : after.AllSafe ↔ after.ledger.IsSafe :=
  ⟨fun next => next.ledger, fun ledger => ⟨same ▸ safe.books, ledger⟩⟩

def Move.reckonings (host : Host) (world : World) : Move → List Reckoning
  | .write operation => operation.reckonings host world.moment world.books
  | .carry ⟨asset, source, target, amount⟩ | .act (.transfer asset source target amount) =>
    world.ledger.reckonTransfer asset source target amount
  | .act (.mint asset target amount) => world.ledger.reckonMint asset target amount
  | _ => []

/-- The reckonings of moves one after the other, out of the world before the first. -/
def reckonings (host : Host) : World → List Passage → List Reckoning
  | _, [] => []
  | world, passage :: passages =>
    passage.move.reckonings host world ++ reckonings host passage.world passages

/-- All amounts are safe, whatever transfers are outstanding. -/
def KeepsSafe (_ : List Transfer) (world : World) : Prop := world.AllSafe

section

variable {host : Host} {a b : Config} {move : Move} {passages : List Passage}

/-- A step that is no call leaves all amounts safe if what it adds to the ledger is. -/
theorem Step.decides {step : Step} (noCall : step.isCall = false) {world : World}
    (safe : world.AllSafe) :
    Decides ((Move.act step).reckonings host world) (step.run host world).1.AllSafe := by
  cases step with
  | call => simp [isCall] at noCall
  | mint asset target amount =>
      simp only [Move.reckonings, Step.run, World.acted]
      cases minted : world.ledger.mint asset target amount with
      | ok ledger =>
          exact (safe.ledger.decides_mint minted).congr (safe.iff_of_books rfl)
      | error _ =>
          rw [Ledger.reckonMint_of_error minted]
          exact .nil safe
  | transfer asset source target amount =>
      simp only [Move.reckonings, Step.run, World.acted]
      cases moved : world.ledger.transfer asset source target amount with
      | ok ledger =>
          exact (safe.ledger.decides_transfer moved).congr (safe.iff_of_books rfl)
      | error _ =>
          rw [Ledger.reckonTransfer_of_error moved]
          exact .nil safe
  | reset => exact .nil ⟨Books.allSafe_opened world.now, safe.ledger⟩
  | query | setClock | advance | setDating | unknown => exact .nil ⟨safe.books, safe.ledger⟩

/-- A move leaves all amounts safe if its sums are. -/
theorem Advance.decides (advance : Advance host a move b)
    (upheld : Upheld KeepsSafe a.frames a.world) :
    Decides (move.reckonings host a.world) b.world.AllSafe := by
  have safe : a.world.AllSafe := upheld.now
  cases advance with
  | refused | unrecorded => exact .nil ⟨safe.books, safe.ledger⟩
  | written performed committed =>
      refine ((performs_of_perform performed).decides safe.books).congr ?_
      rw [← World.books_commit committed]
      have ledger := World.ledger_commit committed ▸ safe.ledger
      exact ⟨fun next => next.books, fun books => ⟨books, ledger⟩⟩
  | carried made =>
      obtain ⟨ledger, moved, rfl⟩ := World.carry_eq_ok made
      exact (safe.ledger.decides_transfer moved).congr (safe.iff_of_books rfl)
  | failed =>
      have start := upheld.2.now
      refine .nil ⟨start.books, ?_⟩
      dsimp only [World.undone]
      split
      · exact start.ledger
      · exact safe.ledger
  | concluded => exact .nil ⟨safe.books, safe.ledger⟩
  | acted noCall => exact Step.decides noCall safe

theorem Advance.upheld (advance : Advance host a move b)
    (upheld : Upheld KeepsSafe a.frames a.world) (safe : b.world.AllSafe) :
    Upheld KeepsSafe b.frames b.world := by
  cases advance with
  | refused | unrecorded | acted => exact upheld.change safe
  | written => exact ⟨safe, upheld⟩
  | carried => exact ⟨safe, upheld.2⟩
  | failed | concluded => exact upheld.2.change safe

/-- All along a path amounts stay safe if the sums of its moves are. -/
theorem Path.decides (path : Path host a passages b)
    (upheld : Upheld KeepsSafe a.frames a.world) :
    Decides (reckonings host a.world passages) (∀ passage ∈ passages, passage.world.AllSafe) := by
  induction path with
  | nil => exact .nil (by simp)
  | cons first _ ih =>
      refine ((first.decides upheld).append fun safe => ih (first.upheld upheld safe)).congr ?_
      rw [List.forall_mem_cons]

theorem Path.allSafe_end (path : Path host a passages b) (safe : a.world.AllSafe)
    (along : ∀ passage ∈ passages, passage.world.AllSafe) : b.world.AllSafe := by
  induction path with
  | nil => exact safe
  | cons _ _ ih =>
      rw [List.forall_mem_cons] at along
      exact ih along.1 along.2

end

/-- Whatever calls, nested calls, mints and transfers a fresh service goes through, all amounts that
are kept are safe in all worlds on the way exactly if the exact results of the additions and
subtractions made on the way are. Then each of these results is kept as it is: nothing is rounded,
and no difference is cut off at zero but those that are meant to be. -/
theorem amounts_stay_safe_iff (host : Host) (now clock : Number) (nonce : String) (draws : Draws)
    (steps : List Step) :
    let start := World.opened now clock nonce draws
    let made := reckonings host start (runCourse host steps start)
    ((∀ world, Visits host start steps world → world.AllSafe) ↔
      ∀ reckoning ∈ made, reckoning.Fits) ∧
    ((∀ world, Visits host start steps world → world.AllSafe) →
      ∀ reckoning ∈ made, reckoning.IsExact) := by
  intro start made
  have safe : start.AllSafe := ⟨Books.allSafe_opened now, List.forall_mem_nil _⟩
  have path := runCourse_path host [] steps start
  have decides := path.decides safe
  have visited : (∀ world, Visits host start steps world → world.AllSafe) ↔
      ∀ passage ∈ runCourse host steps start, passage.world.AllSafe := by
    constructor
    · intro visits passage mem
      exact visits _ (.inr ⟨passage, mem, rfl⟩)
    · rintro along world (rfl | ⟨passage, mem, rfl⟩)
      · exact path.allSafe_end safe along
      · exact along passage mem
  rw [visited]
  exact ⟨decides.iff, decides.exact⟩

/-- A cycle of two members with ordinary contributions, all of whose sums are small. -/
theorem amounts_stay_safe_of_cycle :
    let proof := Host.sample.proofOf
    let id := Number.ofNat 1
    let steps : List Step :=
      [.mint "USDC" "a" (.ofNat 200), .call (.createCircle (proof "a") .sample) [],
        .call (.join (proof "a") id) [], .call (.join (proof "b") id) [],
        .call (.finalize (proof "a") id) [], .call (.contribute (proof "a") id) [],
        .call (.processPayout (proof "a") id "b") [], .call (.contribute (proof "b") id) [],
        .call (.processPayout (proof "a") id "a") [], .call (.rollover (proof "a") id) []]
    let made := reckonings Host.sample World.sample (runCourse Host.sample steps World.sample)
    (∀ reckoning ∈ made, reckoning.Fits) ∧
      (∀ world, Visits Host.sample World.sample steps world → world.AllSafe) ∧
      ∀ reckoning ∈ made, reckoning.IsExact := by
  intro proof id steps made
  have fits : ∀ reckoning ∈ made, reckoning.Fits := by decide +kernel
  obtain ⟨iff, exact⟩ := amounts_stay_safe_iff Host.sample (.ofNat 1700000000)
    (.ofNat 1700000000000) "0" (.ofValues []) steps
  have safe := iff.2 fits
  exact ⟨fits, safe, exact safe⟩

/-- There are as many units of an asset as are safe, and all of them go round twice: the volume of
the cycle comes to twice as much, and is not safe. A balance to which two units are minted beyond
the safe range loses one of them. -/
theorem amounts_leave_safe_range :
    let proof := Host.sample.proofOf
    let id := Number.ofNat 1
    let largest := Number.ofNat Number.maxSafe
    let steps : List Step :=
      [.call (.createCircle (proof "a") { CircleTerms.sample with contribution := largest }) [],
        .call (.join (proof "a") id) [], .call (.join (proof "b") id) [],
        .mint "USDC" "a" largest, .call (.finalize (proof "a") id) [],
        .call (.contribute (proof "a") id) [], .call (.processPayout (proof "a") id "b") [],
        .call (.contribute (proof "b") id) [], .call (.processPayout (proof "a") id "a") [],
        .mint "EUR" "a" largest, .mint "EUR" "a" (.ofNat 2)]
    let world := (runAll Host.sample steps World.sample).1
    world.books.circles.map (·.volume) = [2 * Number.maxSafe] ∧
      world.ledger.balance "EUR" "a" + 1 = Number.maxSafe + 2 ∧
      ¬∀ world, Visits Host.sample World.sample steps world → world.AllSafe := by
  intro proof id largest steps world
  refine ⟨by decide +kernel, by decide +kernel, fun safe => ?_⟩
  have last : world.AllSafe := safe world (.inl rfl)
  exact absurd last (by decide +kernel)

end SavingsCircle
