import SavingsCircle.Ledger.Pages
import SavingsCircle.Proofs.Audit.Tampering
import SavingsCircle.Proofs.Ledger.Supply

/-!
# Nested checkpoints

Ledgers and trails take checkpoints in different ways. A ledger lays a copy of itself aside, and
when the checkpoint is restored it goes on with that very copy, so that from then on the copy is
written to. A trail remembers only how long it was. Either way a checkpoint is restored exactly, as
long as checkpoints are nested like brackets and each is restored at most once.

The reason is the same for both, and it is stated once (`Checkpointing.Layers`): whatever is done
after a checkpoint, inner checkpoints and their restoration included, leaves what the outer one
goes back to. For a ledger this means that only the page in use and pages laid aside later are
written to, and for a trail that it only grows. The induction over the nesting is
`Checkpointing.Layers.run`; with it, what is restored inside a script leaves no trace in what the
script comes to (`nested_checkpoints_restore_exactly`).
-/

namespace SavingsCircle

/-- Something that takes actions, and checkpoints to go back to. -/
structure Checkpointing (σ μ α : Type) where
  act : σ → α → σ
  checkpoint : σ → σ × μ
  restore : σ → μ → σ

/-- Actions with nested checkpoints among them. A checkpoint opens a block, and the block ends by
being kept or by the restoration of its checkpoint. -/
inductive Script (α : Type) where
  | done
  | act (action : α) (rest : Script α)
  | block (inner : Script α) (isKept : Bool) (rest : Script α)

namespace Script

variable {σ μ α ν : Type}

def run (kind : Checkpointing σ μ α) : Script α → σ → σ
  | .done, s => s
  | .act action rest, s => rest.run kind (kind.act s action)
  | .block inner isKept rest, s =>
    let (opened, mark) := kind.checkpoint s
    let closed := inner.run kind opened
    rest.run kind (if isKept then closed else kind.restore closed mark)

/-- Carries out a script in a block of its own, whose checkpoint is restored in the end. -/
def runRestored (kind : Checkpointing σ μ α) (script : Script α) (s : σ) : σ :=
  let (opened, mark) := kind.checkpoint s
  kind.restore (script.run kind opened) mark

/-- What the actions of a script come to that are kept. No checkpoint is taken for it. -/
def runKept (act : ν → α → ν) : Script α → ν → ν
  | .done, shown => shown
  | .act action rest, shown => rest.runKept act (act shown action)
  | .block inner isKept rest, shown =>
    rest.runKept act (if isKept then inner.runKept act shown else shown)

end Script

namespace Checkpointing

variable {σ μ α ν : Type} {kind : Checkpointing σ μ α} {view : σ → ν} {act : ν → α → ν}
variable {Holds : σ → Prop} {Extends : σ → σ → Prop}

/-- Where actions and checkpoints lead from a state: the invariant holds, the new state extends the
old one, and it shows what it should. -/
structure Leads (view : σ → ν) (Holds : σ → Prop) (Extends : σ → σ → Prop) (s : σ) (shown : ν)
    (t : σ) : Prop where
  holds : Holds t
  extended : Extends s t
  view : view t = shown

/-- What it takes for checkpoints to be restored exactly. The last law is the one that counts: a
checkpoint can be restored in every state that extends the one it was taken in. -/
structure Layers (kind : Checkpointing σ μ α) (view : σ → ν) (act : ν → α → ν)
    (Holds : σ → Prop) (Extends : σ → σ → Prop) : Prop where
  refl s : Extends s s
  trans {a b c} : Extends a b → Extends b c → Extends a c
  act {s} (action : α) : Holds s →
    Leads view Holds Extends s (act (view s) action) (kind.act s action)
  checkpoint {s} : Holds s → Leads view Holds Extends s (view s) (kind.checkpoint s).1
  restore {s t} : Holds s → Holds t → Extends (kind.checkpoint s).1 t →
    Leads view Holds Extends s (view s) (kind.restore t (kind.checkpoint s).2)

namespace Layers

variable {s : σ}

/-- A script shows what the kept ones of its actions come to. -/
theorem run (layers : kind.Layers view act Holds Extends) (script : Script α) (holds : Holds s) :
    Leads view Holds Extends s (script.runKept act (view s)) (script.run kind s) := by
  induction script generalizing s with
  | done => exact ⟨holds, layers.refl s, rfl⟩
  | act action rest ih =>
      obtain ⟨next, grown, shown⟩ := layers.act action holds
      obtain ⟨last, further, isShown⟩ := ih next
      exact ⟨last, layers.trans grown further, by rw [Script.run, isShown, shown, Script.runKept]⟩
  | block inner isKept rest inside ih =>
      obtain ⟨opened, grown, shown⟩ := layers.checkpoint holds
      obtain ⟨closed, further, isShown⟩ := inside opened
      have leads : Leads view Holds Extends s
          (if isKept then inner.runKept act (view s) else view s)
          (if isKept then inner.run kind (kind.checkpoint s).1
            else kind.restore (inner.run kind (kind.checkpoint s).1) (kind.checkpoint s).2) := by
        cases isKept with
        | true =>
            refine ⟨closed, layers.trans grown further, ?_⟩
            rw [if_pos rfl, isShown, shown]
            rfl
        | false => exact layers.restore holds closed further
      obtain ⟨last, onward, isLast⟩ := ih leads.holds
      rw [leads.view] at isLast
      exact ⟨last, layers.trans leads.extended onward, isLast⟩

/-- Whatever a script does, and whatever its blocks come to, restoring the checkpoint that was taken
before it brings back what was shown then. -/
theorem view_runRestored (layers : kind.Layers view act Holds Extends) (script : Script α)
    (holds : Holds s) : view (script.runRestored kind s) = view s := by
  obtain ⟨opened, -, -⟩ := layers.checkpoint holds
  obtain ⟨closed, further, -⟩ := layers.run script opened
  exact (layers.restore holds closed further).view

end Layers

end Checkpointing

/-! ## Ledgers -/

namespace Pages

def grant (book : Pages) : Ledger.Request → Except Failure Pages
  | .mint asset target amount => book.mint asset target amount
  | .transfer asset source target amount => book.transfer asset source target amount

/-- The book after a request. One that is refused changes nothing. -/
def handle (book : Pages) (request : Ledger.Request) : Pages :=
  match book.grant request with
  | .ok next => next
  | .error _ => book

/-- Ledgers, with the pages they lay aside. -/
def checkpointing : Checkpointing Pages Nat Ledger.Request where
  act := handle
  checkpoint := checkpoint
  restore := restore

/-- The books that requests, checkpoints and their restoration lead to, in any order and any number
of times. -/
inductive Reached : Pages → Prop where
  | empty : Reached empty
  | handle {book} (reached : Reached book) (request : Ledger.Request) :
      Reached (book.handle request)
  | checkpoint {book} (reached : Reached book) : Reached book.checkpoint.1
  | restore {book page} (reached : Reached book) (taken : page < book.pages.length) :
      Reached (book.restore page)
  | reset {book} (reached : Reached book) : Reached book.reset

def IsOpen (book : Pages) : Prop := book.current < book.pages.length

/-- What was laid aside in a book is still there later, and other pages have come behind it. Only
the page in use may have been written to. -/
structure Keeps (book later : Pages) : Prop where
  length : book.pages.length ≤ later.pages.length
  aside : ∀ page < book.pages.length, page ≠ book.current → later.pages[page]? = book.pages[page]?
  current : later.current = book.current ∨ book.pages.length ≤ later.current

section

variable {book later : Pages}

/-- A book makes of a request what the ledger on its page in use makes of it. -/
theorem grant_eq (book : Pages) (request : Ledger.Request) :
    book.grant request = (book.ledger.grant request).map book.write := by
  cases request with
  | mint asset target amount =>
      rw [grant, mint, Ledger.grant]
      cases book.ledger.mint asset target amount <;> rfl
  | transfer asset source target amount =>
      rw [grant, transfer, Ledger.grant]
      cases book.ledger.transfer asset source target amount <;> rfl

theorem ledger_write (isOpen : book.IsOpen) (ledger : Ledger) :
    (book.write ledger).ledger = ledger := by
  have inside : book.current < book.pages.length := isOpen
  simp [Pages.ledger, write, inside]

namespace Keeps

theorem refl (book : Pages) : book.Keeps book := ⟨Nat.le_refl _, fun _ _ _ => rfl, .inl rfl⟩

theorem trans {a b c : Pages} (first : a.Keeps b) (second : b.Keeps c) : a.Keeps c where
  length := Nat.le_trans first.length second.length
  aside page old unused := by
    have stillUnused : page ≠ b.current := by
      rcases first.current with same | newer
      · rwa [same]
      · omega
    rw [second.aside page (Nat.lt_of_lt_of_le old first.length) stillUnused,
      first.aside page old unused]
  current := by
    rcases second.current with same | newer
    · rw [same]
      exact first.current
    · exact .inr (Nat.le_trans first.length newer)

theorem write (book : Pages) (ledger : Ledger) : book.Keeps (book.write ledger) where
  length := by simp [Pages.write]
  aside page _ unused := List.getElem?_set_ne (Ne.symm unused)
  current := .inl rfl

theorem checkpoint (book : Pages) : book.Keeps book.checkpoint.1 where
  length := by simp [Pages.checkpoint]
  aside page old _ := List.getElem?_append_left old
  current := .inl rfl

theorem restore (keeps : book.checkpoint.1.Keeps later) :
    book.Keeps (later.restore book.checkpoint.2) where
  length := ((checkpoint book).trans keeps).length
  aside := ((checkpoint book).trans keeps).aside
  current := .inr (Nat.le_refl _)

/-- The page of a checkpoint shows what was copied as long as it is not in use. -/
theorem ledger_restore (isOpen : book.IsOpen) (keeps : book.checkpoint.1.Keeps later) :
    (later.restore book.checkpoint.2).ledger = book.ledger := by
  have unused : book.pages.length ≠ book.current := Nat.ne_of_gt isOpen
  have copied : later.pages[book.pages.length]? = some book.ledger := by
    rw [keeps.aside book.pages.length (by simp [Pages.checkpoint]) unused, Pages.checkpoint]
    simp
  change later.pages.getD book.pages.length .empty = book.ledger
  rw [List.getD_eq_getElem?_getD, copied, Option.getD_some]

end Keeps

/-- Checkpoints of a ledger are restored exactly, because only the page in use is written to. -/
theorem layers : checkpointing.Layers ledger (fun ledger request => (ledger.handle request).1)
    IsOpen Keeps where
  refl := .refl
  trans := .trans
  act {book} request isOpen := by
    simp only [checkpointing, handle, grant_eq, Ledger.handle]
    cases book.ledger.grant request with
    | error _ => exact ⟨isOpen, .refl book, rfl⟩
    | ok next =>
        have stillOpen : (book.write next).IsOpen := by simpa [IsOpen, write] using isOpen
        exact ⟨stillOpen, .write book next, ledger_write isOpen next⟩
  checkpoint {book} isOpen := by
    have inside : book.current < book.pages.length := isOpen
    refine ⟨?_, .checkpoint book, ?_⟩
    · simpa [checkpointing, checkpoint, IsOpen] using Nat.lt_succ_of_lt inside
    · simp [checkpointing, checkpoint, Pages.ledger, List.getElem?_append_left inside]
  restore {book later} isOpen _ keeps := by
    have taken : book.pages.length < later.pages.length := by
      simpa [checkpointing, checkpoint, Nat.succ_le_iff] using keeps.length
    exact ⟨taken, keeps.restore, keeps.ledger_restore isOpen⟩

theorem Reached.isOpen (reached : book.Reached) : book.IsOpen := by
  induction reached with
  | empty => exact Nat.zero_lt_one
  | handle _ request ih => exact (layers.act request ih).holds
  | checkpoint _ ih => exact (layers.checkpoint ih).holds
  | restore _ taken => exact taken
  | @reset book _ _ => simp [IsOpen, Pages.reset]

end

end Pages

/-! ## Trails -/

/-- A note with what is shown by the clock and the random source when it is published. -/
structure Publication where
  clock : Number
  nonce : String
  note : Note

namespace Trail

/-- The trail after a publication. One that is refused is not recorded. -/
def handle (trail : Trail Note) (publication : Publication) : Trail Note :=
  match trail.publish publication.clock publication.nonce publication.note with
  | .ok next => next
  | .error _ => trail

/-- Trails, with the lengths they remember. -/
def checkpointing : Checkpointing (Trail Note) Nat Publication where
  act := handle
  checkpoint trail := (trail, trail.entries.length)
  restore := truncate

theorem prefix_handle (trail : Trail Note) (publication : Publication) :
    trail.entries <+: (trail.handle publication).entries := by
  rw [handle]
  split
  · next added =>
    obtain ⟨_, -, -, rfl⟩ := publish_eq_ok.1 added
    exact List.prefix_append _ _
  · exact List.prefix_rfl

/-- Checkpoints of a trail are restored exactly, because a trail only grows. -/
theorem layers : checkpointing.Layers id handle (fun _ => True)
    (fun trail later => trail.entries <+: later.entries) where
  refl _ := List.prefix_rfl
  trans := List.IsPrefix.trans
  act publication _ := ⟨trivial, prefix_handle _ publication, rfl⟩
  checkpoint _ := ⟨trivial, List.prefix_rfl, rfl⟩
  restore {trail later} _ _ grown := by
    have front : trail.entries <+: later.entries := grown
    have cut : later.truncate trail.entries.length = trail := by
      rw [truncate, ← List.prefix_iff_eq_take.1 front]
    refine ⟨trivial, ?_, cut⟩
    change trail.entries <+: (later.truncate trail.entries.length).entries
    rw [cut]

end Trail

/-- Well-nested checkpoints are restored exactly, of ledgers and of trails. Whatever happened to a
ledger before, and whatever a script does to it, with blocks that are kept and blocks that are taken
back nested to any depth: restoring the checkpoint that was taken before the script brings back the
very ledger that was copied, with all its balances, and without this the script comes to what those
of its actions come to that are kept. So it is with the entries of a trail. -/
theorem nested_checkpoints_restore_exactly :
    (∀ book : Pages, book.Reached → ∀ script : Script Ledger.Request,
      (script.runRestored Pages.checkpointing book).ledger = book.ledger ∧
      (script.run Pages.checkpointing book).ledger =
        script.runKept (fun ledger request => (ledger.handle request).1) book.ledger) ∧
    ∀ (trail : Trail Note) (script : Script Publication),
      script.runRestored Trail.checkpointing trail = trail ∧
      script.run Trail.checkpointing trail = script.runKept Trail.handle trail := by
  constructor
  · intro book reached script
    exact ⟨Pages.layers.view_runRestored script reached.isOpen,
      (Pages.layers.run script reached.isOpen).view⟩
  · intro trail script
    exact ⟨Trail.layers.view_runRestored script trivial, (Trail.layers.run script trivial).view⟩

/-- A block with a block in it that is taken back and one that is kept. Before it the book had
turned back to a page laid aside, and so the page in use is not the last one. -/
theorem nested_checkpoints_restore_exactly_after_restore :
    let mint (units : Nat) : Script Ledger.Request → Script Ledger.Request :=
      .act (.mint "USDC" "a" (.ofNat units))
    let book := ((Pages.empty.handle (.mint "USDC" "a" (.ofNat 10))).checkpoint.1.handle
      (.transfer "USDC" "a" "b" (.ofNat 4))).restore 1
    let script := mint 1 (.block (mint 2 .done) false (.block (mint 4 (.act
      (.transfer "USDC" "a" "b" (.ofNat 5)) .done)) true (mint 8 .done)))
    (script.run Pages.checkpointing book).ledger.balance "USDC" "a" = 18 ∧
      (script.run Pages.checkpointing book).ledger =
        script.runKept (fun ledger request => (ledger.handle request).1) book.ledger ∧
      (script.runRestored Pages.checkpointing book).ledger.balance "USDC" "a" = 10 := by
  intro mint book script
  have reached : book.Reached :=
    .restore (.handle (.checkpoint (.handle .empty _)) _) (by decide +kernel)
  have copied : book.ledger.balance "USDC" "a" = 10 := by decide +kernel
  have written : (script.run Pages.checkpointing book).ledger.balance "USDC" "a" = 18 := by
    decide +kernel
  clear_value book
  obtain ⟨restored, kept⟩ := nested_checkpoints_restore_exactly.1 book reached script
  exact ⟨written, kept, by rw [restored, copied]⟩

/-- Restored a second time, a checkpoint shows what was written since the first. -/
example :
    let (book, page) := Pages.empty.checkpoint
    let written := (book.restore page).handle (.mint "USDC" "a" (.ofNat 1))
    (written.restore page).ledger.balance "USDC" "a" = 1 := by
  decide +kernel

end SavingsCircle
