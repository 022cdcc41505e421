import SavingsCircle.Proofs.Circle.Accounting
import SavingsCircle.Proofs.Run.Answer

/-!
# Dissolved circles

Once a circle is dissolved, every call on it is refused but two: the administrator can hand it over,
and members can withdraw what is refunded for their seats. A withdrawal leaves the seat with nothing
to refund, and it does so before its transfer is made. Whatever the transfer sets off finds the seat
empty already, so a member is paid once, by the withdrawal that began first.
-/

namespace SavingsCircle

namespace Circle

/-- A circle without what can still change once it is dissolved: who administers it, what it holds,
and what is paid in for its seats. -/
def frozen (circle : Circle) : Circle :=
  { circle with
    admin := ""
    balance := 0
    seats := circle.seats.map fun seat => { seat with paidIn := 0 } }

/-- What a call makes of a dissolved circle, and what it lets somebody withdraw. -/
inductive Winds (circle next : Circle) : Option (Address × Amount) → Prop where
  | aside (seats : next.seats = circle.seats) (balance : next.balance = circle.balance) :
      Winds circle next none
  | withdrawal {member position seat now} (seated : circle.seat? member = some (position, seat))
      (own : next.seats[position]? = some now) (emptied : circle.refundable now = 0)
      (others : ∀ i, i ≠ position → next.seats[i]? = circle.seats[i]?)
      (balance : circle.balance ≤ Number.maxSafe →
        next.balance + circle.refundable seat = circle.balance) :
      Winds circle next (some (member, circle.refundable seat))

variable {circle next : Circle}

theorem id_of_frozen (same : next.frozen = circle.frozen) : next.id = circle.id :=
  congrArg (·.id) same

theorem isDissolved_of_frozen (same : next.frozen = circle.frozen) :
    next.isDissolved = circle.isDissolved :=
  congrArg (·.isDissolved) same

/-- Emptying a seat touches nothing else. -/
theorem frozen_empty (circle : Circle) (position : Nat) (balance : Amount) :
    Circle.frozen
        { circle.updateSeat position fun seat => { seat with paidIn := 0 } with balance } =
      circle.frozen := by
  have seats : (circle.seats.modify position fun seat => { seat with paidIn := 0 }).map
      (fun seat => { seat with paidIn := 0 }) =
        circle.seats.map fun seat => { seat with paidIn := 0 } := by
    apply List.ext_getElem?
    intro i
    simp only [List.getElem?_map, List.getElem?_modify]
    cases circle.seats[i]? with
    | none => rfl
    | some seat =>
        simp only [Option.map_eq_map, Option.map_some]
        split <;> rfl
  simp only [frozen, updateSeat, seats]

end Circle

/-- Who withdraws from a circle by a call. -/
def Operation.withdrawer? (host : Host) (id : Nat) : Operation → Option Address
  | .withdrawProRata proof number =>
    if number.nat? = some id then (host.authorize proof).toOption else none
  | _ => none

section

variable {host : Host} {moment : Moment} {books : Books} {circle : Circle} {caller : Address}
variable {operation : Operation} {change : Change} {effect : Effect}

/-- On a dissolved circle every call is refused but handing it over and withdrawing. -/
theorem Deed.winds (dissolved : circle.isDissolved = true)
    (isCaller : host.authorize operation.proof = .ok caller)
    (named : operation.circleId?.bind Number.nat? = some circle.id)
    (deed : Deed host moment books circle caller operation change) :
    change.circle.frozen = circle.frozen ∧ change.records = books.records ∧
      ∃ withdrawn?, circle.Winds change.circle withdrawn? ∧
        withdrawn?.map (·.1) = operation.withdrawer? host circle.id ∧
        ∀ withdrawn, withdrawn? = some withdrawn →
          change.receipt = .settled (.amount withdrawn.2) := by
  cases deed with
  | handOver => exact ⟨rfl, rfl, none, .aside rfl rfl, rfl, nofun⟩
  | @withdrawNothing proof id _ seat _ seated empty =>
      have number : id.nat? = some circle.id := named
      have accepted : host.authorize proof = .ok caller := isCaller
      have here := (Circle.seat?_eq_some_iff.1 seated).2
      refine ⟨rfl, rfl, some (caller, circle.refundable seat), ?_, ?_, ?_⟩
      · exact .withdrawal seated here empty (fun _ _ => rfl) fun _ => by rw [empty]; rfl
      · simp [Operation.withdrawer?, number, accepted, Except.toOption]
      · rintro _ ⟨⟩
        rw [empty]
        rfl
  | @withdrawProRata proof id position seat _ _ seated isRefund _ covered =>
      have number : id.nat? = some circle.id := named
      have accepted : host.authorize proof = .ok caller := isCaller
      have here := (Circle.seat?_eq_some_iff.1 seated).2
      subst isRefund
      refine ⟨circle.frozen_empty _ _, rfl, some (caller, circle.refundable seat), ?_, ?_, ?_⟩
      · have own : (circle.seats.modify position fun seat => { seat with paidIn := 0 })[position]? =
            some { seat with paidIn := 0 } := by
          rw [List.getElem?_modify_eq, here]
          rfl
        refine .withdrawal seated own ?_ ?_ ?_
        · rw [Circle.refundable_eq (Nat.zero_le _), Nat.zero_sub]
        · intro i apart
          exact List.getElem?_modify_ne _ _ apart.symm
        · intro safe
          show Amount.sub _ _ + _ = _
          rw [Amount.sub_eq safe, Nat.sub_add_cancel covered]
      · simp [Operation.withdrawer?, number, accepted, Except.toOption]
      · rintro _ ⟨⟩
        rfl
  | swap _ swapping | swapByAdmin swapping =>
      have isOpen := swapping.isOpen
      simp [dissolved] at isOpen
  | join isOpen | kick isOpen | eject isOpen | requestExit isOpen | fillVacancy _ isOpen
  | finalizeAgain isOpen | finalize isOpen | processPayout isOpen | rollover isOpen
  | contribute isOpen | coverMember isOpen | proposeDissolution isOpen | voteDissolution isOpen
  | proposeLateFee isOpen | voteLateFee isOpen => simp [dissolved] at isOpen

theorem Operation.withdrawer?_eq_none {id : Nat}
    (apart : operation.circleId?.bind Number.nat? ≠ some id) :
    operation.withdrawer? host id = none := by
  cases operation with
  | withdrawProRata proof number => exact if_neg apart
  | _ => rfl

/-- What any call makes of a dissolved circle in the books. -/
theorem Touches.winds (numbered : books.Numbered) (mem : circle ∈ books.circles)
    (dissolved : circle.isDissolved = true)
    (touches : Touches host moment books operation effect) :
    ∃ next ∈ effect.books.circles, next.frozen = circle.frozen ∧
      (∀ address, effect.books.records.record? circle.id address =
        books.records.record? circle.id address) ∧
      ∃ withdrawn?, circle.Winds next withdrawn? ∧
        withdrawn?.map (·.1) = operation.withdrawer? host circle.id ∧
        ∀ withdrawn, withdrawn? = some withdrawn →
          effect.receipt = .settled (.amount withdrawn.2) := by
  cases touches with
  | aside unnamed circles _ records _ =>
      have withdraws : operation.withdrawer? host circle.id = none :=
        Operation.withdrawer?_eq_none (by simp [unnamed])
      exact ⟨circle, circles ▸ mem, rfl, by simp [records], none, .aside rfl rfl, withdraws.symm,
        nofun⟩
  | founding unnamed _ _ circles _ records _ =>
      have withdraws : operation.withdrawer? host circle.id = none :=
        Operation.withdrawer?_eq_none (by simp [unnamed])
      exact ⟨circle, circles ▸ List.mem_append_left _ mem, rfl, by simp [records], none,
        .aside rfl rfl, withdraws.symm, nofun⟩
  | @deed id other _ change named found isCaller deed circles _ records _ receipt =>
      have isNumber : operation.circleId?.bind Number.nat? = some other.id := by
        rw [named]
        exact Books.nat?_of_circle found
      have isOther := Books.mem_of_circle found
      rw [circles, records, receipt]
      by_cases same : other.id = circle.id
      · obtain rfl := numbered.eq_of_id_eq mem isOther same
        obtain ⟨frozen, kept, winds⟩ := deed.winds dissolved isCaller isNumber
        exact ⟨change.circle, Books.mem_replaceCircle_self mem deed.lasts.id, frozen,
          fun _ => by rw [kept], winds⟩
      · have apart : circle.id ≠ change.circle.id := by
          rw [deed.lasts.id]
          exact Ne.symm same
        have withdraws : operation.withdrawer? host circle.id = none :=
          Operation.withdrawer?_eq_none (by simpa [isNumber] using same)
        exact ⟨circle, Books.mem_replaceCircle_other mem apart, rfl,
          fun address => deed.record?_other (Ne.symm same) address, none, .aside rfl rfl,
          withdraws.symm, nofun⟩

end

end SavingsCircle
