import SavingsCircle.Service.Payout
import SavingsCircle.Service.Sheet

/-!
# Sheets of circles

A sheet is the one of a circle if and only if its four lists are equally long, and then of the
circle that it describes. What is read from the sheet of a circle is what is read from the circle,
and changing the lists of the sheet makes it the sheet of the changed circle. So each change keeps
the four lists side by side.
-/

namespace SavingsCircle

section

variable {α β : Type} {f : α → β} {change : α → α} {value : β} (rows : List α) (position : Nat)

theorem map_modify_of_keeps (keeps : ∀ row, f (change row) = f row) :
    (rows.modify position change).map f = rows.map f := by
  apply List.ext_getElem?
  intro i
  simp only [List.getElem?_map, List.getElem?_modify]
  by_cases here : position = i
  · cases rows[i]? <;> simp [here, keeps]
  · simp [here]

theorem map_modify_of_sets (sets : ∀ row, f (change row) = value) :
    (rows.modify position change).map f = (rows.map f).set position value := by
  apply List.ext_getElem?
  intro i
  simp only [List.getElem?_map, List.getElem?_modify, List.getElem?_set, List.length_map]
  by_cases here : position = i
  · subst here
    by_cases inside : position < rows.length <;> simp [inside, sets]
  · simp [here]

theorem map_modify_of_getElem? {row : α} (here : rows[position]? = some row) :
    (rows.modify position change).map f = (rows.map f).set position (f (change row)) := by
  apply List.ext_getElem?
  intro i
  simp only [List.getElem?_map, List.getElem?_modify, List.getElem?_set, List.length_map]
  by_cases same : position = i
  · subst same
    obtain ⟨inside, rfl⟩ := List.getElem?_eq_some_iff.1 here
    simp [inside]
  · simp [same]

theorem map_eraseIdx : (rows.eraseIdx position).map f = (rows.map f).eraseIdx position := by
  simp [List.eraseIdx_eq_take_drop_succ]

end

section

variable {circle : Circle}

@[simp] theorem seats_sheet (circle : Circle) : circle.sheet.seats = circle.seats := by
  simp [Sheet.seats, Circle.sheet, Circle.members, List.zip_map', Function.comp_def]

@[simp] theorem circle_sheet (circle : Circle) : circle.sheet.circle = circle := by
  simp only [Sheet.circle, seats_sheet]
  rfl

theorem isParallel_sheet (circle : Circle) : circle.sheet.IsParallel := by
  constructor <;> simp [Circle.sheet, Circle.members]

end

namespace Sheet

/-- The lists of a sheet are those of the seats that are read across them. -/
theorem columns_seats {sheet : Sheet} (parallel : sheet.IsParallel) :
    sheet.seats.map (·.holder) = sheet.members ∧ sheet.seats.map (·.isPaidOut) = sheet.paidOut ∧
      sheet.seats.map (·.hasContributed) = sheet.contributed ∧
      sheet.seats.map (·.paidIn) = sheet.paidIn := by
  obtain ⟨paidOut, contributed, paidIn⟩ := parallel
  have left : (sheet.members.zip sheet.paidOut).length = sheet.members.length := by
    simp [paidOut]
  have right : (sheet.contributed.zip sheet.paidIn).length = sheet.members.length := by
    simp [contributed, paidIn]
  have front : sheet.seats.map (fun seat => (seat.holder, seat.isPaidOut)) =
      sheet.members.zip sheet.paidOut := by
    rw [← List.map_fst_zip (Nat.le_of_eq (left.trans right.symm)), seats, List.map_map]
    rfl
  have back : sheet.seats.map (fun seat => (seat.hasContributed, seat.paidIn)) =
      sheet.contributed.zip sheet.paidIn := by
    rw [← List.map_snd_zip (Nat.le_of_eq (right.trans left.symm)), seats, List.map_map]
    rfl
  refine ⟨?_, ?_, ?_, ?_⟩
  · rw [← List.map_fst_zip (Nat.le_of_eq paidOut.symm), ← front, List.map_map]
    rfl
  · rw [← List.map_snd_zip (Nat.le_of_eq paidOut), ← front, List.map_map]
    rfl
  · rw [← List.map_fst_zip (Nat.le_of_eq (contributed.trans paidIn.symm)), ← back, List.map_map]
    rfl
  · rw [← List.map_snd_zip (Nat.le_of_eq (paidIn.trans contributed.symm)), ← back, List.map_map]
    rfl

/-- A sheet whose lists are equally long is the one of the circle that it describes. -/
theorem sheet_circle {sheet : Sheet} (parallel : sheet.IsParallel) :
    sheet.circle.sheet = sheet := by
  obtain ⟨members, paidOut, contributed, paidIn⟩ := columns_seats parallel
  simp only [Circle.sheet, circle, Circle.members, members, paidOut, contributed, paidIn]

end Sheet

/-- In every sheet of the binder the four lists are equally long. -/
def Binder.IsParallel (binder : Binder) : Prop := ∀ sheet ∈ binder.sheets, sheet.IsParallel

@[simp] theorem books_binder (books : Books) : books.binder.books = books := by
  simp [Binder.books, Books.binder, Function.comp_def]

theorem isParallel_binder (books : Books) : books.binder.IsParallel := by
  rintro sheet mem
  obtain ⟨circle, -, rfl⟩ := List.mem_map.1 mem
  exact isParallel_sheet circle

theorem Binder.binder_books {binder : Binder} (parallel : binder.IsParallel) :
    binder.books.binder = binder := by
  have same : binder.sheets.map (Circle.sheet ∘ Sheet.circle) = binder.sheets.map id :=
    List.map_congr_left fun sheet mem => Sheet.sheet_circle (parallel sheet mem)
  simp only [Books.binder, Binder.books, List.map_map, same, List.map_id]

namespace Circle

variable (circle : Circle) (records : Records)

/-! ## Reading -/

@[simp] theorem id_sheet : circle.sheet.id = circle.id := rfl

@[simp] theorem members_sheet : circle.sheet.members = circle.members := rfl

@[simp] theorem seat?_sheet (address : Address) :
    circle.sheet.seat? address = circle.seat? address := by
  simp only [Sheet.seat?, seat?, sheet, position?, members, List.getElem?_map]
  cases circle.directory.position? address with
  | none => rfl
  | some position =>
      simp only [Option.bind_eq_bind, Option.bind_some]
      cases circle.seats[position]? <;> rfl

@[simp] theorem activeSeat?_sheet (address : Address) :
    circle.sheet.activeSeat? records address = circle.activeSeat? records address := by
  simp [Sheet.activeSeat?, activeSeat?]

@[simp] theorem voterCount_sheet :
    circle.sheet.voterCount records = circle.voterCount records := by
  simp [Sheet.voterCount, voterCount]

@[simp] theorem isCycleComplete_sheet :
    circle.sheet.isCycleComplete records = circle.isCycleComplete records := by
  simp only [Sheet.isCycleComplete, isCycleComplete, circle_sheet, members_sheet]
  have nobody : circle.members.isEmpty = circle.seats.isEmpty := List.isEmpty_map
  rw [nobody, Bool.eq_iff_iff]
  simp only [Bool.and_eq_true, List.all_eq_true]
  refine and_congr_right fun _ => ⟨fun all seat mem => ?_, fun all entry mem => ?_⟩
  · obtain ⟨position, here⟩ := List.mem_iff_getElem?.1 mem
    have found : (seat.holder, position) ∈ circle.members.zipIdx :=
      List.mem_zipIdx_iff_getElem?.2 (by simp [members, here])
    simpa [sheet, here] using all _ found
  · obtain ⟨address, position⟩ := entry
    obtain ⟨seat, here, rfl⟩ : ∃ seat, circle.seats[position]? = some seat ∧
        seat.holder = address := by
      simpa [members] using List.mem_zipIdx_iff_getElem?.1 mem
    simpa [sheet, here] using all seat (List.mem_of_getElem? here)

/-! ## Writing -/

theorem addSeat_sheet (member : Address) :
    { circle.sheet.addSeat member with
      directory := circle.directory.enter member circle.seats.length } =
      (circle.addSeat member).sheet := by
  simp [Sheet.addSeat, addSeat, sheet, members, Seat.fresh]

theorem removeSeat_sheet (position : Nat) :
    (circle.sheet.removeSeat position).reindexed = (circle.removeSeat position).sheet := by
  simp [Sheet.removeSeat, Sheet.reindexed, removeSeat, reindexed, sheet, members, map_eraseIdx]

theorem renameMember_sheet (former successor : Address) :
    (circle.sheet.renameMember former successor).reindexed =
      (circle.renameMember former successor).sheet := by
  simp [Sheet.renameMember, Sheet.reindexed, renameMember, reindexed, sheet, members,
    Function.comp_def]

theorem vacateSeat_sheet (position : Nat) (exiting successor : Address) :
    (circle.sheet.vacateSeat position exiting successor).reindexed =
      (circle.vacateSeat position exiting successor).sheet := by
  simp [Sheet.vacateSeat, Sheet.reindexed, vacateSeat, reindexed, sheet, members,
    map_modify_of_sets, map_modify_of_keeps]

theorem paySeat_sheet (position : Nat) :
    (circle.paySeat position).sheet =
      { circle.sheet with
        paidOut := circle.sheet.paidOut.set position true
        payouts := circle.payouts + 1
        volume := Amount.add circle.volume circle.contribution
        balance := Amount.sub circle.balance circle.contribution } := by
  simp [paySeat, updateSeat, sheet, members, map_modify_of_sets, map_modify_of_keeps]

theorem coverSeat_sheet (position : Nat) :
    (circle.updateSeat position fun seat => { seat with hasContributed := true }).sheet =
      { circle.sheet with contributed := circle.sheet.contributed.set position true } := by
  simp [updateSeat, sheet, members, map_modify_of_sets, map_modify_of_keeps]

theorem clearSeat_sheet (position : Nat) :
    (circle.updateSeat position fun seat => { seat with paidIn := 0 }).sheet =
      { circle.sheet with paidIn := circle.sheet.paidIn.set position 0 } := by
  simp [updateSeat, sheet, members, map_modify_of_sets, map_modify_of_keeps]

theorem creditSeat_sheet {position : Nat} {seat : Seat}
    (here : circle.seats[position]? = some seat) (amount : Amount) :
    (circle.updateSeat position fun seat =>
      { seat with hasContributed := true, paidIn := Amount.add seat.paidIn amount }).sheet =
      { circle.sheet with
        contributed := circle.sheet.contributed.set position true
        paidIn := circle.sheet.paidIn.set position (Amount.add seat.paidIn amount) } := by
  have credited : (circle.seats.modify position fun seat =>
      { seat with hasContributed := true, paidIn := Amount.add seat.paidIn amount }).map
        (·.paidIn) =
      (circle.seats.map (·.paidIn)).set position (Amount.add seat.paidIn amount) :=
    map_modify_of_getElem? _ _ here
  simp [updateSeat, sheet, members, map_modify_of_sets, map_modify_of_keeps, credited]

theorem rollOver_sheet : circle.sheet.rollOver = circle.rollOver.sheet := by
  have netted : circle.sheet.rollOver.paidIn = circle.rollOver.sheet.paidIn := by
    apply List.ext_getElem?
    intro position
    simp only [Sheet.rollOver, rollOver, sheet, List.getElem?_mapIdx, List.getElem?_map,
      List.getD_eq_getElem?_getD]
    cases circle.seats[position]? <;> rfl
  have others : { circle.sheet.rollOver with paidIn := circle.rollOver.sheet.paidIn } =
      circle.rollOver.sheet := by
    simp only [Sheet.rollOver, rollOver, sheet, members, List.map_map, Function.comp_def]
  rwa [← netted] at others

end Circle

end SavingsCircle
