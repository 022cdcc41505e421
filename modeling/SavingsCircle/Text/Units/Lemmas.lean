import SavingsCircle.Text.Units

/-!
# Texts and their units

`ofUnits` reads a text back from its units, because no character has half of a surrogate pair for
its code; so the units of a text determine it. The order of texts by their units is therefore
antisymmetric, and it is total. `sorted` puts a list into this order without losing or adding one.
-/

namespace SavingsCircle.Text

/-! ## Reading units -/

theorem toNat_ofNat_of_valid {n : Nat} (valid : n.isValidChar) : (Char.ofNat n).toNat = n := by
  rw [Char.ofNat, dif_pos valid]
  rfl

/-- A unit is read back from the character that stands for it. -/
theorem charUnit_unitChar {unit : Nat} (small : unit < 0x10000) :
    charUnit (unitChar unit) = unit := by
  by_cases half : 0xd800 ≤ unit ∧ unit < 0xe000
  · have code : (Char.ofNat (0x100000 + unit)).toNat = 0x100000 + unit :=
      toNat_ofNat_of_valid (.inr ⟨by omega, by omega⟩)
    simp only [charUnit, unitChar, isHalf, half, and_self, decide_true, if_true, code]
    rw [if_neg (by omega)]
    omega
  · have code : (Char.ofNat unit).toNat = unit := toNat_ofNat_of_valid (by
      rcases Nat.lt_or_ge unit 0xd800 with low | high
      · exact .inl low
      · exact .inr ⟨by omega, by omega⟩)
    simp only [charUnit, unitChar, isHalf, half, decide_false, Bool.false_eq_true, if_false, code]
    exact if_pos small

theorem joinUnit_eq_cons (unit : Nat) (codes : List Nat)
    (single : unit < 0xd800 ∨ 0xdc00 ≤ unit) :
    joinUnit unit codes = unit :: codes := by
  cases codes with
  | nil => rfl
  | cons code codes => rw [joinUnit, if_neg (by omega)]

/-- The codes of characters are put together from their units. -/
theorem foldr_joinUnit_flatMap_charUnits (cs : List Char) :
    (cs.flatMap charUnits).foldr joinUnit [] = cs.map Char.toNat := by
  induction cs with
  | nil => rfl
  | cons c cs ih =>
    have valid : c.toNat < 0xd800 ∨ 0xdfff < c.toNat ∧ c.toNat < 0x110000 := c.valid
    rw [List.flatMap_cons, List.foldr_append, ih, List.map_cons, charUnits]
    split
    · rw [List.foldr_cons, List.foldr_nil, joinUnit_eq_cons _ _ (by omega)]
    · rw [List.foldr_cons, List.foldr_cons, List.foldr_nil,
        joinUnit_eq_cons (0xdc00 + _) _ (by omega), joinUnit, if_pos (by omega)]
      exact congrArg (· :: cs.map Char.toNat) (by omega)

/-- A text is put together from its units. -/
theorem ofUnits_units (s : String) : ofUnits (units s) = s := by
  have read (c : Char) :
      (if isHalf c.toNat then Char.ofNat 0xfffd else Char.ofNat c.toNat) = c := by
    have valid : c.toNat < 0xd800 ∨ 0xdfff < c.toNat ∧ c.toNat < 0x110000 := c.valid
    rw [if_neg (by simp only [isHalf, decide_eq_true_eq]; omega), Char.ofNat_toNat]
  rw [ofUnits, units, foldr_joinUnit_flatMap_charUnits, List.map_map]
  have same : s.toList.map ((fun code =>
      if isHalf code then Char.ofNat 0xfffd else Char.ofNat code) ∘ Char.toNat) = s.toList :=
    (List.map_congr_left fun c _ => read c).trans (List.map_id _)
  rw [same, String.ofList_toList]

theorem units_injective {s t : String} (same : units s = units t) : s = t := by
  rw [← ofUnits_units s, same, ofUnits_units]

/-! ## The order -/

theorem unitsLe_total (as bs : List Nat) : unitsLe as bs = true ∨ unitsLe bs as = true := by
  induction as generalizing bs with
  | nil => exact .inl rfl
  | cons a as ih =>
    cases bs with
    | nil => exact .inr rfl
    | cons b bs =>
      by_cases same : a = b
      · simpa [unitsLe, same] using ih bs
      · simp only [unitsLe, same, Ne.symm same, if_false, decide_eq_true_eq]
        omega

theorem unitsLe_trans {as bs cs : List Nat} (first : unitsLe as bs = true)
    (second : unitsLe bs cs = true) : unitsLe as cs = true := by
  induction as generalizing bs cs with
  | nil => rfl
  | cons a as ih =>
    match bs, cs, first, second with
    | b :: bs, c :: cs, first, second =>
      simp only [unitsLe] at first second ⊢
      by_cases ab : a = b
      · subst ab
        by_cases ac : a = c
        · subst ac
          simp only [if_true] at first second ⊢
          exact ih first second
        · simpa [ac] using second
      · by_cases bc : b = c
        · subst bc
          simpa [ab] using first
        · simp only [ab, bc, if_false, decide_eq_true_eq] at first second
          rw [if_neg (by omega)]
          simp only [decide_eq_true_eq]
          omega

theorem unitsLe_antisymm {as bs : List Nat} (first : unitsLe as bs = true)
    (second : unitsLe bs as = true) : as = bs := by
  induction as generalizing bs with
  | nil =>
    cases bs with
    | nil => rfl
    | cons b bs => simp [unitsLe] at second
  | cons a as ih =>
    cases bs with
    | nil => simp [unitsLe] at first
    | cons b bs =>
      by_cases same : a = b
      · subst same
        simp only [unitsLe, if_true] at first second
        rw [ih first second]
      · simp only [unitsLe, same, Ne.symm same, if_false, decide_eq_true_eq] at first second
        omega

theorem le_total (s t : String) : le s t = true ∨ le t s = true := unitsLe_total _ _

theorem le_trans {s t u : String} (first : le s t = true) (second : le t u = true) :
    le s u = true := unitsLe_trans first second

theorem le_antisymm {s t : String} (first : le s t = true) (second : le t s = true) : s = t :=
  units_injective (unitsLe_antisymm first second)

/-! ## Sorted lists -/

theorem perm_insertInOrder (text : String) (texts : List String) :
    (insertInOrder text texts).Perm (text :: texts) := by
  induction texts with
  | nil => exact .refl _
  | cons head rest ih =>
    rw [insertInOrder]
    split
    · exact .refl _
    · exact (ih.cons head).trans (.swap text head rest)

theorem perm_sorted (texts : List String) : (sorted texts).Perm texts := by
  induction texts with
  | nil => exact .refl _
  | cons text texts ih => exact (perm_insertInOrder text (sorted texts)).trans (ih.cons text)

theorem pairwise_insertInOrder {text : String} {texts : List String}
    (ordered : texts.Pairwise (le · ·)) : (insertInOrder text texts).Pairwise (le · ·) := by
  induction texts with
  | nil => simp [insertInOrder]
  | cons head rest ih =>
    obtain ⟨below, tail⟩ := List.pairwise_cons.1 ordered
    rw [insertInOrder]
    split
    · next first =>
      refine List.pairwise_cons.2 ⟨fun other mem => ?_, ordered⟩
      rcases List.mem_cons.1 mem with rfl | mem
      · exact first
      · exact le_trans first (below other mem)
    · next later =>
      refine List.pairwise_cons.2 ⟨fun other mem => ?_, ih tail⟩
      rcases List.mem_cons.1 ((perm_insertInOrder text rest).mem_iff.1 mem) with rfl | mem
      · exact (le_total head other).resolve_right later
      · exact below other mem

theorem pairwise_sorted (texts : List String) : (sorted texts).Pairwise (le · ·) := by
  induction texts with
  | nil => exact .nil
  | cons text texts ih => exact pairwise_insertInOrder ih

theorem sorted_eq_of_perm {texts others : List String} (permuted : texts.Perm others) :
    sorted texts = sorted others := by
  apply List.Perm.eq_of_pairwise (fun _ _ _ _ => le_antisymm) (pairwise_sorted texts)
    (pairwise_sorted others)
  exact ((perm_sorted texts).trans permuted).trans (perm_sorted others).symm

end SavingsCircle.Text
