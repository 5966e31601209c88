/-
Module: CardBattle.Proofs.Binary64.Floor
Purpose: Numbers between -2^53 and 2^53 are rounded down to integers, exactly.
Main exports:
  Binary64.Small, Binary64.toInt?_ofInt_of_natAbs, Binary64.exists_floor,
  Binary64.floorWord_of_toInt?, Binary64.equals_of_toInt?, Binary64.within,
  Binary64.toInt?_within
-/
import CardBattle.Proofs.Binary64.Arithmetic

/-!
# Rounding down

Between `-2 ^ 53` and `2 ^ 53` every integer is a number of the format.  So rounding down a number
there gives the integer below it and nothing else, whatever its sign; only a zero can come with
either sign, and the two compare as equal.
-/

namespace CardBattle.Binary64

/-! ### Comparing -/

/-- Numbers are compared by their places on the line, and what is no number has
none. -/
theorem le_iff {x y : Binary64} :
    x ≤ y ↔ ∃ p q, x.position = some p ∧ y.position = some q ∧ p ≤ q := by
  show atMost x y = true ↔ _
  unfold atMost
  cases x.position with
  | none => simp
  | some p =>
      cases y.position with
      | none => simp
      | some q => simp

theorem lt_iff_of_toInt? {x y : Binary64} {a b : Int} (one : x.toInt? = some a)
    (two : y.toInt? = some b) : x < y ↔ a < b := by
  show below x y = true ↔ _
  rw [below, position_of_toInt? one, position_of_toInt? two]
  dsimp only
  rw [decide_eq_true_iff]
  exact Int.mul_lt_mul_right natCast_unitsPerOne_pos

/-- A number equals itself unless it is no number. -/
theorem equals_self {x : Binary64} {place : Int} (here : x.position = some place) :
    x.equals x = true := by
  simp [equals, here]

theorem equals_symm {x y : Binary64} (same : x.equals y = true) : y.equals x = true := by
  unfold equals at same ⊢
  split at same
  · rename_i p q first second
    rw [first, second]
    exact decide_eq_true (of_decide_eq_true same).symm
  · cases same

/-- Numbers that equal the same integer are equal, though one of them may be the
zero with a sign. -/
theorem equals_of_toInt? {x y : Binary64} {n : Int} (one : x.toInt? = some n)
    (two : y.toInt? = some n) : x.equals y = true := by
  simp [equals, position_of_toInt? one, position_of_toInt? two]

/-! ### Integers -/

/-- Every integer from `-2 ^ 53` to `2 ^ 53` is a number of the format, so it
comes back unrounded. -/
theorem toInt?_ofInt_of_natAbs {n : Int} (small : n.natAbs ≤ digitsLimit) :
    (ofInt n).toInt? = some n := by
  rw [ofInt, ofRatio_of_representable _ (representable_whole small), toInt?,
    if_pos (Nat.mul_mod_left ..), Nat.mul_div_cancel _ unitsPerOne_pos]
  by_cases negative : n < 0
  · rw [decide_eq_true negative, signed, if_pos rfl]
    exact congrArg some (Int.eq_neg_natAbs_of_nonpos (Int.le_of_lt negative)).symm
  · rw [decide_eq_false negative, signed, if_neg Bool.false_ne_true]
    exact congrArg some (Int.natAbs_of_nonneg (Int.not_lt.mp negative))

/-- What is kept where it is positive is never no number.  Counters that are
stored can be compared for this reason. -/
theorem exists_position_positivePart (x : Binary64) :
    ∃ place, x.positivePart.position = some place := by
  unfold positivePart
  split
  · rename_i positive
    obtain ⟨place, here, -⟩ := pos_iff.mp positive
    exact ⟨place, here⟩
  · exact ⟨0, position_zero⟩

/-- A number moved into a range, to the nearer end of it. -/
def within (x low high : Binary64) : Binary64 :=
  if x < low then low else if high < x then high else x

theorem toInt?_within {low high x : Binary64} {a b n : Int} (least : low.toInt? = some a)
    (most : high.toInt? = some b) (same : x.toInt? = some n) (order : a ≤ b) :
    (x.within low high).toInt? = some (max a (min b n)) := by
  unfold within
  simp only [lt_iff_of_toInt? same least, lt_iff_of_toInt? most same]
  split
  · rw [least]
    congr 1
    omega
  · split
    · rw [most]
      congr 1
      omega
    · rw [same]
      congr 1
      omega

/-! ### Rounding down -/

/-- A number from `-2 ^ 53` to `2 ^ 53`. -/
def Small (x : Binary64) : Prop := -9007199254740992 ≤ x ∧ x ≤ 9007199254740992

instance (x : Binary64) : Decidable x.Small := inferInstanceAs (Decidable (_ ∧ _))

theorem digitsLimit_eq : digitsLimit = 9007199254740992 := by decide

/-- Rounding a magnitude to whole ones, up or down, does not take it past a
whole bound. -/
theorem wholeMagnitude_le (negative : Bool) {units : Nat}
    (short : units ≤ digitsLimit * unitsPerOne) : wholeMagnitude negative units ≤ digitsLimit := by
  unfold wholeMagnitude
  have positive := unitsPerOne_pos
  rw [Nat.mul_comm] at short
  split
  · refine Nat.lt_succ_iff.mp ((Nat.div_lt_iff_lt_mul positive).mpr ?_)
    rw [Nat.succ_mul, Nat.mul_comm]
    omega
  · exact Nat.div_le_of_le_mul short

/-- The multiple of a unit that rounding down a magnitude with its sign comes
to. -/
theorem signed_wholeMagnitude (negative : Bool) (units : Nat) :
    signed negative (wholeMagnitude negative units) * unitsPerOne ≤ signed negative units ∧
      signed negative units <
        (signed negative (wholeMagnitude negative units) + 1) * unitsPerOne := by
  have positive := unitsPerOne_pos
  cases negative with
  | false =>
      simp only [signed, wholeMagnitude, Bool.false_eq_true, if_false]
      have below := Nat.div_mul_le_self units unitsPerOne
      have above := Nat.lt_div_mul_add positive (a := units)
      constructor
      · exact_mod_cast below
      · rw [Int.add_mul, Int.one_mul]
        exact_mod_cast above
  | true =>
      simp only [signed, wholeMagnitude, if_true]
      have below := Nat.div_mul_le_self (units + (unitsPerOne - 1)) unitsPerOne
      have above := Nat.lt_div_mul_add positive (a := units + (unitsPerOne - 1))
      generalize (units + (unitsPerOne - 1)) / unitsPerOne = count at below above ⊢
      rw [Int.add_mul, Int.one_mul, Int.neg_mul, ← Int.natCast_mul]
      omega

/-- The whole part of a number is an integer again, as long as it is small
enough to be held exactly. -/
theorem toInt?_floor {negative : Bool} {units : Nat} {held : Representable units}
    (bound : wholeMagnitude negative units ≤ digitsLimit) :
    (finite negative units held).floor.toInt? =
      some (signed negative (wholeMagnitude negative units)) := by
  have whole : (finite negative units held).floor =
      finite negative _ (representable_whole bound) :=
    ofRatio_of_representable negative (representable_whole bound)
  rw [whole, toInt?, if_pos (Nat.mul_mod_left ..), Nat.mul_div_cancel _ unitsPerOne_pos]

theorem natAbs_signed (negative : Bool) (units : Nat) : (signed negative units).natAbs = units := by
  cases negative with
  | false => exact Int.natAbs_natCast units
  | true => exact (Int.natAbs_neg _).trans (Int.natAbs_natCast units)

/-- The place of a number from `-2 ^ 53` to `2 ^ 53` is as many ones away from
zero at most. -/
theorem Small.position {x : Binary64} (small : x.Small) :
    ∃ place, x.position = some place ∧ place.natAbs ≤ digitsLimit * unitsPerOne := by
  obtain ⟨least, place, leastHere, here, low⟩ := le_iff.mp small.1
  obtain ⟨_, most, there, mostHere, high⟩ := le_iff.mp small.2
  obtain rfl := Option.some.inj (here.symm.trans there)
  have limit : toInt? 9007199254740992 = some 9007199254740992 :=
    toInt?_ofInt (n := 9007199254740992) (by decide)
  have top := Option.some.inj ((position_of_toInt? limit).symm.trans mostHere)
  have bottom := Option.some.inj ((position_of_toInt? (toInt?_neg limit)).symm.trans leastHere)
  refine ⟨place, here, ?_⟩
  rw [digitsLimit_eq]
  omega

/-- A number from `-2 ^ 53` to `2 ^ 53` has the integer below it as its whole
part. -/
theorem exists_floor {x : Binary64} (small : x.Small) :
    ∃ place n, x.position = some place ∧ x.floor.toInt? = some n ∧
      n * unitsPerOne ≤ place ∧ place < (n + 1) * unitsPerOne ∧ n.natAbs ≤ digitsLimit := by
  obtain ⟨place, here, short⟩ := small.position
  cases x with
  | nan => cases here
  | infinity negative =>
      obtain rfl : signed negative unitsLimit = place := Option.some.inj here
      rw [natAbs_signed] at short
      exact absurd smallWhole_lt (Nat.not_lt.mpr short)
  | finite negative units held =>
      obtain rfl : signed negative units = place := Option.some.inj here
      rw [natAbs_signed] at short
      have bound := wholeMagnitude_le negative short
      obtain ⟨below, above⟩ := signed_wholeMagnitude negative units
      exact ⟨_, _, rfl, toInt?_floor bound, below, above, natAbs_signed negative _ ▸ bound⟩

/-- Small integers are kept as they are in a word, whose ends lie much further
out. -/
theorem floorWord_of_toInt? {x : Binary64} {n : Int} (whole : x.floor.toInt? = some n)
    (small : n.natAbs ≤ digitsLimit) : x.floorWord = n := by
  have low : leastWord = -9223372036854775808 := rfl
  have high : greatestWord = 9223372036854775807 := rfl
  rw [digitsLimit_eq] at small
  rw [floorWord, toWord_of_toInt? whole]
  omega

end CardBattle.Binary64
