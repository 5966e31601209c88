/-
Module: CardBattle.Proofs.Binary64.Whole
Purpose: Small whole numbers are exact, and rounding down tells which numbers reach one.
Main exports:
  Binary64.ofInt_natCast, Binary64.floor_finite, Binary64.floorWord_pos_iff, Binary64.pos_iff,
  Binary64.floor_floor, Binary64.one_le_of_pos, Binary64.isNaN_div
-/
import CardBattle.Binary64.Whole

/-!
# Whole numbers

A whole number up to `2 ^ 53` is held as it is, and so is the whole part of any number of the
format.  Rounding a number down therefore tells whether it reaches one, and what is
positive after it is a whole number that does.
-/

namespace CardBattle.Binary64

theorem mul_one_shiftLeft (n place : Nat) : n * (1 <<< place) = n <<< place := by
  rw [Nat.shiftLeft_eq, Nat.shiftLeft_eq, Nat.one_mul]

theorem one_shiftLeft_le {low high : Nat} (le : low ≤ high) : 1 <<< low ≤ 1 <<< high := by
  rw [Nat.shiftLeft_eq, Nat.shiftLeft_eq, Nat.one_mul, Nat.one_mul]
  exact Nat.pow_le_pow_right Nat.two_pos le

theorem one_shiftLeft_dvd (digits : Nat) {low high : Nat} (le : low ≤ high) :
    1 <<< low ∣ digits <<< high := by
  rw [Nat.shiftLeft_eq, Nat.shiftLeft_eq, Nat.one_mul]
  exact Nat.dvd_mul_left_of_dvd (Nat.pow_dvd_pow 2 le) digits

theorem digitsLimit_mul_unitsPerOne : digitsLimit * unitsPerOne = 1 <<< 1127 := by decide +kernel

theorem smallWhole_lt : digitsLimit * unitsPerOne < unitsLimit := by decide +kernel

theorem unitsPerOne_le_unitsLimit : unitsPerOne ≤ unitsLimit := one_shiftLeft_le (by decide)

/-- The format holds whole numbers with at most 53 binary digits, and the least
one with more. -/
theorem representable_whole {n : Nat} (small : n ≤ digitsLimit) :
    Representable (n * unitsPerOne) := by
  refine ⟨Nat.lt_of_le_of_lt (Nat.mul_le_mul_right _ small) smallWhole_lt, ?_⟩
  rcases Nat.lt_or_eq_of_le small with short | rfl
  · exact ⟨n, 1074, mul_one_shiftLeft n 1074, short⟩
  · exact ⟨1, 1127, digitsLimit_mul_unitsPerOne, by decide⟩

theorem ofInt_natCast {n : Nat} (small : n ≤ digitsLimit) :
    ofInt n = finite false (n * unitsPerOne) (representable_whole small) := by
  have positive : decide ((n : Int) < 0) = false := decide_eq_false (by omega)
  rw [ofInt, positive, Int.natAbs_natCast, ofRatio_of_representable]

/-- The format holds the whole part of what it holds, since dropping a fraction
needs no further digits. -/
theorem representable_floor {units : Nat} (held : Representable units) :
    Representable (units / unitsPerOne * unitsPerOne) := by
  refine ⟨Nat.lt_of_le_of_lt (Nat.div_mul_le_self ..) held.below, ?_⟩
  obtain ⟨digits, place, same, short⟩ := held.significand
  by_cases whole : 1074 ≤ place
  · have divides : unitsPerOne ∣ units := same ▸ one_shiftLeft_dvd digits whole
    rw [Nat.div_mul_cancel divides]
    exact ⟨digits, place, same, short⟩
  · refine ⟨units / unitsPerOne, 1074, mul_one_shiftLeft _ 1074, Nat.lt_of_le_of_lt ?_ short⟩
    have small : 1 <<< place ≤ unitsPerOne := one_shiftLeft_le (Nat.le_of_not_le whole)
    refine Nat.div_le_of_le_mul ?_
    calc units = digits * (1 <<< place) := same.trans (mul_one_shiftLeft digits place).symm
      _ ≤ digits * unitsPerOne := Nat.mul_le_mul_left digits small
      _ = unitsPerOne * digits := Nat.mul_comm ..

/-- Rounding a number without a negative sign down drops its fraction and does
no rounding of its own. -/
theorem floor_finite {units : Nat} (held : Representable units) :
    (finite false units held).floor =
      finite false (units / unitsPerOne * unitsPerOne) (representable_floor held) :=
  ofRatio_of_representable false (representable_floor held)

/-! ### Numbers that reach one -/

theorem position_one : position 1 = some (unitsPerOne : Int) := by
  have exact : (1 : Binary64) = _ := ofInt_natCast (n := 1) (by decide)
  rw [exact, position, signed, Nat.one_mul, if_neg Bool.false_ne_true]

/-- Being at least one is a matter of the place on the line: one stands at so
many units. -/
theorem one_le_iff {x : Binary64} :
    1 ≤ x ↔ ∃ place, x.position = some place ∧ (unitsPerOne : Int) ≤ place := by
  show atMost 1 x = true ↔ _
  rw [atMost, position_one]
  cases x.position with
  | none => simp
  | some place => simp

/-- Rounded up in magnitude, a number with a negative sign is still not
positive. -/
theorem position_ofRatio_true_nonpos {num den : Nat} {place : Int}
    (here : (ofRatio true num den).position = some place) : place ≤ 0 := by
  unfold ofRatio at here
  split at here
  · cases here
    exact Int.neg_nonpos_of_nonneg (Int.natCast_nonneg _)
  · cases here
    exact Int.neg_nonpos_of_nonneg (Int.natCast_nonneg _)

/-- A place at one or beyond leaves a positive integer when its fraction is
dropped, and no other place does. -/
theorem unitsPerOne_le_iff {place : Int} :
    (unitsPerOne : Int) ≤ place ↔ 0 < place.tdiv unitsPerOne := by
  have unit : (0 : Int) < unitsPerOne := Int.natCast_pos.mpr unitsPerOne_pos
  rcases Int.lt_or_le place 0 with negative | positive
  · have down : 0 ≤ (-place).tdiv unitsPerOne := Int.tdiv_nonneg (by omega) (Int.le_of_lt unit)
    rw [Int.neg_tdiv] at down
    omega
  · obtain ⟨n, rfl⟩ := Int.eq_ofNat_of_zero_le positive
    rw [← Int.ofNat_tdiv, Int.ofNat_le, Int.natCast_pos, Nat.div_pos_iff]
    exact ⟨fun le => ⟨unitsPerOne_pos, le⟩, And.right⟩

/-- Dropping the fraction of a number gives a positive integer where it is at
least one. -/
theorem toWord_pos_iff (x : Binary64) : 0 < x.toWord ↔ 1 ≤ x := by
  rw [one_le_iff, toWord, truncate]
  cases x.position with
  | none => simp
  | some place =>
      have low : leastWord = -9223372036854775808 := rfl
      have high : greatestWord = 9223372036854775807 := rfl
      simp only [Option.some.injEq, exists_eq_left', unitsPerOne_le_iff]
      omega

/-- Rounding down takes no number below one that is not there already.  So a
whole stack is found by either test. -/
theorem one_le_floor_iff (x : Binary64) : 1 ≤ x.floor ↔ 1 ≤ x := by
  rw [one_le_iff, one_le_iff]
  cases x with
  | nan => exact Iff.rfl
  | infinity negative => exact Iff.rfl
  | finite negative units held =>
      have unit : (0 : Int) < unitsPerOne := Int.natCast_pos.mpr unitsPerOne_pos
      cases negative with
      | false =>
          rw [floor_finite]
          simp only [position, signed, Option.some.injEq, exists_eq_left', Bool.false_eq_true,
            if_false, Int.ofNat_le]
          constructor
          · exact fun reaches => Nat.le_trans reaches (Nat.div_mul_le_self ..)
          · exact fun reaches => Nat.le_mul_of_pos_left _ (Nat.div_pos reaches unitsPerOne_pos)
      | true =>
          constructor
          · rintro ⟨place, here, reaches⟩
            have down := position_ofRatio_true_nonpos here
            omega
          · rintro ⟨place, here, reaches⟩
            have down : -(units : Int) = place := Option.some.inj here
            omega

/-- A number is at least one where rounding it down gives a positive integer.
The two tests for a stack to spend agree by this. -/
theorem floorWord_pos_iff (x : Binary64) : 0 < x.floorWord ↔ 1 ≤ x :=
  (toWord_pos_iff x.floor).trans (one_le_floor_iff x)

/-! ### Positive numbers -/

theorem position_zero : position 0 = some 0 := by
  have exact : (0 : Binary64) = _ := ofInt_natCast (n := 0) (by decide)
  rw [exact, position, signed, Nat.zero_mul, if_neg Bool.false_ne_true]
  rfl

/-- Being positive is a matter of the place on the line, which excludes what is
no number. -/
theorem pos_iff {x : Binary64} : 0 < x ↔ ∃ place, x.position = some place ∧ 0 < place := by
  show below 0 x = true ↔ _
  rw [below, position_zero]
  cases x.position with
  | none => simp
  | some place => simp

theorem isNaN_of_pos {x : Binary64} (positive : 0 < x) : x.isNaN = false := by
  obtain ⟨place, here, -⟩ := pos_iff.mp positive
  cases x with
  | nan => cases here
  | infinity negative => rfl
  | finite negative units held => rfl

/-- A positive number is infinite, or counts some units. -/
theorem eq_of_pos {x : Binary64} (positive : 0 < x) :
    x = infinity false ∨ ∃ units held, 0 < units ∧ x = finite false units held := by
  obtain ⟨place, here, above⟩ := pos_iff.mp positive
  cases x with
  | nan => cases here
  | infinity negative =>
      cases negative with
      | false => exact .inl rfl
      | true =>
          have down : -(unitsLimit : Int) = place := Option.some.inj here
          omega
  | finite negative units held =>
      cases negative with
      | false =>
          have up : (units : Int) = place := Option.some.inj here
          exact .inr ⟨units, held, by omega, rfl⟩
      | true =>
          have down : -(units : Int) = place := Option.some.inj here
          omega

/-- Only positive numbers are rounded down to positive ones. -/
theorem pos_of_floor_pos {x : Binary64} (positive : 0 < x.floor) : 0 < x := by
  obtain ⟨place, here, above⟩ := pos_iff.mp positive
  cases x with
  | nan => cases here
  | infinity negative => exact positive
  | finite negative units held =>
      cases negative with
      | true =>
          have down := position_ofRatio_true_nonpos here
          omega
      | false =>
          rw [floor_finite] at here
          have whole : ((units / unitsPerOne * unitsPerOne : Nat) : Int) = place :=
            Option.some.inj here
          have less := Nat.div_mul_le_self units unitsPerOne
          exact pos_iff.mpr ⟨units, rfl, by omega⟩

/-- A positive number that has been rounded down stays as it is when it is
rounded down again. -/
theorem floor_floor {x : Binary64} (positive : 0 < x.floor) : x.floor.floor = x.floor := by
  rcases eq_of_pos (pos_of_floor_pos positive) with rfl | ⟨units, held, -, rfl⟩
  · rfl
  · rw [floor_finite, floor_finite]
    simp only [Nat.mul_div_cancel _ unitsPerOne_pos]

/-- A positive whole number is at least one, so there is a stack to spend
wherever there is any of a whole counter. -/
theorem one_le_of_pos {x : Binary64} (positive : 0 < x) (whole : x.floor = x) : 1 ≤ x := by
  rcases eq_of_pos positive with rfl | ⟨units, held, some_units, rfl⟩
  · exact one_le_iff.mpr ⟨unitsLimit, rfl, Int.ofNat_le.mpr unitsPerOne_le_unitsLimit⟩
  · rw [floor_finite, finite.injEq] at whole
    have several : 0 < units / unitsPerOne := by
      apply Nat.pos_of_ne_zero
      intro none
      rw [none, Nat.zero_mul] at whole
      omega
    have reaches := (Nat.div_pos_iff.mp several).2
    exact one_le_iff.mpr ⟨units, rfl, Int.ofNat_le.mpr reaches⟩

theorem not_zero_pos : ¬ (0 : Binary64) < 0 := by
  rw [pos_iff, position_zero]
  rintro ⟨place, here, above⟩
  cases here
  exact Int.lt_irrefl 0 above

/-- What is kept of a number is zero, or it is the number and positive.  A
stored counter is positive for this reason. -/
theorem of_positivePart_ne_zero {x : Binary64} (kept : x.positivePart.equals 0 = false) :
    0 < x ∧ x.positivePart = x := by
  by_cases positive : 0 < x
  · exact ⟨positive, if_pos positive⟩
  · rw [positivePart, if_neg positive, equals, position_zero] at kept
    cases kept

/-! ### Quotients -/

/-- A quotient by a finite number other than zero is a number where its
numerator is. -/
theorem isNaN_div (x : Binary64) {negative : Bool} {units : Nat} {held : Representable units}
    (nonzero : units ≠ 0) : (x / finite negative units held).isNaN = x.isNaN := by
  show (div x (finite negative units held)).isNaN = x.isNaN
  cases x with
  | nan => rfl
  | infinity s => rfl
  | finite s m h =>
      rw [div, if_neg nonzero, ofRatio]
      split <;> rfl

end CardBattle.Binary64
