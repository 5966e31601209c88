/-
Module: CardBattle.Proofs.Binary64.Arithmetic
Purpose: Small whole numbers are added exactly, and what is not above zero stays so in sums and in
  products.
Main exports:
  Binary64.pos_iff_of_toInt?, Binary64.one_le_iff_of_toInt?, Binary64.floorWord_ofInt,
  Binary64.add_of_toInt?, Binary64.not_pos_add, Binary64.not_pos_ofInt_mul
-/
import CardBattle.Proofs.Binary64.Whole

/-!
# Sums and products

A number that equals an integer stands on the number line at that many ones, so it is compared as
the integer is.  Sums of integers are exact up to `2 ^ 53`.

A number is not above zero if it stands at zero, below zero, or nowhere because it is no number.
Two of them have a sum of that kind, and the product with an integer of at least zero is of that kind
too.
-/

namespace CardBattle.Binary64

/-! ### Numbers that equal integers -/

/-- A number that equals an integer is finite and counts whole ones, with the
sign of that integer. -/
theorem of_toInt?_eq_some {x : Binary64} {n : Int} (same : x.toInt? = some n) :
    ∃ negative units held, x = finite negative units held ∧ units % unitsPerOne = 0 ∧
      signed negative (units / unitsPerOne) = n := by
  cases x with
  | nan => cases same
  | infinity negative => cases same
  | finite negative units held =>
      obtain ⟨whole, value⟩ := Option.ite_none_right_eq_some.mp same
      exact ⟨negative, units, held, rfl, whole, Option.some.inj value⟩

/-- A number that equals an integer stands at that many ones on the line of
units, so comparing such numbers is comparing integers. -/
theorem position_of_toInt? {x : Binary64} {n : Int} (same : x.toInt? = some n) :
    x.position = some (n * unitsPerOne) := by
  obtain ⟨negative, units, held, rfl, whole, rfl⟩ := of_toInt?_eq_some same
  have back : units / unitsPerOne * unitsPerOne = units :=
    Nat.div_mul_cancel (Nat.dvd_of_mod_eq_zero whole)
  cases negative with
  | false =>
      simp only [position, signed, Bool.false_eq_true, if_false]
      rw [← Int.natCast_mul, back]
  | true =>
      simp only [position, signed, if_true]
      rw [Int.neg_mul, ← Int.natCast_mul, back]

theorem natCast_unitsPerOne_pos : (0 : Int) < unitsPerOne :=
  Int.natCast_pos.mpr unitsPerOne_pos

theorem pos_iff_of_toInt? {x : Binary64} {n : Int} (same : x.toInt? = some n) :
    0 < x ↔ 0 < n := by
  have scaled := Int.mul_lt_mul_right (b := 0) (c := n) natCast_unitsPerOne_pos
  rw [Int.zero_mul] at scaled
  simp only [pos_iff, position_of_toInt? same, Option.some.injEq, exists_eq_left']
  exact scaled

theorem one_le_iff_of_toInt? {x : Binary64} {n : Int} (same : x.toInt? = some n) :
    1 ≤ x ↔ 0 < n := by
  have scaled := Int.mul_le_mul_right (b := 1) (c := n) natCast_unitsPerOne_pos
  rw [Int.one_mul] at scaled
  simp only [one_le_iff, position_of_toInt? same, Option.some.injEq, exists_eq_left']
  exact scaled

theorem pos_of_one_le {x : Binary64} (enough : 1 ≤ x) : 0 < x := by
  obtain ⟨place, here, above⟩ := one_le_iff.mp enough
  exact pos_iff.mpr ⟨place, here, Int.lt_of_lt_of_le natCast_unitsPerOne_pos above⟩

theorem toInt?_ofInt {n : Nat} (small : n ≤ digitsLimit) : (ofInt n).toInt? = some (n : Int) := by
  rw [ofInt_natCast small, toInt?, if_pos (Nat.mul_mod_left ..),
    Nat.mul_div_cancel _ unitsPerOne_pos]
  rfl

/-- An integer that a number equals is kept in the conversion, as far as it fits
into a word. -/
theorem toWord_of_toInt? {x : Binary64} {n : Int} (same : x.toInt? = some n) :
    x.toWord = max leastWord (min greatestWord n) := by
  have nonzero : (unitsPerOne : Int) ≠ 0 := Int.ne_of_gt natCast_unitsPerOne_pos
  rw [toWord, truncate, position_of_toInt? same]
  dsimp only
  rw [Int.mul_tdiv_cancel n nonzero]

theorem floor_ofInt {n : Nat} (small : n ≤ digitsLimit) : (ofInt n).floor = ofInt n := by
  rw [ofInt_natCast small, floor_finite]
  simp only [Nat.mul_div_cancel _ unitsPerOne_pos]

theorem floorWord_ofInt {n : Nat} (small : n ≤ digitsLimit) : (ofInt n).floorWord = n := by
  have fits : (digitsLimit : Int) ≤ greatestWord := by decide
  have low : leastWord = -9223372036854775808 := rfl
  rw [floorWord, floor_ofInt small, toWord_of_toInt? (toInt?_ofInt small)]
  omega

theorem positivePart_ofInt {n : Nat} (small : n ≤ digitsLimit) :
    (ofInt n).positivePart = ofInt n := by
  by_cases positive : 0 < ofInt n
  · exact if_pos positive
  · have zero : n = 0 := by
      rw [pos_iff_of_toInt? (toInt?_ofInt small)] at positive
      omega
    rw [positivePart, if_neg positive, zero]
    rfl

/-- Of small natural numbers only zero equals zero; this is the test for a
counter that need not be stored. -/
theorem equals_zero_ofInt {n : Nat} (small : n ≤ digitsLimit) :
    (ofInt n).equals 0 = true ↔ n = 0 := by
  rw [equals, position_of_toInt? (toInt?_ofInt small), position_zero]
  simp only [decide_eq_true_iff, Int.mul_eq_zero, Int.natCast_eq_zero]
  exact or_iff_left (Nat.ne_of_gt unitsPerOne_pos)

theorem toInt?_neg {x : Binary64} {n : Int} (same : x.toInt? = some n) :
    (-x).toInt? = some (-n) := by
  obtain ⟨negative, units, held, rfl, whole, rfl⟩ := of_toInt?_eq_some same
  show (finite (!negative) units held).toInt? = _
  rw [toInt?, if_pos whole]
  cases negative with
  | false => rfl
  | true => exact congrArg some (Int.neg_neg _).symm

/-- A number that equals a positive integer has no negative sign.  Only zero
could have either. -/
theorem sign_of_toInt?_pos {negative : Bool} {units : Nat} {held : Representable units} {n : Int}
    (same : (finite negative units held).toInt? = some n) (positive : 0 < n) :
    negative = false := by
  cases negative with
  | false => rfl
  | true =>
      have place : -(units : Int) = n * unitsPerOne := Option.some.inj (position_of_toInt? same)
      have above := Int.mul_pos positive natCast_unitsPerOne_pos
      omega

/-- Where one of two integers is positive, and their sum is between zero and
`2 ^ 53`, the numbers that equal them have exactly that sum. -/
theorem add_of_toInt? {x y : Binary64} {a b : Int} {n : Nat} (one : x.toInt? = some a)
    (two : y.toInt? = some b) (positive : 0 < a ∨ 0 < b) (sum : a + b = n)
    (small : n ≤ digitsLimit) : x + y = ofInt n := by
  have first := position_of_toInt? one
  have second := position_of_toInt? two
  obtain ⟨s, units, held, rfl, -, -⟩ := of_toInt?_eq_some one
  obtain ⟨t, others, kept, rfl, -, -⟩ := of_toInt?_eq_some two
  have total : signed s units + signed t others = (n * unitsPerOne : Nat) := by
    rw [Option.some.inj first, Option.some.inj second, ← Int.add_mul, sum, Int.natCast_mul]
  show add (finite s units held) (finite t others kept) = ofInt n
  rw [add]
  simp only [total]
  split
  · rename_i none
    have sign : (s && t) = false := by
      rcases positive with above | above
      · rw [sign_of_toInt?_pos one above, Bool.false_and]
      · rw [sign_of_toInt?_pos two above, Bool.and_false]
    have zero : n = 0 := by
      have product : n * unitsPerOne = 0 := by omega
      exact (Nat.mul_eq_zero.mp product).resolve_right (Nat.ne_of_gt unitsPerOne_pos)
    rw [sign, zero]
    rfl
  · have positive : decide (((n * unitsPerOne : Nat) : Int) < 0) = false :=
      decide_eq_false (by omega)
    rw [positive, Int.natAbs_natCast, ofInt_natCast small, ofRatio_of_representable]

theorem toInt?_one : toInt? 1 = some 1 := toInt?_ofInt (n := 1) (by decide)

/-- Up to `2 ^ 53`, adding one to a natural number is exact.  One further on it
is not, as the format holds no odd number there. -/
theorem add_one {x : Binary64} {n : Nat} (short : n < digitsLimit)
    (same : x.toInt? = some (n : Int)) : x + 1 = ofInt (n + 1 : Nat) :=
  add_of_toInt? same toInt?_one (.inr Int.one_pos) rfl short

/-- Up to `2 ^ 53`, taking one from a positive integer is exact. -/
theorem add_neg_one {x : Binary64} {n : Nat} (short : n < digitsLimit)
    (same : x.toInt? = some (n + 1 : Int)) : x + -1 = ofInt n :=
  add_of_toInt? same (toInt?_neg toInt?_one) (.inl (by omega)) (by omega) (Nat.le_of_lt short)

/-! ### Numbers that are not above zero -/

/-- Not being positive takes in zero, negative numbers and what is no number at
all. -/
theorem not_pos_iff {x : Binary64} : ¬ 0 < x ↔ ∀ place, x.position = some place → place ≤ 0 := by
  rw [pos_iff]
  constructor
  · exact fun none place here => Int.not_lt.mp fun above => none ⟨place, here, above⟩
  · exact fun below ⟨place, here, above⟩ => Int.not_lt.mpr (below place here) above

/-- An infinity that is not above zero is the negative one. -/
theorem of_not_pos_infinity {negative : Bool} (low : ¬ 0 < infinity negative) :
    negative = true := by
  cases negative with
  | true => rfl
  | false =>
      have below : (unitsLimit : Int) ≤ 0 := not_pos_iff.mp low _ rfl
      have above : (0 : Int) < unitsLimit := Int.natCast_pos.mpr unitsLimit_pos
      omega

/-- Two numbers that are not above zero have no sum above zero, whatever becomes
of infinities and of what is no number. -/
theorem not_pos_add {x y : Binary64} (first : ¬ 0 < x) (second : ¬ 0 < y) : ¬ 0 < x + y := by
  rw [not_pos_iff] at first second ⊢
  intro place here
  cases x with
  | nan => cases here
  | infinity s =>
      cases y with
      | nan => cases here
      | infinity t =>
          change (if s = t then infinity s else nan).position = some place at here
          split at here
          · exact first place here
          · cases here
      | finite t n held => exact first place here
  | finite s m held =>
      cases y with
      | nan => cases here
      | infinity t => exact second place here
      | finite t n other =>
          have low : signed s m ≤ 0 := first _ rfl
          have down : signed t n ≤ 0 := second _ rfl
          change (if signed s m + signed t n = 0 then zero (s && t)
            else ofRatio (signed s m + signed t n < 0)
              (signed s m + signed t n).natAbs 1).position = some place at here
          split at here
          · cases here
            simp [signed]
          · rw [decide_eq_true (by omega)] at here
            exact position_ofRatio_true_nonpos here

/-- No units are rounded to no units. -/
theorem position_ofRatio_zero {negative : Bool} {den : Nat} :
    (ofRatio negative 0 den).position = some 0 := by
  have none : roundUnits 0 den = 0 := by simp [roundUnits, nearestEven]
  simp [ofRatio, none, unitsLimit_pos, position, signed]

/-- An integer that is not negative becomes a number without a negative sign, or
the positive infinity. -/
theorem ofInt_of_nonneg {n : Int} (counted : 0 ≤ n) :
    ofInt n = infinity false ∨ ∃ units held, ofInt n = finite false units held := by
  rw [ofInt, decide_eq_false (Int.not_lt.mpr counted)]
  by_cases below : roundUnits (n.natAbs * unitsPerOne) 1 < unitsLimit
  · exact .inr ⟨_, _, dif_pos below⟩
  · exact .inl (dif_neg below)

/-- A finite number that is not above zero has a negative sign, or is zero. -/
theorem of_not_pos_finite {negative : Bool} {units : Nat} {held : Representable units}
    (low : ¬ 0 < finite negative units held) : negative = true ∨ units = 0 := by
  have below : signed negative units ≤ 0 := not_pos_iff.mp low _ rfl
  cases negative with
  | true => exact .inl rfl
  | false =>
      have none : (units : Int) ≤ 0 := below
      exact .inr (by omega)

/-- A share that is not positive leaves nothing positive of an amount.  This is
why no health comes back without lifesteal. -/
theorem not_pos_ofInt_mul {n : Int} {x : Binary64} (counted : 0 ≤ n) (low : ¬ 0 < x) :
    ¬ 0 < ofInt n * x := by
  have down : signed true unitsLimit ≤ 0 := Int.neg_nonpos_of_nonneg (Int.natCast_nonneg _)
  rw [not_pos_iff]
  intro place here
  rcases ofInt_of_nonneg counted with same | ⟨units, many, same⟩
  · rw [same] at here
    cases x with
    | nan => cases here
    | infinity t =>
        obtain rfl := of_not_pos_infinity low
        exact Option.some.inj here ▸ down
    | finite t m held =>
        change (if m = 0 then nan else infinity (false != t)).position = some place at here
        split at here
        · cases here
        · rename_i nonzero
          obtain rfl := (of_not_pos_finite low).resolve_right nonzero
          exact Option.some.inj here ▸ down
  · rw [same] at here
    cases x with
    | nan => cases here
    | infinity t =>
        obtain rfl := of_not_pos_infinity low
        change (if units = 0 then nan else infinity true).position = some place at here
        split at here
        · cases here
        · exact Option.some.inj here ▸ down
    | finite t m held =>
        change (ofRatio (false != t) (units * m) unitsPerOne).position = some place at here
        rcases of_not_pos_finite low with rfl | rfl
        · exact position_ofRatio_true_nonpos here
        · rw [Nat.mul_zero, position_ofRatio_zero] at here
          exact Int.le_of_eq (Option.some.inj here).symm

end CardBattle.Binary64
