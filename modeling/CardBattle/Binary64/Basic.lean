/-
Module: CardBattle.Binary64.Basic
Purpose: Binary floating-point numbers of 64 bits, and the one rounding rule they share.
Main exports:
  Binary64, Binary64.Representable, Binary64.nearestEven, Binary64.roundUnits,
  Binary64.ofRatio, Binary64.ofInt, Binary64.position
-/

/-!
# Binary64 numbers

A finite number of the format is a sign and a magnitude, and every magnitude is a whole number
of *units*, a unit being the least positive number `2 ^ (-1074)`.  A count of units is
representable when it has at most 53 significant bits and stays below `2 ^ 2098` units, that
is, below `2 ^ 1024`.  The sign is kept apart from the magnitude, so the two zeros differ.

An operation computes its exact result as a ratio of two natural numbers of units and rounds
once (`ofRatio`): to the nearest representable magnitude, a tie to the one whose last place is
even, and to an infinity from `2 ^ 1024` on.
-/

namespace CardBattle

namespace Binary64

/-- Units in the number one. -/
def unitsPerOne : Nat := 1 <<< 1074

/-- The least count of units above every finite magnitude. -/
def unitsLimit : Nat := 1 <<< 2098

/-- The least number with more than 53 binary digits. -/
def digitsLimit : Nat := 1 <<< 53

/-- Counts of units that the format holds: at most 53 significant bits, below
the limit. -/
structure Representable (units : Nat) : Prop where
  below : units < unitsLimit
  significand : ∃ digits place, units = digits <<< place ∧ digits < digitsLimit

theorem unitsPerOne_pos : 0 < unitsPerOne := by decide +kernel

theorem unitsLimit_pos : 0 < unitsLimit := by decide +kernel

theorem representable_zero : Representable 0 :=
  ⟨unitsLimit_pos, 0, 0, by decide, by decide⟩

end Binary64

/-- A number of the binary format with 64 bits. -/
inductive Binary64 where
  /-- No number: the result of an operation without one. -/
  | nan
  /-- Larger in magnitude than every finite number. -/
  | infinity (negative : Bool)
  /-- A sign and a magnitude, counted in units. -/
  | finite (negative : Bool) (units : Nat) (representable : Binary64.Representable units)
deriving DecidableEq

namespace Binary64

/-! ### Rounding -/

/-- The whole number nearest to `num / den`, a tie going to the even neighbour. -/
def nearestEven (num den : Nat) : Nat :=
  let quotient := num / den
  let rest := num % den
  if 2 * rest < den then quotient
  else if den < 2 * rest then quotient + 1
  else quotient + quotient % 2

/-- Units of the magnitude nearest to `num / den` units that has at most 53
significant bits.  The last place kept is `2 ^ (k - 52)` units when the leading
place of the ratio is `2 ^ k`, and one unit when the ratio is smaller than
`2 ^ 53`. -/
def roundUnits (num den : Nat) : Nat :=
  let place := (num / den).log2 - 52
  nearestEven num (den <<< place) <<< place

theorem nearestEven_le (num den : Nat) : nearestEven num den ≤ num / den + 1 := by
  unfold nearestEven
  have : num / den % 2 < 2 := Nat.mod_lt _ (by decide)
  dsimp only
  split
  · omega
  · split <;> omega

theorem shiftRight_place_lt (ratio : Nat) : ratio >>> (ratio.log2 - 52) < digitsLimit := by
  rw [Nat.shiftRight_eq_div_pow, Nat.div_lt_iff_lt_mul (Nat.two_pow_pos _), digitsLimit,
    Nat.shiftLeft_eq, Nat.one_mul, ← Nat.pow_add]
  exact Nat.lt_of_lt_of_le Nat.lt_log2_self (Nat.pow_le_pow_right (by decide) (by omega))

/-- A rounded magnitude has at most 53 significant bits, so the format holds it
if it is below the limit. -/
theorem roundUnits_significand (num den : Nat) :
    ∃ digits place, roundUnits num den = digits <<< place ∧ digits < digitsLimit := by
  have bound : nearestEven num (den <<< ((num / den).log2 - 52)) ≤ digitsLimit := by
    refine Nat.le_trans (nearestEven_le _ _) ?_
    rw [Nat.shiftLeft_eq, ← Nat.div_div_eq_div_mul, ← Nat.shiftRight_eq_div_pow]
    exact shiftRight_place_lt (num / den)
  by_cases carry : nearestEven num (den <<< ((num / den).log2 - 52)) = digitsLimit
  · refine ⟨1 <<< 52, 1 + ((num / den).log2 - 52), ?_, by decide⟩
    rw [Nat.shiftLeft_add]
    exact congrArg (· <<< ((num / den).log2 - 52)) carry
  · exact ⟨_, _, rfl, Nat.lt_of_le_of_ne bound carry⟩

/-- The number nearest to `num / den` units with the given sign. -/
def ofRatio (negative : Bool) (num den : Nat) : Binary64 :=
  if below : roundUnits num den < unitsLimit then
    finite negative (roundUnits num den) ⟨below, roundUnits_significand num den⟩
  else infinity negative

/-- Rounding to a multiple of a divisor leaves such a multiple alone, as it is
nearest to itself. -/
theorem nearestEven_mul_of_dvd {num den : Nat} (positive : 0 < den) (divides : den ∣ num) :
    nearestEven num den * den = num := by
  obtain ⟨count, rfl⟩ := divides
  simp [nearestEven, Nat.mul_div_cancel_left _ positive, positive, Nat.mul_comm]

/-- A magnitude with at most 53 significant bits is its own rounding.  What the
format holds is never rounded a second time. -/
theorem roundUnits_of_significand {digits place : Nat} (short : digits < digitsLimit) :
    roundUnits (digits <<< place) 1 = digits <<< place := by
  rw [digitsLimit, Nat.shiftLeft_eq, Nat.one_mul] at short
  simp only [roundUnits, Nat.div_one, Nat.shiftLeft_eq, Nat.one_mul]
  refine nearestEven_mul_of_dvd (Nat.two_pow_pos _) ?_
  by_cases zero : digits = 0
  · rw [zero, Nat.zero_mul]
    exact Nat.dvd_zero _
  · refine Nat.dvd_trans (Nat.pow_dvd_pow 2 ?_) (Nat.dvd_mul_left _ _)
    have small := Nat.mul_lt_mul_of_pos_right short (Nat.two_pow_pos place)
    rw [← Nat.pow_add] at small
    have nonzero := Nat.mul_ne_zero zero (Nat.pos_iff_ne_zero.mp (Nat.two_pow_pos place))
    have := (Nat.log2_lt nonzero).mpr small
    omega

/-- A representable count of units is kept as it is. -/
theorem ofRatio_of_representable (negative : Bool) {units : Nat} (h : Representable units) :
    ofRatio negative units 1 = finite negative units h := by
  obtain ⟨digits, place, eq, short⟩ := h.significand
  have exact : roundUnits units 1 = units := by
    rw [eq]
    exact roundUnits_of_significand short
  simp [ofRatio, exact, h.below]

/-! ### Whole numbers and the order -/

/-- The number nearest to an integer. -/
def ofInt (value : Int) : Binary64 :=
  ofRatio (value < 0) (value.natAbs * unitsPerOne) 1

instance (n : Nat) : OfNat Binary64 n where
  ofNat := ofInt n

/-- A magnitude with its sign, in units. -/
def signed (negative : Bool) (units : Nat) : Int :=
  if negative then -(units : Int) else units

/-- Place on the number line in units; the infinities stand just outside the
finite numbers, and what is no number has no place. -/
def position : Binary64 → Option Int
  | nan => none
  | infinity negative => some (signed negative unitsLimit)
  | finite negative units _ => some (signed negative units)

/-- Strictly below, false if either side is no number. -/
def below (x y : Binary64) : Bool :=
  match x.position, y.position with
  | some p, some q => p < q
  | _, _ => false

/-- Below or numerically equal, false if either side is no number. -/
def atMost (x y : Binary64) : Bool :=
  match x.position, y.position with
  | some p, some q => p ≤ q
  | _, _ => false

/-- Numerically equal: the two zeros are, and what is no number is not even
equal to itself. -/
def equals (x y : Binary64) : Bool :=
  match x.position, y.position with
  | some p, some q => p = q
  | _, _ => false

instance : LT Binary64 := ⟨fun x y => x.below y = true⟩

instance : LE Binary64 := ⟨fun x y => x.atMost y = true⟩

instance (x y : Binary64) : Decidable (x < y) := inferInstanceAs (Decidable (_ = true))

instance (x y : Binary64) : Decidable (x ≤ y) := inferInstanceAs (Decidable (_ = true))

/-- Whether this is no number. -/
def isNaN : Binary64 → Bool
  | nan => true
  | _ => false

end Binary64

end CardBattle
