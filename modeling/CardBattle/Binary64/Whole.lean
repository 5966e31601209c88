/-
Module: CardBattle.Binary64.Whole
Purpose: Whole numbers among the 64-bit binary numbers: rounding down, and conversion to integers.
Main exports:
  Binary64.floor, Binary64.truncate, Binary64.toWord, Binary64.toInt?
-/
import CardBattle.Binary64.Arithmetic

/-!
# Whole numbers

`floor` stays inside the format and keeps the sign of a zero.  Conversion to an integer drops the
fraction and then moves a value outside the wanted range to the nearer end of it; what is no
number becomes zero.
-/

namespace CardBattle

namespace Binary64

/-- Whole numbers in a magnitude, counted down for a positive and up for a
negative sign. -/
def wholeMagnitude (negative : Bool) (units : Nat) : Nat :=
  if negative then (units + (unitsPerOne - 1)) / unitsPerOne else units / unitsPerOne

/-- The largest whole number that is not above this one. -/
def floor : Binary64 → Binary64
  | nan => nan
  | infinity negative => infinity negative
  | finite negative units _ => ofRatio negative (wholeMagnitude negative units * unitsPerOne) 1

/-- The integer left when the fraction is dropped, moved into the range from
`low` to `high`. -/
def truncate (low high : Int) (x : Binary64) : Int :=
  match x.position with
  | none => 0
  | some units => max low (min high (units.tdiv unitsPerOne))

/-- The least integer of a signed word of 64 bits. -/
def leastWord : Int := -9223372036854775808

/-- The greatest integer of a signed word of 64 bits. -/
def greatestWord : Int := 9223372036854775807

/-- The integer left when the fraction is dropped, kept within a signed word of
64 bits. -/
def toWord (x : Binary64) : Int := x.truncate leastWord greatestWord

/-- The whole part below this number, kept within a signed word of 64 bits. -/
def floorWord (x : Binary64) : Int := x.floor.toWord

/-- The integer that equals this number, if there is one. -/
def toInt? : Binary64 → Option Int
  | finite negative units _ =>
      if units % unitsPerOne = 0 then some (signed negative (units / unitsPerOne)) else none
  | _ => none

end Binary64

end CardBattle
