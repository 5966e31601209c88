/-
Module: CardBattle.Binary64.Arithmetic
Purpose: Sum, product, quotient and sign of 64-bit binary numbers, rounded once.
Main exports:
  Binary64.add, Binary64.mul, Binary64.div, Binary64.neg, Binary64.positivePart
-/
import CardBattle.Binary64.Basic

/-!
# Arithmetic

Each operation states its exact result in units and hands it to `ofRatio`.  A sum of two finite
numbers is the sum of two integers of units; a product of units is scaled down, and a quotient
of units scaled up, by the units in one.  The sign of a zero result follows the operands: a
product or quotient is negative when exactly one operand is, and a sum is the negative zero only
when both operands are.
-/

namespace CardBattle

namespace Binary64

/-- Zero with a sign. -/
def zero (negative : Bool) : Binary64 := finite negative 0 representable_zero

/-- The number with the other sign. -/
def neg : Binary64 → Binary64
  | nan => nan
  | infinity negative => infinity (!negative)
  | finite negative units h => finite (!negative) units h

/-- Rounded sum. -/
def add : Binary64 → Binary64 → Binary64
  | nan, _ => nan
  | _, nan => nan
  | infinity s, infinity t => if s = t then infinity s else nan
  | infinity s, finite _ _ _ => infinity s
  | finite _ _ _, infinity t => infinity t
  | finite s m _, finite t n _ =>
      let total := signed s m + signed t n
      if total = 0 then zero (s && t) else ofRatio (total < 0) total.natAbs 1

/-- Rounded product. -/
def mul : Binary64 → Binary64 → Binary64
  | nan, _ => nan
  | _, nan => nan
  | infinity s, infinity t => infinity (s != t)
  | infinity s, finite t n _ => if n = 0 then nan else infinity (s != t)
  | finite s m _, infinity t => if m = 0 then nan else infinity (s != t)
  | finite s m _, finite t n _ => ofRatio (s != t) (m * n) unitsPerOne

/-- Rounded quotient. -/
def div : Binary64 → Binary64 → Binary64
  | nan, _ => nan
  | _, nan => nan
  | infinity _, infinity _ => nan
  | infinity s, finite t _ _ => infinity (s != t)
  | finite s _ _, infinity t => zero (s != t)
  | finite s m _, finite t n _ =>
      if n = 0 then (if m = 0 then nan else infinity (s != t))
      else ofRatio (s != t) (m * unitsPerOne) n

instance : Add Binary64 := ⟨add⟩

instance : Mul Binary64 := ⟨mul⟩

instance : Div Binary64 := ⟨div⟩

instance : Neg Binary64 := ⟨neg⟩

/-- The number itself where it is positive, and zero where it is not or is no
number. -/
def positivePart (x : Binary64) : Binary64 :=
  if 0 < x then x else 0

end Binary64

end CardBattle
