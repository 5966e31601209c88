/-
Module: CardBattle.Binary64.Encoding
Purpose: The 64-bit words of binary numbers, and numbers written in decimal.
Main exports:
  Binary64.toBits, Binary64.ofBits, Binary64.ofDecimal
-/
import CardBattle.Binary64.Arithmetic

/-!
# Words and decimals

A word holds the sign in its top place, then eleven places of exponent, then fifty-two of
fraction.  A magnitude of `2 ^ 52` units or more is `digits * 2 ^ place` with `digits` of exactly
53 places, and its word without the sign is `place * 2 ^ 52 + digits`; a smaller one is its own
word.
-/

namespace CardBattle

namespace Binary64

/-- The sign bit of a word. -/
def signBit (negative : Bool) : Nat := if negative then 1 <<< 63 else 0

/-- The word of a number; what is no number has the one word
`0x7ff8000000000000`. -/
def toBits : Binary64 → Nat
  | nan => 0x7ff8000000000000
  | infinity negative => signBit negative + 0x7ff0000000000000
  | finite negative units _ =>
      let place := units.log2 - 52
      signBit negative + (place <<< 52) + (units >>> place)

/-- The number of a word. -/
def ofBits (word : Nat) : Binary64 :=
  let negative := (word >>> 63) % 2 = 1
  let exponent := (word >>> 52) % 2048
  let fraction := word % (1 <<< 52)
  if exponent = 2047 then (if fraction = 0 then infinity negative else nan)
  else if exponent = 0 then ofRatio negative fraction 1
  else ofRatio negative (((1 <<< 52) + fraction) <<< (exponent - 1)) 1

/-- The number nearest to `digits * 10 ^ exponent`. -/
def ofDecimal (negative : Bool) (digits : Nat) : Int → Binary64
  | .ofNat exponent => ofRatio negative (digits * Nat.pow 10 exponent * unitsPerOne) 1
  | .negSucc exponent => ofRatio negative (digits * unitsPerOne) (Nat.pow 10 (exponent + 1))

end Binary64

end CardBattle
