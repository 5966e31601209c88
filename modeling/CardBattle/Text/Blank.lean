/-
Module: CardBattle.Text.Blank
Purpose: Blank characters, and text without the blanks at its ends.
Main exports:
  Text.isBlank, Text.trimBlank
-/

namespace CardBattle.Text

/-- Characters with the property White_Space of the Unicode standard. -/
def isBlank (c : Char) : Bool :=
  let code := c.toNat
  (0x09 ≤ code && code ≤ 0x0d) || code == 0x20 || code == 0x85 || code == 0xa0 ||
    code == 0x1680 || (0x2000 ≤ code && code ≤ 0x200a) || code == 0x2028 || code == 0x2029 ||
    code == 0x202f || code == 0x205f || code == 0x3000

/-- The text between the blanks at both ends. -/
def trimBlank (text : List Char) : List Char :=
  ((text.dropWhile isBlank).reverse.dropWhile isBlank).reverse

end CardBattle.Text
