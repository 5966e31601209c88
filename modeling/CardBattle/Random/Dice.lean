/-
Module: CardBattle.Random.Dice
Purpose: Chances and shuffles drawn from a stream of random words.
Main exports:
  Dice, Dice.ofSeed, Dice.draw, Dice.chance, Dice.upTo, Dice.shuffle
-/
import CardBattle.Binary64.Whole
import CardBattle.Fault
import CardBattle.Random.ChaCha8

namespace CardBattle

/-- A place in the stream of a seed.  It is all there is to know about the draws
to come, so a copy of it repeats them. -/
structure Dice where
  seed : UInt64
  /-- Words drawn so far. -/
  position : Nat
deriving Repr, DecidableEq

namespace Dice

/-- The start of the stream of a seed. -/
def ofSeed (seed : UInt64) : Dice := ⟨seed, 0⟩

/-- Draw a word. -/
def draw (dice : Dice) : UInt32 × Dice :=
  (ChaCha8.word dice.seed dice.position, { dice with position := dice.position + 1 })

/-- Draw a number of 64 bits: two words, the low half first. -/
def drawPair (dice : Dice) : Nat × Dice :=
  let (low, dice) := dice.draw
  let (high, dice) := dice.draw
  ((high.toNat <<< 32) + low.toNat, dice)

/-- Roll for a chance in percent.  A certain chance draws nothing; any other is
compared, as a share of all numbers of 64 bits, with one such number, a chance
below zero as zero. -/
def chance (percent : Binary64) (dice : Dice) : Except Fault (Bool × Dice) :=
  let share := percent / 100
  if share.isNaN then .error .invalidChance
  else if 1 ≤ share then .ok (true, dice)
  else
    let limit := (share * 18446744073709551616).truncate 0 18446744073709551615
    let (number, dice) := dice.drawPair
    .ok (number < limit, dice)

/-- Search the stream for a word that falls evenly below `bound`.  Multiplying a
word by the bound spreads the words over `bound` shelves of width `2 ^ 32`; a
word counts when it lands in the part of its shelf that all shelves fill alike.
A word that does not count is passed over. -/
def belowWithin (bound : Nat) : (attempts : Nat) → Dice → Nat × Dice
  | 0, dice => (0, dice)
  | attempts + 1, dice =>
      let (number, dice) := dice.draw
      let product := number.toNat * bound
      if product % 0x100000000 < bound <<< (31 - bound.log2) then (product / 0x100000000, dice)
      else belowWithin bound attempts dice

/-- A roll stays below its bound, also where all attempts have been used up. -/
theorem belowWithin_lt {bound : Nat} (positive : 0 < bound) (attempts : Nat) (dice : Dice) :
    (belowWithin bound attempts dice).1 < bound := by
  induction attempts generalizing dice with
  | zero => exact positive
  | succ attempts ih =>
      unfold belowWithin
      dsimp only
      split
      · rw [Nat.div_lt_iff_lt_mul (by decide), Nat.mul_comm bound]
        exact Nat.mul_lt_mul_of_pos_right dice.draw.1.toNat_lt positive
      · exact ih _

/-- A number up to `last`, every one with the same chance; the whole stream is
searched. -/
def upTo (last : Nat) (dice : Dice) : Fin (last + 1) × Dice :=
  let found := belowWithin (last + 1) ChaCha8.period dice
  (⟨found.1, belowWithin_lt (Nat.succ_pos last) ChaCha8.period dice⟩, found.2)

/-- Swap the item at each place from `place` down to the second with one drawn
from the places up to its own. -/
def shuffleDown {α : Type} {n : Nat} :
    (place : Nat) → place < n → Vector α n → Dice → Vector α n × Dice
  | 0, _, items, dice => (items, dice)
  | place + 1, inside, items, dice =>
      let (other, dice) := dice.upTo (place + 1)
      let items := items.swap (place + 1) other.val inside (Nat.lt_of_lt_of_le other.isLt inside)
      shuffleDown place (Nat.lt_of_succ_lt inside) items dice

/-- Put the items of a list in a random order. -/
def shuffle {α : Type} (items : List α) (dice : Dice) : List α × Dice :=
  if nonempty : 0 < items.length then
    let (shuffled, dice) := shuffleDown (n := items.length) (items.length - 1)
      (Nat.sub_lt nonempty Nat.one_pos) ⟨items.toArray, rfl⟩ dice
    (shuffled.toList, dice)
  else (items, dice)

end Dice

end CardBattle
