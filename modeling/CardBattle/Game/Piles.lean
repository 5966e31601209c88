/-
Module: CardBattle.Game.Piles
Purpose: Passing over, trashing and shuffling the cards of a deck.
Main exports:
  Game.discardCurrent, Game.trashCurrent, Game.trashNext, Game.shuffleDeck
-/
import CardBattle.Event
import CardBattle.Game.DeckBuilding

namespace CardBattle

namespace Game

/-- Pass over the card under the cursor. -/
def discardCurrent (g : Game) (side : Side) : Game × List BattleEvent :=
  match (g.combatant side).currentCard? with
  | some id => (g.updateCombatant side Combatant.advanceCursor, [.cardDiscarded side id])
  | none => (g, [])

/-- Move a card of a deck to the trashed pile, if there is one at that place. -/
def trashAt (g : Game) (side : Side) (index : Nat) : Game × List BattleEvent :=
  match (g.combatant side).deck[index]? with
  | some id => (g.updateCombatant side fun c => c.trashAt index id, [.cardTrashed side id])
  | none => (g, [])

/-- Move the card under the cursor to the trashed pile. -/
def trashCurrent (g : Game) (side : Side) : Game × List BattleEvent :=
  g.trashAt side (g.combatant side).cursor

/-- Move the card after the cursor to the trashed pile.  A single card is left
alone. -/
def trashNext (g : Game) (side : Side) : Game × List BattleEvent :=
  let c := g.combatant side
  if c.deck.length < 2 then (g, []) else g.trashAt side ((c.cursor + 1) % c.deck.length)

/-- Shuffle a deck, put its chains together again, and go to its first card. -/
def shuffleDeck (g : Game) (side : Side) : Game × List BattleEvent :=
  let (deck, dice) := g.dice.shuffle (g.combatant side).deck
  let shuffled := { g with dice := dice }.updateCombatant side fun c => { c with deck := deck }
  ((shuffled.rearrange side).updateCombatant side fun c => { c with cursor := 0 },
    [.shuffled side])

end Game

end CardBattle
