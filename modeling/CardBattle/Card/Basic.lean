/-
Module: CardBattle.Card.Basic
Purpose: Cards, and the scripted enemies that bring decks of them.
Main exports:
  Card, Card.isFire, Enemy
-/
import CardBattle.Effect.Basic
import CardBattle.Relic

namespace CardBattle

/-- A playable card. -/
structure Card where
  /-- Name shown to players. -/
  name : String
  /-- What it does, line by line. -/
  effects : List Effect
  /-- How often the lines are carried out again after the first time. -/
  repeats : Option Modifier := none
  /-- Share of lifesteal granted while the card resolves. -/
  lifesteal : Option Quantity := none
  /-- Whether the card goes to the trashed pile once played. -/
  trashOnPlay : Bool := false
  tribe : Tribe := .none
deriving DecidableEq

/-- Whether this is a fire card. -/
def Card.isFire (card : Card) : Bool := card.tribe = .fire

/-- A scripted enemy, with its deck in the order of play. -/
structure Enemy where
  name : String
  health : Int
  cards : List Card
  relics : List Relic := []
deriving DecidableEq

end CardBattle
