/-
Module: CardBattle.Json.Cards
Purpose: The JSON form of cards, relics and enemies.
Main exports:
  CardId.toJson, CardId.ofJson?, Card.toJson, Card.ofJson?, Relic.toJson, Relic.ofJson?,
  Enemy.toJson, Enemy.ofJson?
-/
import CardBattle.Card.Basic
import CardBattle.Json.Effects

namespace CardBattle

/-- The number of a card has 32 bits where it is written. -/
def CardId.toJson (id : CardId) : Json := .nat id.number

/-- Read the number of a card. -/
def CardId.ofJson? (value : Json) : Option CardId :=
  (value.bits? 32).map .mk

/-- A card is a record. -/
def Card.toJson (card : Card) : Json :=
  .object [("name", .string card.name), ("effects", .ofList Effect.toJson card.effects),
    ("repeat", .ofOption Modifier.toJson card.repeats),
    ("lifesteal", .ofOption Quantity.toJson card.lifesteal),
    ("trash_on_play", .bool card.trashOnPlay), ("tribe", card.tribe.toJson)]

/-- Read a card. -/
def Card.ofJson? (record : Json) : Option Card := do
  guard (record.isRecord 2 6)
  let name ← record.required 0 "name" Json.string?
  let effects ← record.required 1 "effects" (Json.listOf? Effect.ofJson?)
  let repeats ← record.defaulted 2 "repeat" (Json.nullable? Modifier.ofJson?) none
  let lifesteal ← record.defaulted 3 "lifesteal" (Json.nullable? Quantity.ofJson?) none
  let trashOnPlay ← record.defaulted 4 "trash_on_play" Json.bool? false
  let tribe ← record.defaulted 5 "tribe" Tribe.ofJson? .none
  pure ⟨name, effects, repeats, lifesteal, trashOnPlay, tribe⟩

/-- A relic is a record. -/
def Relic.toJson (relic : Relic) : Json :=
  .object [("kind", .ofName relic.kind), ("value", .real relic.value),
    ("value2", .real relic.value2)]

/-- Read a relic. -/
def Relic.ofJson? (record : Json) : Option Relic := do
  guard (record.isRecord 2 3)
  let kind ← record.required 0 "kind" Json.named?
  let value ← record.required 1 "value" Json.real?
  let value2 ← record.defaulted 2 "value2" Json.real? 0
  pure ⟨kind, value, value2⟩

/-- An enemy is a record. -/
def Enemy.toJson (enemy : Enemy) : Json :=
  .object [("name", .string enemy.name), ("health", .int enemy.health),
    ("cards", .ofList Card.toJson enemy.cards), ("relics", .ofList Relic.toJson enemy.relics)]

/-- Read an enemy; its health may be anything. -/
def Enemy.ofJson? (record : Json) : Option Enemy := do
  guard (record.isRecord 3 4)
  let name ← record.required 0 "name" Json.string?
  let health ← record.required 1 "health" Json.word?
  let cards ← record.required 2 "cards" (Json.listOf? Card.ofJson?)
  let relics ← record.defaulted 3 "relics" (Json.listOf? Relic.ofJson?) []
  pure ⟨name, health, cards, relics⟩

end CardBattle
