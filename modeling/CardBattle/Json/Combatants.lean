/-
Module: CardBattle.Json.Combatants
Purpose: The JSON form of combatants, rules, dice and pairs of numbers.
Main exports:
  Combatant.toJson, Combatant.ofJson?, Rules.toJson, Rules.ofJson?, Dice.toJson, Dice.ofJson?,
  Sides.toJson, Sides.ofJson?
-/
import CardBattle.Game.Basic
import CardBattle.Json.Cards

namespace CardBattle

namespace Combatant

/-- Counters as an object: the name of each stored counter with its value. -/
def statusesToJson (statuses : OrderedMap Status Binary64) : Json :=
  .object (statuses.entries.map fun e => (e.1.name, .real e.2))

/-- One member of an object of counters. -/
def statusOfJson? (entry : String × Json) : Option (Status × Binary64) := do
  let s ← Named.ofName? entry.1
  let value ← entry.2.real?
  pure (s, value)

/-- Read an object of counters; their values may be anything. -/
def statusesOfJson? : Json → Option (OrderedMap Status Binary64)
  | .object members => (members.mapM statusOfJson?).map OrderedMap.ofList
  | _ => none

/-- A combatant is a record. -/
def toJson (c : Combatant) : Json :=
  .object [("health", .int c.health), ("starting_health", .int c.startingHealth),
    ("max_health", .int c.maxHealth), ("deck", .ofList CardId.toJson c.deck),
    ("trashed", .ofList CardId.toJson c.trashed), ("relics", .ofList Relic.toJson c.relics),
    ("cursor", .nat c.cursor), ("cards_played_this_turn", .nat c.cardsPlayedThisTurn),
    ("damage_this_turn", .int c.damageThisTurn), ("damage_last_turn", .int c.damageLastTurn),
    ("previous_card", .ofOption CardId.toJson c.previousCard),
    ("statuses", statusesToJson c.statuses)]

/-- Read a combatant; its cursor and counters may be anything. -/
def ofJson? (record : Json) : Option Combatant := do
  guard (record.isRecord 11 12)
  let health ← record.required 0 "health" Json.word?
  let startingHealth ← record.required 1 "starting_health" Json.word?
  let maxHealth ← record.required 2 "max_health" Json.word?
  let deck ← record.required 3 "deck" (Json.listOf? CardId.ofJson?)
  let trashed ← record.required 4 "trashed" (Json.listOf? CardId.ofJson?)
  let relics ← record.required 5 "relics" (Json.listOf? Relic.ofJson?)
  let cursor ← record.required 6 "cursor" (Json.bits? 64)
  let cardsPlayedThisTurn ← record.required 7 "cards_played_this_turn" (Json.bits? 32)
  let damageThisTurn ← record.required 8 "damage_this_turn" Json.word?
  let damageLastTurn ← record.required 9 "damage_last_turn" Json.word?
  let previousCard ← record.defaulted 10 "previous_card" (Json.nullable? CardId.ofJson?) none
  let statuses ← record.defaulted 11 "statuses" statusesOfJson? .empty
  pure ⟨health, startingHealth, maxHealth, deck, trashed, relics, cursor, cardsPlayedThisTurn,
    damageThisTurn, damageLastTurn, previousCard, statuses⟩

end Combatant

/-- The rules are a record. -/
def Rules.toJson (rules : Rules) : Json :=
  .object [("starting_health", .int rules.startingHealth),
    ("opponent_health", .int rules.opponentHealth), ("bleed_damage", .int rules.bleedDamage),
    ("shock_threshold", .int rules.shockThreshold), ("max_losses", .nat rules.maxLosses),
    ("wins_to_clear", .nat rules.winsToClear),
    ("max_plays_per_turn", .nat rules.maxPlaysPerTurn)]

/-- Read rules; their values may be anything. -/
def Rules.ofJson? (record : Json) : Option Rules := do
  guard (record.isRecord 7 7)
  let startingHealth ← record.required 0 "starting_health" Json.word?
  let opponentHealth ← record.required 1 "opponent_health" Json.word?
  let bleedDamage ← record.required 2 "bleed_damage" Json.word?
  let shockThreshold ← record.required 3 "shock_threshold" Json.word?
  let maxLosses ← record.required 4 "max_losses" (Json.bits? 32)
  let winsToClear ← record.required 5 "wins_to_clear" (Json.bits? 32)
  let maxPlaysPerTurn ← record.required 6 "max_plays_per_turn" (Json.bits? 32)
  pure ⟨startingHealth, opponentHealth, bleedDamage, shockThreshold, maxLosses, winsToClear,
    maxPlaysPerTurn⟩

/-- Dice are their seed and their place in the stream. -/
def Dice.toJson (dice : Dice) : Json :=
  .object [("seed", .nat dice.seed.toNat), ("word_pos", .nat dice.position)]

/-- Read dice. -/
def Dice.ofJson? (record : Json) : Option Dice := do
  guard (record.isRecord 2 2)
  let seed ← record.required 0 "seed" (Json.bits? 64)
  let position ← record.required 1 "word_pos" (Json.bits? 128)
  pure ⟨.ofNat seed, position⟩

namespace Sides

/-- A number for each side, the user's first. -/
def toJson (sides : Sides Int) : Json := .object [("data", .ofList .int sides.toList)]

/-- Two integers. -/
def pairOfJson? (value : Json) : Option (Sides Int) :=
  match value.listOf? Json.word? with
  | some [user, opponent] => some ⟨user, opponent⟩
  | _ => none

/-- Read a number for each side. -/
def ofJson? (record : Json) : Option (Sides Int) := do
  guard (record.isRecord 1 1)
  record.required 0 "data" pairOfJson?

end Sides

end CardBattle
