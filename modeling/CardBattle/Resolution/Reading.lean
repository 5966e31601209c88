/-
Module: CardBattle.Resolution.Reading
Purpose: The numbers and guards of card texts, read off the record while a card resolves.
Main exports:
  Game.read, Game.evaluate, Game.holds, Game.evaluateModifier?, Game.effectValue
-/
import CardBattle.Game.Basic
import CardBattle.Resolution.Scope

namespace CardBattle.Game

/-- Cards of a side's deck that are in a tribe. -/
def countTribe (g : Game) (side : Side) (tribe : Tribe) : Nat :=
  (g.combatant side).deck.countP fun id =>
    match g.pool.card? id with
    | some card => card.tribe = tribe
    | none => false

/-- Whether the card that a side played before is in a tribe. -/
def previousInTribe (g : Game) (side : Side) (tribe : Tribe) : Bool :=
  match (g.combatant side).previousCard.bind g.pool.card? with
  | some card => card.tribe = tribe
  | none => false

/-- A field of a side. -/
def read (g : Game) (scope : Scope) (side : Side) : Field → Binary64
  | .health => .ofInt (g.combatant side).health
  | .startingHealth => .ofInt (g.combatant side).startingHealth
  | .maxHealth => .ofInt (g.combatant side).maxHealth
  | .status s => (g.combatant side).status s
  | .cardsPlayedThisTurn => .ofInt (g.combatant side).cardsPlayedThisTurn
  | .damageThisTurn => .ofInt (g.combatant side).damageThisTurn
  | .damageLastTurn => .ofInt (g.combatant side).damageLastTurn
  | .deckSize => .ofInt (g.combatant side).deck.length
  | .trashSize => .ofInt (g.combatant side).trashed.length
  | .relicCount => .ofInt (g.combatant side).relics.length
  | .turns => .ofInt (g.turn / 2 : Nat)
  | .tribeShare tribe =>
      if (g.combatant side).deck.isEmpty then 0
      else 100 * .ofInt (g.countTribe side tribe) / .ofInt (g.combatant side).deck.length
  | .previousTribe tribe => if g.previousInTribe side tribe then 1 else 0
  | .damageThisCard => .ofInt (scope.damageTaken.get side)

/-- A described number. -/
def evaluate (g : Game) (scope : Scope) : Quantity → Binary64
  | .literal number => number
  | .field target field multiplier =>
      g.read scope (target.resolve scope.active) field * multiplier.getD 1

/-- Whether a guard holds. -/
def holds (g : Game) (scope : Scope) (condition : Condition) : Bool :=
  condition.op.holds (g.evaluate scope condition.left) (g.evaluate scope condition.right)

/-- Whether a guard holds, where there is one. -/
def allows (g : Game) (scope : Scope) : Option Condition → Bool
  | some condition => g.holds scope condition
  | none => true

/-- The value of a modifier, if its guard lets it count. -/
def evaluateModifier? (g : Game) (scope : Scope) (modifier : Modifier) : Option Binary64 :=
  if g.allows scope modifier.condition then some (g.evaluate scope modifier.value) else none

/-- The number of an effect: the base value, plus the sum that counts, times the
factor that counts. -/
def effectValue (g : Game) (scope : Scope) (effect : Effect) : Binary64 :=
  let base := g.evaluate scope effect.value
  let sum :=
    match effect.add.bind (g.evaluateModifier? scope) with
    | some extra => base + extra
    | none => base
  match effect.multiply.bind (g.evaluateModifier? scope) with
  | some factor => sum * factor
  | none => sum

/-- How often an effect is carried out: once, or as often as its count says. -/
def effectHits (g : Game) (scope : Scope) (effect : Effect) : Nat :=
  match effect.hits with
  | some count => (g.evaluate scope count).floorWord.toNat
  | none => 1

/-- How often the lines of a card are carried out: once, and again as its
repetition says. -/
def activations (g : Game) (scope : Scope) (card : Card) : Nat :=
  match card.repeats.bind (g.evaluateModifier? scope) with
  | some again => 1 + (again.floor.truncate 0 0xfffffffe).toNat
  | none => 1

end CardBattle.Game
