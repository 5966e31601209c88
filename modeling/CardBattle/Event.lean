/-
Module: CardBattle.Event
Purpose: What an onlooker of a battle is told, in order.
Main exports:
  BattleEvent, BattleEvent.damageTo?, BattleEvent.healOf?
-/
import CardBattle.Card.Id
import CardBattle.Side

namespace CardBattle

/-- One thing that happened. -/
inductive BattleEvent where
  | battleStarted
  | turnStarted (side : Side) (turn : Nat)
  | turnEnded (side : Side)
  /-- A card began to resolve. -/
  | cardPlayed (side : Side) (card : CardId)
  /-- A card was passed over. -/
  | cardDiscarded (side : Side) (card : CardId)
  /-- A card went to the trashed pile. -/
  | cardTrashed (side : Side) (card : CardId)
  | damage (source target : Side) (amount : Int)
  | heal (side : Side) (amount : Int)
  /-- A damage effect was dodged. -/
  | miss (target : Side)
  /-- A stunned combatant lost its play. -/
  | stunned (side : Side)
  | shuffled (side : Side)
  | battleEnded (winner : Side)
  /-- The run went back to a snapshot. -/
  | undo
deriving Repr, DecidableEq

namespace BattleEvent

/-- Amount of damage, if this is damage to `side`. -/
def damageTo? (side : Side) : BattleEvent → Option Int
  | damage _ target amount => if target = side then some amount else none
  | _ => none

/-- Amount healed, if this is a heal of `side`. -/
def healOf? (side : Side) : BattleEvent → Option Int
  | heal healed amount => if healed = side then some amount else none
  | _ => none

end BattleEvent

end CardBattle
