/-
Module: CardBattle.Resolution.Scope
Purpose: What is known while one card resolves, and the log of what has happened in it.
Main exports:
  Scope, Scope.bare, Scope.ofCard, Scope.emit, Scope.tally
-/
import CardBattle.Card.Basic
import CardBattle.Event

namespace CardBattle

/-- The resolution of one card: on whose behalf, with what granted by the card,
and what has come of it so far, through all repetitions. -/
structure Scope where
  /-- The side whose card resolves. -/
  active : Side
  tribe : Tribe
  /-- Share of lifesteal granted by the card. -/
  lifesteal : Option Quantity
  /-- Damage that each side has taken so far. -/
  damageTaken : Sides Int
  /-- Whether the active side has damaged the other. -/
  causedDamage : Bool
  /-- What has happened, in order. -/
  events : Array BattleEvent
deriving DecidableEq

namespace Scope

/-- The scope of effects that come from no card. -/
def bare (active : Side) : Scope where
  active := active
  tribe := .none
  lifesteal := none
  damageTaken := .same 0
  causedDamage := false
  events := #[]

/-- The scope of a card. -/
def ofCard (active : Side) (card : Card) : Scope :=
  { bare active with tribe := card.tribe, lifesteal := card.lifesteal }

/-- Note an event. -/
def emit (scope : Scope) (event : BattleEvent) : Scope :=
  { scope with events := scope.events.push event }

/-- Note an amount of damage that a side has taken. -/
def tally (scope : Scope) (side : Side) (amount : Int) : Scope :=
  { scope with damageTaken := scope.damageTaken.update side (· + amount) }

@[simp] theorem events_emit (scope : Scope) (event : BattleEvent) :
    (scope.emit event).events.toList = scope.events.toList ++ [event] := by
  simp [emit]

end Scope

end CardBattle
