/-
Module: CardBattle.Resolution.Basic
Purpose: A card resolution in progress: the record together with the scope of the card.
Main exports:
  Resolution, Resolution.combatant, Resolution.update, Resolution.emit, Resolution.repeatTimes
-/
import CardBattle.Resolution.Reading
import CardBattle.Resolution.Relics

namespace CardBattle

/-- The record of the run and the scope of the card that is changing it. -/
structure Resolution where
  game : Game
  scope : Scope
deriving DecidableEq

namespace Resolution

/-- The side whose card resolves. -/
def active (r : Resolution) : Side := r.scope.active

/-- One of the combatants. -/
def combatant (r : Resolution) (side : Side) : Combatant := r.game.combatant side

/-- Change one of the combatants. -/
def update (r : Resolution) (side : Side) (change : Combatant → Combatant) : Resolution :=
  { r with game := r.game.updateCombatant side change }

/-- Note an event. -/
def emit (r : Resolution) (event : BattleEvent) : Resolution :=
  { r with scope := r.scope.emit event }

/-- Carry out a step a number of times, up to the first fault. -/
def repeatTimes (step : Resolution → Except Fault Resolution) :
    (times : Nat) → Resolution → Except Fault Resolution
  | 0, r => .ok r
  | times + 1, r =>
      match step r with
      | .ok r => repeatTimes step times r
      | .error fault => .error fault

end Resolution

end CardBattle
