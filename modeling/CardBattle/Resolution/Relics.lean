/-
Module: CardBattle.Resolution.Relics
Purpose: What the relics of a combatant answer at each moment of a battle.
Main exports:
  Combatant.relicsFor, Combatant.openingBleed, Combatant.outgoingHit, Combatant.leastHit?,
  Combatant.damageResponse, Combatant.healBonus
-/
import CardBattle.Combatant
import CardBattle.Random.Dice

namespace CardBattle

/-- What relics add to one hit on its way out. -/
structure OutgoingHit where
  /-- Whether a relic made the hit critical. -/
  critical : Bool
  /-- Share of lifesteal. -/
  lifesteal : Binary64
deriving DecidableEq

/-- How relics answer damage that their owner took. -/
structure DamageResponse where
  /-- Strength gained by the owner. -/
  strength : Binary64
  /-- Damage passed on to the other side. -/
  mirrored : Int
deriving DecidableEq

namespace Combatant

/-- Relics that act at a moment, in the order of acquisition. -/
def relicsFor (c : Combatant) (hook : Hook) : List Relic :=
  c.relics.filter fun relic => relic.kind.hook = hook

/-- Relics of a kind, in the order of acquisition. -/
def relicsOf (c : Combatant) (kind : RelicKind) : List Relic :=
  c.relics.filter fun relic => relic.kind = kind

/-- Bleed that the other side starts the battle with. -/
def openingBleed (c : Combatant) : Binary64 :=
  (c.relicsOf .openingCut).foldl (fun sum relic => sum + relic.value) 0

/-- Roll one relic after the other for a critical hit, until one succeeds. -/
def rollCritical : List Relic → Dice → Except Fault (Bool × Dice)
  | [], dice => .ok (false, dice)
  | coin :: rest, dice =>
      match dice.chance coin.value with
      | .error fault => .error fault
      | .ok (true, dice) => .ok (true, dice)
      | .ok (false, dice) => rollCritical rest dice

/-- Critical chance and lifesteal for a hit.  Nothing is rolled for a hit that
is critical already. -/
def outgoingHit (c : Combatant) (alreadyCritical : Bool) (dice : Dice) :
    Except Fault (OutgoingHit × Dice) :=
  let lifesteal := (c.relicsOf .vampireFang).foldl (fun sum relic => sum + relic.value) 0
  if alreadyCritical then .ok (⟨false, lifesteal⟩, dice)
  else
    match rollCritical (c.relicsOf .luckyCoin) dice with
    | .error fault => .error fault
    | .ok (critical, dice) => .ok (⟨critical, lifesteal⟩, dice)

/-- The size that positive hits are raised to, if a relic sets one. -/
def leastHit? (c : Combatant) : Option Int :=
  ((c.relicsOf .whetstone).map fun relic => relic.value.floorWord).max?

/-- Answer to damage.  Relics answer only damage that the owner did to itself in
its own turn. -/
def damageResponse (c : Combatant) (amount : Int) (selfInflicted : Bool) : DamageResponse :=
  if selfInflicted && 0 < amount then
    { strength := (c.relicsOf .bloodPact).foldl (fun sum relic => sum + relic.value) 0
      mirrored := (c.relicsOf .thornMirror).foldl
        (fun sum relic => sum + (Binary64.ofInt amount * relic.value).floorWord) 0 }
  else ⟨0, 0⟩

/-- What every heal grows by: the stacks of strength, once for each relic that
says so. -/
def healBonus (c : Combatant) : Int :=
  (c.relicsOf .sacredRoot).foldl (fun sum _ => sum + c.wholeStacks .strength) 0

end Combatant

end CardBattle
