/-
Module: CardBattle.Status
Purpose: The named counters a combatant can carry.
Main exports:
  Status, Status.isFractional, Status.isTemporary
-/
import CardBattle.Named
import CardBattle.OrderedMap

namespace CardBattle

/-- A named counter of a combatant. -/
inductive Status where
  /-- A further hit after each damaging hit; one stack goes with each. -/
  | bleed
  /-- Turns one damage effect into a miss. -/
  | dodge
  /-- Turns one damage effect into a miss, until the owner's next turn. -/
  | tempDodge
  /-- Added to every hit against the other side. -/
  | strength
  /-- Added to every hit against the other side, until the owner's next turn. -/
  | tempStrength
  /-- Health gained when the owner's turn starts; then one stack goes. -/
  | regen
  /-- Lets the other side's burn lifesteal work. -/
  | burn
  /-- Share of the damage against the other side that comes back as health. -/
  | lifesteal
  /-- Share of the damage that comes back when the side hit is burning. -/
  | burnLifesteal
  /-- Grows with each hit while present, and turns into a stun. -/
  | shock
  /-- Costs the owner its next play. -/
  | stun
  /-- Doubles hits; one stack goes with each damaging card. -/
  | crit
  /-- Doubles hits of fire cards, until the owner's next turn. -/
  | tempFireCrit
  /-- Further plays in the same turn. -/
  | extraPlays
deriving Repr, DecidableEq

namespace Status

/-- Written name. -/
def name : Status → String
  | bleed => "Bleed"
  | dodge => "Dodge"
  | tempDodge => "TempDodge"
  | strength => "Strength"
  | tempStrength => "TempStrength"
  | regen => "Regen"
  | burn => "Burn"
  | lifesteal => "Lifesteal"
  | burnLifesteal => "BurnLifesteal"
  | shock => "Shock"
  | stun => "Stun"
  | crit => "Crit"
  | tempFireCrit => "TempFireCrit"
  | extraPlays => "ExtraPlays"

instance : Named Status where
  all := [bleed, dodge, tempDodge, strength, tempStrength, regen, burn, lifesteal,
    burnLifesteal, shock, stun, crit, tempFireCrit, extraPlays]
  name := name
  find_name := fun a => by cases a <;> rfl

/-- Counters are ranked in the order in which they are listed. -/
instance : Ranked Status where
  rank := Status.ctorIdx
  rank_injective := fun {a b} h => by cases a <;> cases b <;> simp_all [Status.ctorIdx]

/-- Shares keep their fractions; every other counter holds whole stacks. -/
def isFractional : Status → Bool
  | lifesteal | burnLifesteal => true
  | _ => false

/-- Counters that last until their owner's next turn. -/
def isTemporary : Status → Bool
  | tempDodge | tempStrength | tempFireCrit => true
  | _ => false

end Status

end CardBattle
