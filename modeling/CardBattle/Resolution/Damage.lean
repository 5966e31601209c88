/-
Module: CardBattle.Resolution.Damage
Purpose: How health is lost: single hits, the answers of relics, and whole damage effects with
  dodge, strength, critical hits, lifesteal, shock and bleed.
Main exports:
  Resolution.wound, Resolution.reduceHealth, Resolution.damage
-/
import CardBattle.Resolution.Basic

/-!
# Damage

All loss of health goes through `wound`, which logs and tallies what it takes.  `reduceHealth`
adds the relics that answer to a single hit.  A hit on the other side can be raised by the
dealer's relics; a hit on oneself can give strength and can pass damage on to the other side,
and that further hit is one on the other side, so nothing answers it in turn.

A damage effect is dodged if the target has a stack to spend.  Otherwise the number of the effect
becomes a blow: against the other side it is strengthened, may turn critical and may bring health
back.  Where the blow lands, shock builds up, health goes, and a bleeding target takes one
further hit.
-/

namespace CardBattle.Resolution

/-! ### Single hits -/

/-- Take health from a side, with a note in the log and in the tally. -/
def wound (r : Resolution) (source target : Side) (amount : Int) : Resolution where
  game := r.game.updateCombatant target fun c => { c with health := c.health - amount }
  scope := (r.scope.emit (.damage source target amount)).tally target amount

/-- A positive hit, raised to the least size that the dealer's relics allow. -/
def raisedHit (dealer : Combatant) (amount : Int) : Int :=
  if 0 < amount then
    match dealer.leastHit? with
    | some least => max amount least
    | none => amount
  else 0

/-- A hit of one side on the other, and the health it took. -/
def hitOther (r : Resolution) (source : Side) (amount : Int) : Resolution × Int :=
  let taken := raisedHit (r.combatant source) amount
  ((r.wound source source.other taken).update source fun c =>
      { c with damageThisTurn := c.damageThisTurn + taken },
    taken)

/-- A hit of a side on itself, and the health it took. -/
def hitSelf (r : Resolution) (side : Side) (amount : Int) : Resolution × Int :=
  let taken := max amount 0
  let hurt := r.wound side side taken
  let response := (hurt.combatant side).damageResponse taken (side = hurt.game.active)
  let stronger :=
    if 0 < response.strength then
      hurt.update side fun c => c.addStatus .strength response.strength
    else hurt
  if 0 < response.mirrored then ((stronger.hitOther side response.mirrored).1, taken)
  else (stronger, taken)

/-- A hit of any size from one side on either; a size below zero counts as zero. -/
def reduceHealth (r : Resolution) (source target : Side) (amount : Int) : Resolution × Int :=
  if source = target then r.hitSelf source amount else r.hitOther source amount

/-! ### Blows -/

/-- The combatant after spending a stack that turns damage into a miss, if it
has one. -/
def dodge? (c : Combatant) : Option Combatant :=
  match c.spend? .tempDodge with
  | some rest => some rest
  | none => c.spend? .dodge

/-- A damage effect on its way: its number, and the share of it that comes back
as health. -/
structure Blow where
  value : Binary64
  lifesteal : Binary64
deriving DecidableEq

/-- Whether the attacker's own counters make its hits critical. -/
def strikesCritically (scope : Scope) (attacker : Combatant) : Bool :=
  attacker.has .crit || (scope.tribe = .fire && attacker.has .tempFireCrit)

/-- Share of lifesteal that the resolving card grants. -/
def cardLifesteal (r : Resolution) : Binary64 :=
  match r.scope.lifesteal with
  | some share => r.game.evaluate r.scope share
  | none => 0

/-- The blow that a number becomes.  Only a blow at the other side takes
anything from its attacker. -/
def aim (r : Resolution) (target : Side) (value : Binary64) :
    Except Fault (Blow × Resolution) :=
  if target = r.active then .ok (⟨value, 0⟩, r)
  else
    let attacker := r.combatant r.active
    let critical := strikesCritically r.scope attacker
    match attacker.outgoingHit critical r.game.dice with
    | .error fault => .error fault
    | .ok (hit, dice) =>
        let strong := value + (attacker.status .strength + attacker.status .tempStrength)
        let share := attacker.status .lifesteal + r.cardLifesteal + hit.lifesteal
        .ok ({ value := if critical || hit.critical then strong * 2 else strong
               lifesteal :=
                 if (r.combatant target).has .burn then share + attacker.status .burnLifesteal
                 else share },
          { r with game := { r.game with dice := dice } })

/-- Give the active side back its share of a hit on the other side. -/
def drain (r : Resolution) (target : Side) (amount : Int) (share : Binary64) : Resolution :=
  if target = r.active then r
  else
    let healed := (Binary64.ofInt amount * share).floorWord
    if 0 < healed then
      (r.update r.active fun c => { c with health := c.health + healed }).emit
        (.heal r.active healed)
    else r

/-- One more stack of shock where there is some; enough of it becomes a stun. -/
def buildShock (threshold : Int) (c : Combatant) : Combatant :=
  if c.has .shock then
    let shocked := c.addStatus .shock 1
    if threshold ≤ shocked.wholeStacks .shock then
      (shocked.addStatus .shock (-Binary64.ofInt threshold)).addStatus .stun 1
    else shocked
  else c

/-- The further hit on a bleeding side, which then bleeds less. -/
def bleedOut (r : Resolution) (target : Side) : Resolution :=
  if (r.combatant target).has .bleed then
    (r.reduceHealth r.active target r.game.rules.bleedDamage).1.update target fun c =>
      c.addStatus .bleed (-1)
  else r

/-- Remember that the active side has damaged the other. -/
def noteDamage (r : Resolution) (target : Side) : Resolution :=
  if target = r.active then r
  else { r with scope := { r.scope with causedDamage := true } }

/-- Let a blow land that nothing stopped. -/
def land (r : Resolution) (target : Side) (blow : Blow) : Resolution :=
  let amount := blow.value.floorWord
  let met :=
    if 0 < amount then
      (r.drain target amount blow.lifesteal).update target
        (buildShock r.game.rules.shockThreshold)
    else r
  let (hurt, taken) := met.reduceHealth met.active target amount
  if 0 < taken then (hurt.noteDamage target).bleedOut target else hurt

/-- A damage effect with its number. -/
def damage (r : Resolution) (target : Side) (value : Binary64) : Except Fault Resolution :=
  match dodge? (r.combatant target) with
  | some rest => .ok ((r.update target fun _ => rest).emit (.miss target))
  | none =>
      match r.aim target value with
      | .error fault => .error fault
      | .ok (blow, aimed) => .ok (aimed.land target blow)

end CardBattle.Resolution
