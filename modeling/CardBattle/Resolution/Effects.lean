/-
Module: CardBattle.Resolution.Effects
Purpose: What each kind of effect does, and whole cards with their repetitions.
Main exports:
  Combatant.assign, Resolution.heal, Resolution.perform, Resolution.apply, Resolution.applyAll,
  Resolution.settleCrits, Game.resolveCard
-/
import CardBattle.Resolution.Damage

namespace CardBattle

/-- The combatant with a field overwritten. -/
def Combatant.assign (c : Combatant) (field : Field) (value : Binary64) :
    Except Fault Combatant :=
  match field with
  | .health => .ok { c with health := value.floorWord }
  | .startingHealth => .ok { c with startingHealth := value.floorWord }
  | .maxHealth => .ok { c with maxHealth := value.floorWord }
  | .status s => .ok (c.setStatus s value)
  | .cardsPlayedThisTurn =>
      .ok { c with cardsPlayedThisTurn := min value.floorWord.toNat 0xffffffff }
  | .damageThisTurn => .ok { c with damageThisTurn := value.floorWord }
  | .damageLastTurn => .ok { c with damageLastTurn := value.floorWord }
  | .deckSize | .trashSize | .relicCount | .turns | .tribeShare _ | .previousTribe _
  | .damageThisCard => .error (.derivedField field)

namespace Resolution

/-- A heal with its number, grown by what the active side's relics add. -/
def heal (r : Resolution) (target : Side) (value : Binary64) : Resolution :=
  let amount := (value + .ofInt (r.combatant r.active).healBonus).floorWord
  (r.update target fun c => { c with health := c.health + amount }).emit (.heal target amount)

/-- Overwrite a field of a side. -/
def overwrite (r : Resolution) (target : Side) (field : Field) (value : Binary64) :
    Except Fault Resolution :=
  match (r.combatant target).assign field value with
  | .ok c => .ok (r.update target fun _ => c)
  | .error fault => .error fault

/-- Carry out an effect once. -/
def perform (effect : Effect) (r : Resolution) : Except Fault Resolution :=
  let value := r.game.effectValue r.scope effect
  let target := effect.target.resolve r.active
  match effect.kind with
  | .damage => r.damage target value
  | .heal => .ok (r.heal target value)
  | .trash => .ok r
  | .status s => .ok (r.update target fun c => c.addStatus s value)
  | .set field => r.overwrite target field value

/-- Carry out an effect as often as it says, if its guard lets it.  Guard and
count are read once, before the first time; the number is worked out anew each
time. -/
def apply (effect : Effect) (r : Resolution) : Except Fault Resolution :=
  if r.game.allows r.scope effect.condition then
    repeatTimes (perform effect) (r.game.effectHits r.scope effect) r
  else .ok r

/-- Carry out effects in order, up to the first fault. -/
def applyAll : List Effect → Resolution → Except Fault Resolution
  | [], r => .ok r
  | effect :: rest, r =>
      match apply effect r with
      | .ok r => applyAll rest r
      | .error fault => .error fault

/-- Spend the stacks that made hits critical, once the card has damaged the
other side. -/
def settleCrits (r : Resolution) : Resolution :=
  if r.scope.causedDamage then
    r.update r.active fun c =>
      let rest := c.spend .crit
      if r.scope.tribe = .fire then rest.spend .tempFireCrit else rest
  else r

/-- Carry out the lines of a card as often as it says.  A card without lines has
nothing to repeat. -/
def activate (card : Card) (r : Resolution) : Except Fault Resolution :=
  if card.effects.isEmpty then .ok r
  else repeatTimes (applyAll card.effects) (r.game.activations r.scope card) r

end Resolution

namespace Game

/-- A scope over the record. -/
def resolution (g : Game) (scope : Scope) : Resolution := ⟨g, scope⟩

/-- Resolve a card for the side whose turn it is, with all that happens in it. -/
def resolveCard (g : Game) (card : Card) : Except Fault (Game × List BattleEvent) :=
  match (g.resolution (.ofCard g.active card)).activate card with
  | .ok r => .ok (r.settleCrits.game, r.settleCrits.scope.events.toList)
  | .error fault => .error fault

end Game

end CardBattle
