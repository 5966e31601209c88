/-
Module: CardBattle.Effect.Quantity
Purpose: Numbers as card texts describe them: fixed, or read off a combatant.
Main exports:
  Target, Target.resolve, Field, Field.isWritable, Quantity, Quantity.scale
-/
import CardBattle.Binary64.Arithmetic
import CardBattle.Card.Id
import CardBattle.Side
import CardBattle.Status

namespace CardBattle

/-- Whom a description means, seen from the combatant whose card resolves. -/
inductive Target where
  | own
  | opponent
deriving Repr, DecidableEq

namespace Target

/-- Written name. -/
def name : Target → String
  | own => "Own"
  | opponent => "Opponent"

instance : Named Target where
  all := [own, opponent]
  name := name
  find_name := fun a => by cases a <;> rfl

/-- Card texts mean the other side unless they say otherwise. -/
instance : Inhabited Target := ⟨opponent⟩

/-- The party meant while a card of `active` resolves. -/
def resolve (active : Side) : Target → Side
  | own => active
  | opponent => active.other

/-- Own and other side are meant from where the active side sits, so they change
places with it. -/
theorem resolve_other (active : Side) (target : Target) :
    target.resolve active.other = (target.resolve active).other := by
  cases target <;> rfl

end Target

/-- A number that can be read off a combatant.  Some are stored, and card
effects may overwrite them; the others are worked out when they are read. -/
inductive Field where
  | health
  | startingHealth
  | maxHealth
  | status (status : Status)
  | cardsPlayedThisTurn
  | damageThisTurn
  | damageLastTurn
  /-- Cards in the deck. -/
  | deckSize
  /-- Cards in the trashed pile. -/
  | trashSize
  /-- Relics owned. -/
  | relicCount
  /-- Full rounds of two turns that have passed. -/
  | turns
  /-- Percentage of the deck that is in a tribe. -/
  | tribeShare (tribe : Tribe)
  /-- One if the card played before is in a tribe, else zero. -/
  | previousTribe (tribe : Tribe)
  /-- Damage taken so far while the current card resolves. -/
  | damageThisCard
deriving Repr, DecidableEq

namespace Field

/-- Written name, without the status or tribe that goes with it. -/
def label : Field → String
  | health => "Health"
  | startingHealth => "StartingHealth"
  | maxHealth => "MaxHealth"
  | status _ => "Status"
  | cardsPlayedThisTurn => "CardsPlayedThisTurn"
  | damageThisTurn => "DamageThisTurn"
  | damageLastTurn => "DamageLastTurn"
  | deckSize => "DeckSize"
  | trashSize => "TrashSize"
  | relicCount => "RelicCount"
  | turns => "Turns"
  | tribeShare _ => "TribeShare"
  | previousTribe _ => "PreviousTribe"
  | damageThisCard => "DamageThisCard"

instance : ToString Field where
  toString
    | status s => s!"Status({s.name})"
    | tribeShare tribe => s!"TribeShare({tribe})"
    | previousTribe tribe => s!"PreviousTribe({tribe})"
    | plain => plain.label

/-- Whether card effects may overwrite the field. -/
def isWritable : Field → Bool
  | health | startingHealth | maxHealth | status _ | cardsPlayedThisTurn | damageThisTurn
  | damageLastTurn => true
  | deckSize | trashSize | relicCount | turns | tribeShare _ | previousTribe _
  | damageThisCard => false

/-- Whether the field keeps fractions. -/
def isFractional : Field → Bool
  | status s => s.isFractional
  | _ => false

end Field

/-- A number as a card text describes it. -/
inductive Quantity where
  /-- A fixed number. -/
  | literal (number : Binary64)
  /-- A field of a combatant, times the multiplier if there is one. -/
  | field (target : Target) (field : Field) (multiplier : Option Binary64)
deriving DecidableEq

namespace Quantity

/-- The same description, scaled by a factor. -/
def scale (factor : Binary64) : Quantity → Quantity
  | literal number => literal (number * factor)
  | field target f multiplier => field target f (some (multiplier.getD 1 * factor))

end Quantity

end CardBattle
