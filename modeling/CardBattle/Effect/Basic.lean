/-
Module: CardBattle.Effect.Basic
Purpose: One line of a card: whom it meets, what it does, and with what number.
Main exports:
  EffectKind, Effect, Effect.damage, Effect.heal, Effect.trash, Effect.giveStatus, Effect.assign
-/
import CardBattle.Effect.Condition

namespace CardBattle

/-- What an effect does with its number. -/
inductive EffectKind where
  /-- Reduce health, with everything that belongs to a hit. -/
  | damage
  /-- Restore health. -/
  | heal
  /-- Announced only; the rules give it no consequence. -/
  | trash
  /-- Add to a counter. -/
  | status (status : Status)
  /-- Overwrite a field. -/
  | set (field : Field)
deriving Repr, DecidableEq

/-- One line of a card.  The number is the base value plus `add`, times
`multiply`; the line is carried out `hits` times, once when that is absent, and
not at all when its guard fails. -/
structure Effect where
  target : Target
  kind : EffectKind
  value : Quantity
  add : Option Modifier := none
  multiply : Option Modifier := none
  hits : Option Quantity := none
  condition : Option Condition := none
deriving DecidableEq

namespace Effect

/-- Damage the other side. -/
def damage (amount : Binary64) : Effect :=
  { target := .opponent, kind := .damage, value := .literal amount }

/-- Heal oneself. -/
def heal (amount : Binary64) : Effect :=
  { target := .own, kind := .heal, value := .literal amount }

/-- Announce that cards of the other side are trashed. -/
def trash (count : Binary64) : Effect :=
  { target := .opponent, kind := .trash, value := .literal count }

/-- Add to one of one's own counters. -/
def giveStatus (status : Status) (amount : Binary64) : Effect :=
  { target := .own, kind := .status status, value := .literal amount }

/-- Overwrite one of one's own fields. -/
def assign (field : Field) (value : Binary64) : Effect :=
  { target := .own, kind := .set field, value := .literal value }

end Effect

end CardBattle
