/-
Module: CardBattle.Combatant
Purpose: What one party brings into a battle: health, counters, deck, trashed pile and relics.
Main exports:
  Combatant, Combatant.withHealth, Combatant.status, Combatant.setStatus, Combatant.addStatus,
  Combatant.wholeStacks, Combatant.spend?, Combatant.currentCard?, Combatant.advanceCursor,
  Combatant.removeAt, Combatant.trashAt, Combatant.resetForBattle
-/
import CardBattle.Card.Id
import CardBattle.Fault
import CardBattle.Relic

namespace CardBattle

/-- One party of a battle.  Health, cursor and counters last for a battle; deck,
trashed pile and relics last for the run. -/
structure Combatant where
  health : Int
  /-- Health at the start of every battle. -/
  startingHealth : Int
  /-- Upper health that card texts may refer to. -/
  maxHealth : Int
  deck : List CardId
  /-- Cards out of play for the rest of the run. -/
  trashed : List CardId
  relics : List Relic
  /-- Place in the deck of the next card to play. -/
  cursor : Nat
  cardsPlayedThisTurn : Nat
  /-- Damage dealt to the other side in this turn. -/
  damageThisTurn : Int
  /-- Damage dealt to the other side in the turn before. -/
  damageLastTurn : Int
  /-- The card played before. -/
  previousCard : Option CardId
  /-- Counters; one that is not stored is zero. -/
  statuses : OrderedMap Status Binary64
deriving DecidableEq

namespace Combatant

/-- A combatant at full health without any belongings. -/
def withHealth (health : Int) : Combatant where
  health := health
  startingHealth := health
  maxHealth := health
  deck := []
  trashed := []
  relics := []
  cursor := 0
  cardsPlayedThisTurn := 0
  damageThisTurn := 0
  damageLastTurn := 0
  previousCard := none
  statuses := .empty

/-! ### Counters -/

/-- Value of a counter. -/
def status (c : Combatant) (s : Status) : Binary64 := (c.statuses.find? s).getD 0

/-- Whole stacks of a counter. -/
def wholeStacks (c : Combatant) (s : Status) : Int := (c.status s).floorWord

/-- Whether there is any of a counter. -/
def has (c : Combatant) (s : Status) : Bool := 0 < c.status s

/-- The value that is stored when a counter is set: whole unless the counter is
a share, and never below zero. -/
def storable (s : Status) (value : Binary64) : Binary64 :=
  (if s.isFractional then value else value.floor).positivePart

/-- Set a counter; a zero is not stored. -/
def setStatus (c : Combatant) (s : Status) (value : Binary64) : Combatant :=
  let stored := storable s value
  if stored.equals 0 then { c with statuses := c.statuses.erase s }
  else { c with statuses := c.statuses.insert s stored }

/-- Add to a counter, down to zero when the addend is negative. -/
def addStatus (c : Combatant) (s : Status) (addend : Binary64) : Combatant :=
  c.setStatus s (c.status s + addend)

/-- Spend one stack of a counter, if there is a whole one. -/
def spend? (c : Combatant) (s : Status) : Option Combatant :=
  if 1 ≤ c.status s then some (c.addStatus s (-1)) else none

/-- Spend one stack of a counter if there is a whole one, and nothing otherwise. -/
def spend (c : Combatant) (s : Status) : Combatant := (c.spend? s).getD c

/-- Drop the counters that last until the owner's next turn. -/
def clearTemporary (c : Combatant) : Combatant :=
  { c with statuses := c.statuses.filter fun s => !s.isTemporary }

/-! ### Deck and cursor -/

/-- The card under the cursor. -/
def currentCard? (c : Combatant) : Option CardId := c.deck[c.cursor]?

/-- Move the cursor to the next card, and from the last card to the first. -/
def advanceCursor (c : Combatant) : Combatant :=
  { c with cursor := if c.deck.isEmpty then 0 else (c.cursor + 1) % c.deck.length }

/-- Move a cursor that is outside the deck to its first card. -/
def fixCursor (c : Combatant) : Combatant :=
  { c with cursor := if c.deck.length ≤ c.cursor then 0 else c.cursor }

/-- Take out the card at a place of the deck.  The cursor stays on its card; if
that card is the one taken out, the cursor is then on the card that followed. -/
def dropAt (c : Combatant) (index : Nat) : Combatant :=
  fixCursor
    { c with
      deck := c.deck.eraseIdx index
      cursor := if index < c.cursor then c.cursor - 1 else c.cursor }

/-- Take out the card at a place of the deck, and say which it was. -/
def removeAt (c : Combatant) (index : Nat) : Except Fault (CardId × Combatant) :=
  match c.deck[index]? with
  | some card => .ok (card, c.dropAt index)
  | none => .error (.outsideDeck index)

/-- Move a card from its place in the deck to the trashed pile. -/
def trashAt (c : Combatant) (index : Nat) (card : CardId) : Combatant :=
  { c.dropAt index with trashed := c.trashed ++ [card] }

/-- Place of a card in the deck. -/
def deckPosition? (c : Combatant) (card : CardId) : Option Nat := c.deck.idxOf? card

/-! ### Relics and life cycle -/

/-- The first relic of a kind. -/
def relic? (c : Combatant) (kind : RelicKind) : Option Relic :=
  c.relics.find? fun relic => relic.kind = kind

/-- Whether there is no health left. -/
def isDefeated (c : Combatant) : Bool := c.health ≤ 0

/-- Forget everything that lasts for one battle. -/
def resetForBattle (c : Combatant) : Combatant :=
  { c with
    health := c.startingHealth
    cursor := 0
    cardsPlayedThisTurn := 0
    damageThisTurn := 0
    damageLastTurn := 0
    previousCard := none
    statuses := .empty }

end Combatant

end CardBattle
