/-
Module: CardBattle.Fault
Purpose: The ways in which a request breaks the rules of the game, and their wording.
Main exports:
  Fault, Fault.message, Setting, TurnStep
-/
import CardBattle.Card.Chains
import CardBattle.Effect.Quantity

namespace CardBattle

/-- A number of the rules or of an enemy that has to be positive. -/
inductive Setting where
  | startingHealth
  | opponentHealth
  | shockThreshold
  | playsPerTurn
  | enemyHealth
deriving Repr, DecidableEq

/-- A step that belongs to a running battle. -/
inductive TurnStep where
  | startTurn
  | playCard
  | endTurn
deriving Repr, DecidableEq

/-- Why a request is refused.  A refused request changes nothing. -/
inductive Fault where
  /-- A setting that has to be positive is not. -/
  | notPositive (setting : Setting)
  /-- A battle is started while another is going on. -/
  | battleRunning
  /-- A battle is closed while both sides stand. -/
  | battleUndecided
  /-- A step of a turn is asked for outside a running battle. -/
  | noBattle (step : TurnStep)
  /-- A further play is spent where none is left. -/
  | noExtraPlay
  /-- An opponent is loaded while a battle is going on. -/
  | opponentBusy
  /-- A card that does not exist, or no longer. -/
  | unknownCard (card : CardId)
  /-- A link between cards that cannot be made. -/
  | badLink (error : ChainError)
  /-- A place outside a deck. -/
  | outsideDeck (index : Nat)
  /-- An effect overwrites a field that is not stored. -/
  | derivedField (field : Field)
  /-- A chance that is no number. -/
  | invalidChance
deriving Repr, DecidableEq

namespace Fault

/-- Wording of the fault. -/
def message : Fault → String
  | notPositive .startingHealth => "Starting health must be positive"
  | notPositive .opponentHealth => "Opponent health must be positive"
  | notPositive .shockThreshold => "Shock threshold must be positive"
  | notPositive .playsPerTurn => "A turn must allow at least one play"
  | notPositive .enemyHealth => "Enemy health must be positive"
  | battleRunning => "start_battle called while a battle is running"
  | battleUndecided => "end_battle called before either combatant was defeated"
  | noBattle .startTurn => "start_turn requires an active battle"
  | noBattle .playCard => "play_card requires an active battle"
  | noBattle .endTurn => "end_turn requires an active battle"
  | noExtraPlay => "Extra-play stacks must be positive before consuming one"
  | opponentBusy => "Cannot load an opponent during a battle"
  | unknownCard card => s!"{card} does not resolve to an existing card"
  | badLink error => error.message
  | outsideDeck index => s!"Deck index {index} out of range"
  | derivedField field => s!"{field} is derived and cannot be set"
  | invalidChance => "called `Result::unwrap()` on an `Err` value: InvalidProbability"

end Fault

end CardBattle
