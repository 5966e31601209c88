/-
Module: CardBattle.Rules
Purpose: The numbers that the rules of a run leave open.
Main exports:
  Rules, Rules.standard, Rules.withStartingHealth, Rules.withOpponentHealth,
  Rules.withShockThreshold, Rules.withMaxPlaysPerTurn
-/
import CardBattle.Fault

namespace CardBattle

/-- Constants of a run. -/
structure Rules where
  /-- Health of the user at the start of every battle. -/
  startingHealth : Int := 20
  /-- Health of an opponent that no enemy has been loaded into. -/
  opponentHealth : Int := 20
  /-- Size of the further hit on a bleeding combatant. -/
  bleedDamage : Int := 3
  /-- Stacks of shock that become one stun. -/
  shockThreshold : Int := 5
  /-- Losses that end the run. -/
  maxLosses : Nat := 3
  /-- Wins that clear the run. -/
  winsToClear : Nat := 10
  /-- Plays after which running a turn hands control back. -/
  maxPlaysPerTurn : Nat := 64
deriving Repr, DecidableEq

namespace Rules

/-- The constants used where nothing else is chosen. -/
def standard : Rules := {}

/-- The rules with another health of the user, which has to be positive. -/
def withStartingHealth (rules : Rules) (health : Int) : Except Fault Rules :=
  if 0 < health then .ok { rules with startingHealth := health }
  else .error (.notPositive .startingHealth)

/-- The rules with another health of the opponent, which has to be positive. -/
def withOpponentHealth (rules : Rules) (health : Int) : Except Fault Rules :=
  if 0 < health then .ok { rules with opponentHealth := health }
  else .error (.notPositive .opponentHealth)

/-- The rules with another number of shock stacks for a stun, which has to be
positive. -/
def withShockThreshold (rules : Rules) (threshold : Int) : Except Fault Rules :=
  if 0 < threshold then .ok { rules with shockThreshold := threshold }
  else .error (.notPositive .shockThreshold)

/-- The rules with another number of plays at once, of which there has to be
one. -/
def withMaxPlaysPerTurn (rules : Rules) (plays : Nat) : Except Fault Rules :=
  if 0 < plays then .ok { rules with maxPlaysPerTurn := plays }
  else .error (.notPositive .playsPerTurn)

end Rules

end CardBattle
