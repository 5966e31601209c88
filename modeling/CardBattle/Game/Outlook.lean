/-
Module: CardBattle.Game.Outlook
Purpose: Questions about the record of a run that change nothing.
Main exports:
  Game.winner?, Game.isBattleOver, Game.isGameOver, PickAction, Game.nextPick, Game.relic?
-/
import CardBattle.Game.Basic

namespace CardBattle

/-- What the user may do between two battles. -/
inductive PickAction where
  | addCard
  | removeCard
  | addRelic
  | chainCards
deriving Repr, DecidableEq

/-- Written name. -/
def PickAction.name : PickAction → String
  | .addCard => "AddCard"
  | .removeCard => "RemoveCard"
  | .addRelic => "AddRelic"
  | .chainCards => "ChainCards"

instance : Named PickAction where
  all := [.addCard, .removeCard, .addRelic, .chainCards]
  name := PickAction.name
  find_name := fun a => by cases a <;> rfl

namespace Game

/-- The side that has won the battle, if it is decided.  A user without health
loses even when the opponent has none either. -/
def winner? (g : Game) : Option Side :=
  if (g.combatant .user).isDefeated then some .opponent
  else if (g.combatant .opponent).isDefeated then some .user
  else none

/-- Whether a side has no health left. -/
def isBattleOver (g : Game) : Bool := g.winner?.isSome

/-- Whether the run is finished, by losses or by wins. -/
def isGameOver (g : Game) : Bool :=
  g.rules.maxLosses ≤ g.losses || g.rules.winsToClear ≤ g.wins

/-- What the user may do next: a new card after an even number of battles, and
the three other actions in turn after the odd ones. -/
def nextPick (g : Game) : PickAction :=
  if g.rounds % 2 = 0 then .addCard
  else
    match g.rounds / 2 % 3 with
    | 0 => .removeCard
    | 1 => .addRelic
    | _ => .chainCards

/-- The relic of a side with that title. -/
def relic? (g : Game) (side : Side) (title : String) : Option Relic :=
  (RelicKind.ofTitle? title).bind (g.combatant side).relic?

end Game

end CardBattle
