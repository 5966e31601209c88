/-
Module: CardBattle.Game.Battle
Purpose: How battles begin and end.
Main exports:
  BattleResult, Game.startBattle, Game.endBattle
-/
import CardBattle.Event
import CardBattle.Game.Outlook
import CardBattle.Resolution.Relics

namespace CardBattle

/-- What is reported when a battle is closed. -/
structure BattleResult where
  winner : Side
  /-- Wins of the run, this battle included. -/
  wins : Nat
  /-- Losses of the run, this battle included. -/
  losses : Nat
  events : List BattleEvent
deriving Repr, DecidableEq

namespace Game

/-- Let a side's relics cut the other side open, if they do. -/
def openWounds (g : Game) (side : Side) : Game :=
  let bleed := (g.combatant side).openingBleed
  if 0 < bleed then g.updateCombatant side.other fun c => c.addStatus .bleed bleed else g

/-- Begin a battle; relics that act at its start do so, the user's first. -/
def startBattle (g : Game) : Except Fault (Game × List BattleEvent) :=
  if g.phase = .idle then
    let begun := { g with phase := .active, turnPhase := .start }.setTurn 0
    .ok ((begun.openWounds .user).openWounds .opponent, [.battleStarted])
  else .error .battleRunning

/-- The record with one more battle on the winner's side of the score. -/
def score (g : Game) : Side → Game
  | .user => { g with wins := g.wins + 1 }
  | .opponent => { g with losses := g.losses + 1 }

/-- Close a decided battle.  Decks, trashed piles and relics stay. -/
def endBattle (g : Game) : Except Fault (Game × BattleResult) :=
  match g.winner? with
  | none => .error .battleUndecided
  | some winner =>
      let scored := g.score winner
      let closed :=
        { scored with
          phase := .idle
          turnPhase := .start
          combatants := scored.combatants.map Combatant.resetForBattle }.setTurn 0
      .ok (closed, ⟨winner, closed.wins, closed.losses, [.battleEnded winner]⟩)

end Game

end CardBattle
