/-
Module: CardBattle.Game.Run
Purpose: Going back to a snapshot, and starting a run anew.
Main exports:
  Game.rewind, Game.resetRun
-/
import CardBattle.Event
import CardBattle.Game.Basic

namespace CardBattle

/-- The combatant at the start of a run, with nothing left of the run before. -/
def Combatant.renew (c : Combatant) (health : Int) : Combatant :=
  { c with
    deck := []
    trashed := []
    relics := []
    startingHealth := health
    maxHealth := health }.resetForBattle

namespace Game

/-- Go back to a snapshot.  The record is a value, so a snapshot of it is the
record itself, dice included. -/
def rewind (_now snapshot : Game) : Game × List BattleEvent := (snapshot, [.undo])

/-- Start a run anew: no cards, no relics, no score.  The dice and the numbers
of cards go on from where they were. -/
def resetRun (g : Game) : Game :=
  { g with
    combatants :=
      ⟨g.combatants.user.renew g.rules.startingHealth,
        g.combatants.opponent.renew g.rules.opponentHealth⟩
    pool := g.pool.clear
    wins := 0
    losses := 0
    phase := .idle
    turnPhase := .start }.setTurn 0

end Game

end CardBattle
