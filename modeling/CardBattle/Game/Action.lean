/-
Module: CardBattle.Game.Action
Purpose: Everything that can be asked of a run, as one step function.
Main exports:
  Action, Reply, Game.perform
-/
import CardBattle.Game.Piles
import CardBattle.Game.Run
import CardBattle.Game.Turn

namespace CardBattle

/-- A request to a run. -/
inductive Action where
  | startBattle
  | endBattle
  | startTurn
  | playCard
  | consumeExtraPlay
  | endTurn
  | runTurn
  | runBattle (maxTurns : Nat)
  | addCard (side : Side) (card : Card)
  | removeCard (card : CardId)
  | chainCards (first second : CardId)
  | unlinkCard (card : CardId)
  | addRelic (side : Side) (relic : Relic)
  | loadOpponent (enemy : Enemy)
  | discardCurrent (side : Side)
  | trashCurrent (side : Side)
  | trashNext (side : Side)
  | shuffleDeck (side : Side)
  /-- Go back to an earlier record. -/
  | rewind (snapshot : Game)
  | resetRun

/-- What a request is answered with. -/
inductive Reply where
  | done
  | happened (events : List BattleEvent)
  | played (report : PlayReport)
  /-- The result of a battle, absent while it is undecided. -/
  | fought (result : Option BattleResult)
  /-- The number of a new card. -/
  | acquired (card : CardId)
  /-- A card that has left the run. -/
  | removed (card : Card)
deriving DecidableEq

namespace Game

/-- Carry out a request.  A fault leaves no new record, so the old one stands. -/
def perform (g : Game) : Action → Except Fault (Game × Reply)
  | .startBattle => g.startBattle.map fun (next, events) => (next, .happened events)
  | .endBattle => g.endBattle.map fun (next, result) => (next, .fought (some result))
  | .startTurn => g.startTurn.map fun (next, events) => (next, .happened events)
  | .playCard => g.playCard.map fun (next, report) => (next, .played report)
  | .consumeExtraPlay => g.consumeExtraPlay.map fun next => (next, .done)
  | .endTurn => g.endTurn.map fun (next, events) => (next, .happened events)
  | .runTurn => g.runTurn.map fun (next, events) => (next, .happened events)
  | .runBattle maxTurns => (g.runBattle maxTurns).map fun (next, result) => (next, .fought result)
  | .addCard side card =>
      let (next, id) := g.addCard side card
      .ok (next, .acquired id)
  | .removeCard id => (g.removeCard id).map fun (next, card) => (next, .removed card)
  | .chainCards first second => (g.chainCards first second).map fun next => (next, .done)
  | .unlinkCard id => (g.unlinkCard id).map fun next => (next, .done)
  | .addRelic side relic => .ok (g.addRelic side relic, .done)
  | .loadOpponent enemy => (g.loadOpponent enemy).map fun next => (next, .done)
  | .discardCurrent side =>
      let (next, events) := g.discardCurrent side
      .ok (next, .happened events)
  | .trashCurrent side =>
      let (next, events) := g.trashCurrent side
      .ok (next, .happened events)
  | .trashNext side =>
      let (next, events) := g.trashNext side
      .ok (next, .happened events)
  | .shuffleDeck side =>
      let (next, events) := g.shuffleDeck side
      .ok (next, .happened events)
  | .rewind snapshot =>
      let (next, events) := g.rewind snapshot
      .ok (next, .happened events)
  | .resetRun => .ok (g.resetRun, .done)

end Game

end CardBattle
