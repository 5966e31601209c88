/-
Module: CardBattle.Proofs.Game.Replay
Purpose: A run that is started anew goes like one that has just begun.
Main exports:
  Disguise.renumber, Game.resetRun_eq_shift, Game.reset_run_replays_fresh_run
-/
import CardBattle.Proofs.Game.Disguise

/-!
# Runs that are started anew

Nothing of a run is left when it is started anew but two counters: the dice go on in their stream,
and cards are numbered on.  So the record is a fresh one in disguise, and whatever is asked of it
from then on is answered as a fresh record with those dice answers it.
-/

namespace CardBattle

/-- The disguise that only renumbers cards. -/
def Disguise.renumber (gap : Nat) : Disguise := ⟨gap, id, id⟩

/-- Renumbering matters to no request but going back to a record that has not
been renumbered. -/
theorem Disguise.renumber_suits (gap : Nat) {action : Action}
    (onward : ∀ snapshot, action ≠ .rewind snapshot) : (renumber gap).Suits action := by
  cases action with
  | runTurn => rfl
  | runBattle maxTurns => rfl
  | shuffleDeck side => rfl
  | addRelic side relic => exact .inl rfl
  | loadOpponent enemy => exact .inl rfl
  | rewind snapshot => exact absurd rfl (onward snapshot)
  | _ => trivial

namespace Game

/-- A record with empty piles and no cards is renumbered by counting on.  So a
reset run is a fresh one under a gap and with other dice. -/
theorem resetRun_eq_shift (g : Game) (seed : UInt64) :
    g.resetRun = { fresh g.rules seed with dice := g.dice }.shift g.pool.nextNumber := by
  have pool : CardPool.empty.shift g.pool.nextNumber = g.pool.clear := by
    rw [CardPool.shift, CardPool.empty, Nat.zero_add]
    rfl
  rw [shift]
  dsimp only [fresh]
  rw [pool]
  rfl

/-- A run that is started anew has a fresh record, but for the dice, which stay
where they are in their stream, and the number that the next card gets.  From
there on, requests in a row that name cards by numbers further on by so much are
answered, told of and refused as by a fresh record with those dice, but for the
numbers of cards, and they lead to the same record but for those numbers. -/
theorem reset_run_replays_fresh_run (g : Game) (seed : UInt64) :
    g.resetRun = { fresh g.rules seed with
      dice := g.dice, pool := { CardPool.empty with nextNumber := g.pool.nextNumber } } ∧
    ∀ actions : List Action, (∀ action ∈ actions, ∀ snapshot, action ≠ .rewind snapshot) →
      g.resetRun.answers (actions.map (Action.shift g.pool.nextNumber)) =
          ({ fresh g.rules seed with dice := g.dice }.answers actions).map
            (Fault.carry g.pool.nextNumber (Reply.shift g.pool.nextNumber)) ∧
        (actions.map (Action.shift g.pool.nextNumber)).foldl after g.resetRun =
          (actions.foldl after { fresh g.rules seed with dice := g.dice }).shift
            g.pool.nextNumber := by
  refine ⟨rfl, fun actions onward => ?_⟩
  have disguised : ∀ h : Game,
      h.disguise (.renumber g.pool.nextNumber) = h.shift g.pool.nextNumber := fun _ => rfl
  rw [resetRun_eq_shift g seed, ← disguised, ← disguised]
  exact answers_disguise (.inl rfl) fun action mem =>
    Disguise.renumber_suits _ (onward action mem)

/-- A run with three cards that is given up in the middle of a battle. -/
def abandoned : Game :=
  [.addCard .user (.plain "Block"), .addCard .user (.plain "Block"),
    .addCard .opponent (.plain "Block"), .startBattle, .playCard].foldl after (.fresh .standard 7)

/-- In the next run the first two cards are linked, and would be linked the
other way around. -/
theorem abandoned_replays :
    abandoned.resetRun.answers
        [.addCard .user (.plain "Left"), .addCard .user (.plain "Right"), .chainCards ⟨3⟩ ⟨4⟩,
          .chainCards ⟨4⟩ ⟨3⟩, .startBattle, .playCard] =
      [.ok (.acquired ⟨3⟩), .ok (.acquired ⟨4⟩), .ok .done, .error (.badLink (.cycle ⟨4⟩ ⟨3⟩)),
        .ok (.happened [.battleStarted]),
        .ok (.played
          ⟨.turnEnded, [.turnStarted .user 0, .cardPlayed .user ⟨3⟩, .turnEnded .user]⟩)] := by
  obtain ⟨-, replays⟩ := reset_run_replays_fresh_run abandoned 7
  obtain ⟨answers, -⟩ := replays
    [.addCard .user (.plain "Left"), .addCard .user (.plain "Right"), .chainCards ⟨0⟩ ⟨1⟩,
      .chainCards ⟨1⟩ ⟨0⟩, .startBattle, .playCard] (by simp)
  have three : abandoned.pool.nextNumber = 3 := by decide +kernel
  rw [three] at answers
  refine answers.trans ?_
  decide +kernel

end Game

end CardBattle
