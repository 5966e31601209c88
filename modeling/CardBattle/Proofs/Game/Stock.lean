/-
Module: CardBattle.Proofs.Game.Stock
Purpose: What all cards of a run have in common, if the cards that are brought into it have it.
Main exports:
  Game.Stocks, Game.stocks_kept
-/
import CardBattle.Proofs.Game.Standing
import CardBattle.Proofs.Cards.Pool

namespace CardBattle.Game

variable {good : Card → Prop} {g : Game}

/-- All cards of the run have a property. -/
def Stocks (good : Card → Prop) (g : Game) : Prop := g.pool.All good

namespace Stocks

theorem addCard (stocks : g.Stocks good) {card : Card} (fits : good card) (side : Side) :
    (g.addCard side card).1.Stocks good :=
  CardPool.All.insert stocks fits side

theorem addCards (stocks : g.Stocks good) {cards : List Card} (fit : ∀ card ∈ cards, good card)
    (side : Side) : (g.addCards side cards).Stocks good := by
  induction cards generalizing g with
  | nil => exact stocks
  | cons card rest ih =>
      have added := stocks.addCard (fit card (List.mem_cons_self ..)) side
      exact ih added fun other mem => fit other (List.mem_cons_of_mem _ mem)

theorem removeCard (stocks : g.Stocks good) {next : Game} {id : CardId} {card : Card}
    (ok : g.removeCard id = .ok (next, card)) : next.Stocks good := by
  obtain ⟨owner, -, rfl⟩ := of_removeCard_eq_ok ok
  exact CardPool.All.erase stocks id

theorem chainCards (stocks : g.Stocks good) {next : Game} {first second : CardId}
    (ok : g.chainCards first second = .ok next) : next.Stocks good := by
  obtain ⟨owner, chains, -, -, -, rfl⟩ := chainCards_eq_ok_iff.mp ok
  exact stocks

theorem unlinkCard (stocks : g.Stocks good) {next : Game} {id : CardId}
    (ok : g.unlinkCard id = .ok next) : next.Stocks good := by
  obtain rfl := of_unlinkCard_eq_ok ok
  exact stocks

/-- The enemy's cards have to have the property; those of the enemy before it
need not be looked at. -/
theorem loadOpponent (stocks : g.Stocks good) {next : Game} {enemy : Enemy}
    (fit : ∀ card ∈ enemy.cards, good card) (ok : g.loadOpponent enemy = .ok next) :
    next.Stocks good := by
  obtain ⟨-, rfl⟩ := of_loadOpponent_eq_ok ok
  refine addCards ?_ fit .opponent
  exact CardPool.All.eraseAll stocks _

theorem discardCurrent (stocks : g.Stocks good) (side : Side) :
    (g.discardCurrent side).1.Stocks good := by
  unfold Game.discardCurrent
  split <;> exact stocks

theorem trashAt (stocks : g.Stocks good) (side : Side) (index : Nat) :
    (g.trashAt side index).1.Stocks good := by
  unfold Game.trashAt
  split <;> exact stocks

end Stocks

/-- Requests that bring in only cards with a property keep it common to all
cards. -/
theorem stocks_kept {fair : Action → Prop}
    (added : ∀ side card, fair (.addCard side card) → good card)
    (loaded : ∀ enemy, fair (.loadOpponent enemy) → ∀ card ∈ enemy.cards, good card) :
    KeptBy fair (Stocks good) where
  startBattle stocks ok := by
    rw [Stocks, pool_startBattle ok]
    exact stocks
  endBattle stocks ok := by
    rw [Stocks, (of_endBattle_eq_ok ok).2.1]
    exact stocks
  startTurn stocks ok := by
    obtain ⟨-, c, told, rfl, -, -⟩ := of_startTurn_eq_ok ok
    exact stocks
  playCard stocks ok := by
    rw [Stocks, (playCard_played ok).2.frame.1]
    exact stocks
  consumeExtraPlay stocks ok := by
    rw [of_consumeExtraPlay_eq_ok ok]
    exact stocks
  endTurn stocks ok := by
    obtain ⟨-, rfl, -⟩ := of_endTurn_eq_ok ok
    exact stocks
  addCard allowed stocks := stocks.addCard (added _ _ allowed) _
  removeCard stocks ok := stocks.removeCard ok
  chainCards stocks ok := stocks.chainCards ok
  unlinkCard stocks ok := stocks.unlinkCard ok
  addRelic _ stocks := stocks
  loadOpponent allowed stocks ok := stocks.loadOpponent (loaded _ allowed) ok
  discardCurrent side stocks := stocks.discardCurrent side
  trashAt side index stocks := stocks.trashAt side index
  shuffleDeck _ stocks := stocks
  resetRun _ := CardPool.All.clear _

end CardBattle.Game
