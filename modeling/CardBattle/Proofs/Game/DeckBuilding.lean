/-
Module: CardBattle.Proofs.Game.DeckBuilding
Purpose: What each request about cards and links comes to when it is not refused.
Main exports:
  Game.of_removeCard_eq_ok, Game.chainCards_eq_ok_iff, Game.of_unlinkCard_eq_ok,
  Game.of_loadOpponent_eq_ok, Game.fst_shuffleDeck
-/
import CardBattle.Game.Piles
import CardBattle.Proofs.Cards.Pool
import CardBattle.Proofs.Game.Table

/-!
# Building decks

Every request about cards and links is a change of the pool, or of the dice, together with a change
of one combatant.  The lemmas here say so once for each of them, and with what the request has
checked before; what such a request keeps is then seen without looking into it again.
-/

namespace CardBattle.Game

variable {g next : Game}

/-- A card that is removed leaves the pool, and the piles of its owner forget
it. -/
theorem of_removeCard_eq_ok {id : CardId} {card : Card}
    (ok : g.removeCard id = .ok (next, card)) :
    ∃ owner, g.pool.owner? id = some owner ∧
      next = { g with pool := g.pool.erase id }.updateCombatant owner fun c => c.forget id := by
  unfold removeCard at ok
  split at ok
  · cases ok
  · rename_i owner found
    cases ok
    have owned : g.pool.owner? id = some owner := by simp [CardPool.owner?, found]
    exact ⟨owner, owned, rfl⟩

/-- Two cards are chained when they have one owner and the links take one more.
The owner's deck is then put together along all of them. -/
theorem chainCards_eq_ok_iff {first second : CardId} :
    g.chainCards first second = .ok next ↔
      ∃ owner chains, g.pool.owner? first = some owner ∧ g.pool.owner? second = some owner ∧
        g.pool.chains.link first second = .ok chains ∧
        next = { g with pool := { g.pool with chains := chains } }.rearrange owner := by
  constructor
  · intro ok
    unfold chainCards at ok
    split at ok
    · cases ok
    · rename_i made
      obtain ⟨owner, chains, one, two, fits, rfl⟩ := CardPool.of_link_eq_ok made
      have same : CardPool.owner? { g.pool with chains := chains } first = some owner := one
      simp only [same] at ok
      exact ⟨owner, chains, one, two, fits, (Except.ok.inj ok).symm⟩
  · rintro ⟨owner, chains, one, two, fits, rfl⟩
    have made : g.pool.link first second = .ok { g.pool with chains := chains } := by
      simp [CardPool.link, one, two, fits]
    have same : CardPool.owner? { g.pool with chains := chains } first = some owner := one
    simp only [chainCards, made, same]

/-- Unlinking a card changes nothing but the links; the deck keeps its order. -/
theorem of_unlinkCard_eq_ok {id : CardId} (ok : g.unlinkCard id = .ok next) :
    next = { g with pool := { g.pool with chains := g.pool.chains.unlink id } } := by
  unfold unlinkCard at ok
  split at ok
  · rename_i unlinked
    cases ok
    rw [CardPool.of_unlink_eq_ok unlinked]
  · cases ok

/-- An enemy takes the opponent's place between battles: the cards of the one
before leave the pool, and its own are added one by one. -/
theorem of_loadOpponent_eq_ok {enemy : Enemy} (ok : g.loadOpponent enemy = .ok next) :
    g.phase = .idle ∧
      next = ((g.updateCombatant .opponent fun c => c.become enemy).discardFromPool
        ((g.combatant .opponent).deck ++ (g.combatant .opponent).trashed)).addCards .opponent
          enemy.cards := by
  unfold loadOpponent at ok
  split at ok
  · rename_i waiting
    exact ⟨waiting, (Except.ok.inj ok).symm⟩
  · cases ok

/-- Laying a shuffled deck out, putting its chains together and going to the
first card are one change of its side. -/
theorem fst_shuffleDeck (g : Game) (side : Side) :
    (g.shuffleDeck side).1 =
      { g with dice := (g.dice.shuffle (g.combatant side).deck).2 }.updateCombatant side fun c =>
        { c with
          deck := g.pool.chains.arrange (g.dice.shuffle (g.combatant side).deck).1
          cursor := 0 } := by
  unfold shuffleDeck rearrange
  dsimp only
  rw [updateCombatant_updateCombatant, updateCombatant_updateCombatant]
  rfl

end CardBattle.Game
