/-
Module: CardBattle.Proofs.Game.Removal
Purpose: A card that is removed leaves no trace in the run, and everything else stays as it was.
Main exports:
  Combatant.forget_eq, Game.removeCard_eq_ok, Game.Erases, Game.Tidy.erases,
  Game.Reachable.removeCard_erases
-/
import CardBattle.Proofs.Game.Rotation

/-!
# Removing a card

Removing a card writes to four places: the pool, the links of its neighbours, and the two piles of its
owner together with the cursor.  That no trace of the card is left need not be looked up in each of
them.  The record is tidy afterwards, so it mentions only cards that are stored.
-/

namespace CardBattle

/-- Forgetting a card moves the piles and the cursor, and nothing else of the
combatant. -/
theorem Combatant.forget_eq (c : Combatant) (id : CardId) :
    c.forget id =
      { c with
        deck := (c.forget id).deck
        trashed := (c.forget id).trashed
        cursor := (c.forget id).cursor } := by
  unfold forget
  split <;> rfl

namespace Game

/-- Whoever owns a stored card, it can be removed in any phase, and this is the
record that it leaves. -/
theorem removeCard_eq_ok {g : Game} {id : CardId} {card : Card} {owner : Side}
    (stored : g.pool.cards.find? id = some ⟨card, owner⟩) :
    g.removeCard id =
      .ok ({ g with pool := g.pool.erase id }.updateCombatant owner fun c => c.forget id, card) := by
  rw [removeCard, stored]

/-- One card of a side has been erased from a record, and only that card. -/
structure Erases (g : Game) (id : CardId) (owner : Side) (next : Game) : Prop where
  /-- The card is in no deck, in no trashed pile, not stored, and at no end of a link. -/
  gone : ¬ next.Mentions id
  stored : ∀ other, other ≠ id → next.pool.cards.find? other = g.pool.cards.find? other
  nextLinks : ∀ first second, next.pool.chains.successor? first = some second ↔
    g.pool.chains.successor? first = some second ∧ first ≠ id ∧ second ≠ id
  prevLinks : ∀ first second, next.pool.chains.predecessor? second = some first ↔
    g.pool.chains.predecessor? second = some first ∧ first ≠ id ∧ second ≠ id
  deck : (next.combatant owner).deck = (g.combatant owner).deck.filter fun other => other ≠ id
  trashed : (next.combatant owner).trashed =
    (g.combatant owner).trashed.filter fun other => other ≠ id
  /-- The cursor is on the card on which it was, or on the one after it if that is the one that is
  gone. -/
  current : (next.combatant owner).currentCard? =
    if (g.combatant owner).currentCard? = some id then (g.combatant owner).cardAfter?
    else (g.combatant owner).currentCard?
  /-- Of the owner nothing but its piles and its cursor changes. -/
  own : next.combatant owner =
    { g.combatant owner with
      deck := (next.combatant owner).deck
      trashed := (next.combatant owner).trashed
      cursor := (next.combatant owner).cursor }
  other : next.combatant owner.other = g.combatant owner.other
  /-- Of the record nothing but the pool and the combatants changes. -/
  record : next = { g with pool := next.pool, combatants := next.combatants }
  numbers : next.pool.nextNumber = g.pool.nextNumber

variable {g : Game} {id : CardId} {card : Card} {owner : Side}

/-- Where both cursors fit, removing a card from a tidy record erases it from
the pool, the links and the piles at once. -/
theorem Tidy.erases (tidy : g.Tidy) (fit : g.CursorsFit)
    (stored : g.pool.cards.find? id = some ⟨card, owner⟩) :
    g.Erases id owner
      ({ g with pool := g.pool.erase id }.updateCombatant owner fun c => c.forget id) := by
  have links : (g.pool.chains.unlink id).WellFormed := tidy.sound.links.unlink id
  have distinct : (g.combatant owner).deck.Nodup := (tidy.held owner).deck_nodup
  have left : ({ g with pool := g.pool.erase id }.updateCombatant owner fun c => c.forget id).Tidy :=
    tidy.removeCard (removeCard_eq_ok stored)
  have own : ({ g with pool := g.pool.erase id }.updateCombatant owner fun c =>
      c.forget id).combatant owner = (g.combatant owner).forget id :=
    combatant_updateCombatant_self ..
  constructor
  case gone =>
    apply left.not_mentions
    show (g.pool.erase id).owner? id = none
    rw [CardPool.owner?_erase, if_pos rfl]
  case stored =>
    intro other apart
    exact OrderedMap.find?_erase_ne _ apart
  case nextLinks =>
    intro first second
    exact tidy.sound.links.follows_unlink
  case prevLinks =>
    intro first second
    show (g.pool.chains.unlink id).predecessor? second = some first ↔ _
    rw [← links.inverse, ← tidy.sound.links.inverse]
    exact tidy.sound.links.follows_unlink
  case deck => rw [own, Combatant.deck_forget distinct]
  case trashed => rw [own, Combatant.trashed_forget]
  case current => rw [own, Combatant.currentCard?_forget (fit owner) distinct]
  case own =>
    rw [own]
    exact Combatant.forget_eq ..
  case other => exact combatant_updateCombatant_other ..
  case record => rfl
  case numbers => rfl

/-- In every record of a run each stored card can be removed.  It is handed out
as it was stored, it is erased from the record, and nothing but that card is. -/
theorem Reachable.removeCard_erases (reached : g.Reachable)
    (stored : g.pool.cards.find? id = some ⟨card, owner⟩) :
    ∃ next, g.removeCard id = .ok (next, card) ∧ g.Erases id owner next :=
  ⟨_, removeCard_eq_ok stored, reached.tidy.erases reached.cursorsFit stored⟩

/-- Three cards of the user that are to be played one after the other, with the
cursor on the last of them, and one card of the opponent. -/
def fullChain : Game :=
  [.addCard .user (.plain "Spark"), .addCard .user (.plain "Flame"),
    .addCard .user (.plain "Blaze"), .addCard .opponent (.plain "Guard"), .chainCards ⟨0⟩ ⟨1⟩,
    .chainCards ⟨1⟩ ⟨2⟩, .discardCurrent .user, .discardCurrent .user].foldl after
    (.fresh .standard 7)

theorem fullChain_reachable : fullChain.Reachable :=
  (Reachable.fresh .standard 7).foldl (by simp)

/-- With the last card the cursor goes around to the first one, which is linked
to the second still. -/
theorem fullChain_loses_last :
    ∃ next, fullChain.removeCard ⟨2⟩ = .ok (next, .plain "Blaze") ∧ ¬ next.Mentions ⟨2⟩ ∧
      (next.combatant .user).deck = [⟨0⟩, ⟨1⟩] ∧
      (next.combatant .user).currentCard? = some ⟨0⟩ ∧
      next.pool.chains.successor? ⟨0⟩ = some ⟨1⟩ ∧ next.pool.chains.successor? ⟨1⟩ = none := by
  have stored : fullChain.pool.cards.find? ⟨2⟩ = some ⟨.plain "Blaze", .user⟩ := by decide +kernel
  have deck : (fullChain.combatant .user).deck = [⟨0⟩, ⟨1⟩, ⟨2⟩] := by decide +kernel
  have last : (fullChain.combatant .user).currentCard? = some ⟨2⟩ := by decide +kernel
  have first : (fullChain.combatant .user).cardAfter? = some ⟨0⟩ := by decide +kernel
  have linked : fullChain.pool.chains.successor? ⟨0⟩ = some ⟨1⟩ := by decide +kernel
  have follower : fullChain.pool.chains.successor? ⟨1⟩ = some ⟨2⟩ := by decide +kernel
  obtain ⟨next, ok, erases⟩ := Reachable.removeCard_erases fullChain_reachable stored
  refine ⟨next, ok, erases.gone, ?_, ?_, ?_, ?_⟩
  · rw [erases.deck, deck]
    rfl
  · rw [erases.current, last, if_pos rfl, first]
  · exact (erases.nextLinks ⟨0⟩ ⟨1⟩).mpr ⟨linked, by decide, by decide⟩
  · cases step : next.pool.chains.successor? ⟨1⟩ with
    | none => rfl
    | some other =>
        obtain ⟨before, -, kept⟩ := (erases.nextLinks ⟨1⟩ other).mp step
        rw [follower] at before
        exact absurd (Option.some.inj before).symm kept

end Game

end CardBattle
