/-
Module: CardBattle.Proofs.Game.Outfit
Purpose: What all relics of a run have in common, if the relics that are brought into it have it.
Main exports:
  Game.Wears, Game.Wears.of_relics, Game.wears_kept
-/
import CardBattle.Proofs.Game.Progress

namespace CardBattle

theorem Combatant.relics_forget (c : Combatant) (id : CardId) :
    (c.forget id).relics = c.relics := by
  unfold forget
  split
  · rfl
  · rfl

namespace Game

variable {good : Relic → Prop} {g : Game}

/-- All relics of both sides have a property. -/
def Wears (good : Relic → Prop) (g : Game) : Prop :=
  ∀ side, ∀ relic ∈ (g.combatant side).relics, good relic

namespace Wears

variable {next : Game}

/-- Only the relics count, so whatever leaves them on both sides leaves their
common property. -/
theorem of_relics (wears : g.Wears good)
    (same : ∀ side, (next.combatant side).relics = (g.combatant side).relics) :
    next.Wears good := by
  intro side relic mem
  rw [same side] at mem
  exact wears side relic mem

theorem of_table (wears : g.Wears good) (same : next.table = g.table) : next.Wears good :=
  wears.of_relics fun side => congrArg Belongings.relics (belongings_of_table same side)

/-- One side changes its relics, if at all, to others with the property. -/
theorem updateCombatant (wears : g.Wears good) {side : Side} {change : Combatant → Combatant}
    (own : ∀ relic ∈ (change (g.combatant side)).relics, good relic) :
    (g.updateCombatant side change).Wears good := by
  intro party
  rcases Side.eq_or_eq_other party side with rfl | rfl
  · rw [combatant_updateCombatant_self]
    exact own
  · rw [combatant_updateCombatant_other]
    exact wears _

/-- Beginning a battle may cut a side open, and gives it no relic. -/
theorem startBattle {events : List BattleEvent} (wears : g.Wears good)
    (ok : g.startBattle = .ok (next, events)) : next.Wears good := by
  have begun : ({ g with phase := .active, turnPhase := .start }.setTurn 0).Wears good := wears
  exact begun.of_table (of_startBattle_eq_ok ok).2.1

theorem addCards (wears : g.Wears good) (side : Side) (cards : List Card) :
    (g.addCards side cards).Wears good := by
  induction cards generalizing g with
  | nil => exact wears
  | cons card rest ih => exact ih (wears.updateCombatant (wears side))

theorem removeCard {id : CardId} {card : Card} (wears : g.Wears good)
    (ok : g.removeCard id = .ok (next, card)) : next.Wears good := by
  obtain ⟨owner, -, rfl⟩ := of_removeCard_eq_ok ok
  have rest : { g with pool := g.pool.erase id }.Wears good := wears
  apply rest.updateCombatant
  rw [Combatant.relics_forget]
  exact wears owner

theorem chainCards {first second : CardId} (wears : g.Wears good)
    (ok : g.chainCards first second = .ok next) : next.Wears good := by
  obtain ⟨owner, chains, -, -, -, rfl⟩ := chainCards_eq_ok_iff.mp ok
  have linked : { g with pool := { g.pool with chains := chains } }.Wears good := wears
  exact linked.updateCombatant (wears owner)

theorem unlinkCard {id : CardId} (wears : g.Wears good)
    (ok : g.unlinkCard id = .ok next) : next.Wears good := by
  obtain rfl := of_unlinkCard_eq_ok ok
  exact wears

/-- An enemy brings its own relics, and the opponent's old ones are gone; so the
new ones have to have the property. -/
theorem loadOpponent {enemy : Enemy} (wears : g.Wears good)
    (brought : ∀ relic ∈ enemy.relics, good relic) (ok : g.loadOpponent enemy = .ok next) :
    next.Wears good := by
  obtain ⟨-, rfl⟩ := of_loadOpponent_eq_ok ok
  refine addCards ?_ .opponent enemy.cards
  exact wears.updateCombatant brought

theorem discardCurrent (wears : g.Wears good) (side : Side) :
    (g.discardCurrent side).1.Wears good := by
  unfold Game.discardCurrent
  split
  · exact wears.updateCombatant (wears side)
  · exact wears

theorem trashAt (wears : g.Wears good) (side : Side) (index : Nat) :
    (g.trashAt side index).1.Wears good := by
  unfold Game.trashAt
  split
  · exact wears.updateCombatant (wears side)
  · exact wears

/-- Shuffling changes a deck and the dice, which are none of the relics'
concern. -/
theorem shuffleDeck (wears : g.Wears good) (side : Side) : (g.shuffleDeck side).1.Wears good := by
  rw [fst_shuffleDeck]
  have rolled : { g with dice := (g.dice.shuffle (g.combatant side).deck).2 }.Wears good := wears
  exact rolled.updateCombatant (wears side)

end Wears

/-- Requests that bring in only relics with a property keep it common to all
relics. -/
theorem wears_kept {fair : Action → Prop}
    (given : ∀ side relic, fair (.addRelic side relic) → good relic)
    (loaded : ∀ enemy, fair (.loadOpponent enemy) → ∀ relic ∈ enemy.relics, good relic) :
    KeptBy fair (Wears good) where
  startBattle wears ok := wears.startBattle ok
  endBattle wears ok := by
    obtain ⟨-, -, -, -, rested⟩ := of_endBattle_eq_ok ok
    intro side
    rw [rested side]
    exact wears side
  startTurn wears ok := wears.of_relics (keepsRelics_law.startTurn ok)
  playCard wears ok := wears.of_relics (keepsRelics_law.playCard ok (.of_none _ _))
  consumeExtraPlay wears ok := wears.of_relics (keepsRelics_law.consumeExtraPlay ok)
  endTurn wears ok := wears.of_relics (keepsRelics_law.endTurn ok)
  addCard {g side card} _ wears := wears.addCards side [card]
  removeCard wears ok := wears.removeCard ok
  chainCards wears ok := wears.chainCards ok
  unlinkCard wears ok := wears.unlinkCard ok
  addRelic {g side relic} allowed wears := by
    refine wears.updateCombatant fun other mem => ?_
    rcases List.mem_append.mp mem with mem | mem
    · exact wears side other mem
    · rw [List.mem_singleton.mp mem]
      exact given side relic allowed
  loadOpponent allowed wears ok := wears.loadOpponent (loaded _ allowed) ok
  discardCurrent side wears := wears.discardCurrent side
  trashAt side index wears := wears.trashAt side index
  shuffleDeck side wears := wears.shuffleDeck side
  resetRun _ side := by
    cases side with
    | user => exact fun _ => nofun
    | opponent => exact fun _ => nofun

end Game

end CardBattle
