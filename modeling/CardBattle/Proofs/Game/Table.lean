/-
Module: CardBattle.Proofs.Game.Table
Purpose: The part of a record that resolving a card leaves alone.
Main exports:
  Combatant.belongings, Game.table, Game.view_updateCombatant, Game.table_updateCombatant,
  Game.belongings_of_table
-/
import CardBattle.Game.Basic

namespace CardBattle

/-- A view of both values stays as it is when the one that changes looks the
same through it. -/
theorem Sides.map_update_of_eq {α β : Type} {f : α → β} {sides : Sides α} {side : Side}
    {change : α → α} (kept : f (change (sides.get side)) = f (sides.get side)) :
    (sides.update side change).map f = sides.map f := by
  refine Sides.ext_get fun party => ?_
  rw [Sides.get_map, Sides.get_map, Sides.get_update]
  split
  · rename_i here
    rw [here]
    exact kept
  · rfl

/-- What a combatant has apart from health, counters and tallies. -/
structure Belongings where
  deck : List CardId
  trashed : List CardId
  relics : List Relic
  cursor : Nat
  previousCard : Option CardId

namespace Combatant

/-- The belongings of a combatant. -/
def belongings (c : Combatant) : Belongings :=
  ⟨c.deck, c.trashed, c.relics, c.cursor, c.previousCard⟩

@[simp] theorem belongings_setStatus (c : Combatant) (s : Status) (value : Binary64) :
    (c.setStatus s value).belongings = c.belongings := by
  unfold setStatus
  dsimp only
  split <;> rfl

@[simp] theorem belongings_addStatus (c : Combatant) (s : Status) (addend : Binary64) :
    (c.addStatus s addend).belongings = c.belongings :=
  belongings_setStatus ..

@[simp] theorem health_setStatus (c : Combatant) (s : Status) (value : Binary64) :
    (c.setStatus s value).health = c.health := by
  unfold setStatus
  dsimp only
  split <;> rfl

@[simp] theorem damageThisTurn_setStatus (c : Combatant) (s : Status) (value : Binary64) :
    (c.setStatus s value).damageThisTurn = c.damageThisTurn := by
  unfold setStatus
  dsimp only
  split <;> rfl

/-- Spending a stack is adding a negative one. -/
theorem of_spend?_eq_some {c rest : Combatant} {s : Status} (spent : c.spend? s = some rest) :
    rest = c.addStatus s (-1) := by
  unfold spend? at spent
  split at spent
  · exact (Option.some.inj spent).symm
  · cases spent

end Combatant

/-- A record without health, counters, tallies and dice. -/
structure Table where
  rules : Rules
  pool : CardPool
  turn : Nat
  active : Side
  phase : BattlePhase
  turnPhase : TurnPhase
  wins : Nat
  losses : Nat
  belongings : Sides Belongings

namespace Game

/-- The table of a record. -/
def table (g : Game) : Table :=
  ⟨g.rules, g.pool, g.turn, g.active, g.phase, g.turnPhase, g.wins, g.losses,
    g.combatants.map Combatant.belongings⟩

@[simp] theorem combatant_updateCombatant_self (g : Game) (side : Side)
    (change : Combatant → Combatant) :
    (g.updateCombatant side change).combatant side = change (g.combatant side) :=
  Sides.get_update_self ..

@[simp] theorem combatant_updateCombatant_other (g : Game) (side : Side)
    (change : Combatant → Combatant) :
    (g.updateCombatant side change).combatant side.other = g.combatant side.other :=
  Sides.get_update_other ..

/-- Look-up after a change of one side, for any party.  It splits into the two
cases above when the party is known. -/
theorem combatant_updateCombatant (g : Game) (side party : Side)
    (change : Combatant → Combatant) :
    (g.updateCombatant side change).combatant party =
      if party = side then change (g.combatant party) else g.combatant party :=
  Sides.get_update ..

/-- What a change of one combatant leaves alone, it leaves alone in both. -/
theorem view_updateCombatant {α : Type} (view : Combatant → α) {g : Game} {side : Side}
    {change : Combatant → Combatant}
    (kept : view (change (g.combatant side)) = view (g.combatant side)) (party : Side) :
    view ((g.updateCombatant side change).combatant party) = view (g.combatant party) := by
  rcases Side.eq_or_eq_other party side with rfl | rfl
  · rw [combatant_updateCombatant_self, kept]
  · rw [combatant_updateCombatant_other]

/-- A change of one combatant counts only at the combatant it meets. -/
theorem updateCombatant_congr {g : Game} {side : Side} {change other : Combatant → Combatant}
    (same : change (g.combatant side) = other (g.combatant side)) :
    g.updateCombatant side change = g.updateCombatant side other := by
  unfold updateCombatant
  congr 1
  refine Sides.ext_get fun party => ?_
  rw [Sides.get_update, Sides.get_update]
  split
  · rename_i here
    rw [here]
    exact same
  · rfl

theorem updateCombatant_updateCombatant (g : Game) (side : Side)
    (first second : Combatant → Combatant) :
    (g.updateCombatant side first).updateCombatant side second =
      g.updateCombatant side fun c => second (first c) := by
  cases side <;> rfl

theorem belongings_table (g : Game) (side : Side) :
    g.table.belongings.get side = (g.combatant side).belongings :=
  Sides.get_map ..

/-- A change of one combatant that keeps its belongings keeps the table. -/
theorem table_updateCombatant {g : Game} {side : Side} {change : Combatant → Combatant}
    (kept : (change (g.combatant side)).belongings = (g.combatant side).belongings) :
    (g.updateCombatant side change).table = g.table := by
  have sides : (g.updateCombatant side change).combatants.map Combatant.belongings =
      g.combatants.map Combatant.belongings := Sides.map_update_of_eq kept
  rw [table, sides]
  rfl

theorem belongings_of_table {g h : Game} (same : h.table = g.table) (side : Side) :
    (h.combatant side).belongings = (g.combatant side).belongings := by
  rw [← belongings_table, same, belongings_table]

end Game

end CardBattle
