/-
Module: CardBattle.Proofs.Game.Counters
Purpose: In every run the stored counters are positive, and whole unless they are shares.
Main exports:
  Combatant.CountersFit, Combatant.countersFit_law, Combatant.CountersFit.has_iff,
  Game.Reachable.counters_canonical
-/
import CardBattle.Proofs.Game.Progress
import CardBattle.Proofs.Game.SideLaws

/-!
# Counters

Whatever number an effect, a relic or a hit comes to, a counter is stored only as what is left of it
after rounding down, where it counts stacks, and after everything that is not above zero has been
taken for zero.  So a stored counter is a positive number, and one that counts stacks is whole.  A
positive whole number is at least one, and the three ways in which the game asks for a counter agree.
-/

namespace CardBattle

namespace Combatant

/-- Each stored counter is positive, and whole unless it is a share. -/
def CountersFit (c : Combatant) : Prop :=
  ∀ s value, c.statuses.find? s = some value →
    0 < value ∧ (s.isFractional = false → value.floor = value)

/-- What is stored of a number is positive, and whole where the counter counts
stacks. -/
theorem storable_fits {s : Status} {value : Binary64} (kept : (storable s value).equals 0 = false) :
    0 < storable s value ∧
      (s.isFractional = false → (storable s value).floor = storable s value) := by
  obtain ⟨positive, same⟩ := Binary64.of_positivePart_ne_zero kept
  have stored : storable s value = if s.isFractional then value else value.floor := same
  rw [stored]
  refine ⟨positive, fun counted => ?_⟩
  rw [counted] at positive ⊢
  exact Binary64.floor_floor positive

namespace CountersFit

variable {c : Combatant}

theorem of_statuses (fit : c.CountersFit) {d : Combatant} (same : d.statuses = c.statuses) :
    d.CountersFit := by
  intro s value stored
  rw [same] at stored
  exact fit s value stored

theorem of_empty (none : c.statuses = .empty) : c.CountersFit := by
  intro s value stored
  rw [none] at stored
  cases stored

/-- A counter that is set is stored as a positive number, or not at all,
whatever the value was. -/
theorem setStatus (fit : c.CountersFit) (s : Status) (value : Binary64) :
    (c.setStatus s value).CountersFit := by
  intro other stored found
  unfold Combatant.setStatus at found
  dsimp only at found
  split at found
  · rw [OrderedMap.find?_erase] at found
    split at found
    · cases found
    · exact fit other stored found
  · rename_i kept
    rw [OrderedMap.find?_insert] at found
    split at found
    · rename_i same
      obtain rfl := same
      obtain rfl := Option.some.inj found
      exact storable_fits (Bool.eq_false_of_not_eq_true kept)
    · exact fit other stored found

theorem clearTemporary (fit : c.CountersFit) : c.clearTemporary.CountersFit := by
  intro s value found
  rw [Combatant.clearTemporary, OrderedMap.find?_filter] at found
  split at found
  · exact fit s value found
  · cases found

/-- A counter of stacks is present where there is a whole one, as no fraction of
a stack is stored. -/
theorem has_iff (fit : c.CountersFit) {s : Status} (counted : s.isFractional = false) :
    c.has s = true ↔ 1 ≤ c.status s := by
  rw [has, decide_eq_true_iff, status]
  cases found : c.statuses.find? s with
  | none =>
      have none : ¬ (1 : Binary64) ≤ 0 := by decide +kernel
      exact iff_of_false Binary64.not_zero_pos none
  | some value =>
      obtain ⟨positive, whole⟩ := fit s value found
      exact iff_of_true positive (Binary64.one_le_of_pos positive (whole counted))

end CountersFit

/-- However a combatant changes, its counters fit.  There is one way only in
which a counter is stored. -/
theorem countersFit_law : SideLaw CountersFit where
  congr fit _ _ same := fit.of_statuses same
  rested _ none := .of_empty none
  setStatus fit s value := fit.setStatus s value
  clearTemporary fit := fit.clearTemporary
  advanceCursor fit := fit
  dropAt fit _ := fit
  append fit _ := fit
  arrange fit _ := fit

end Combatant

/-- In every record of a run each stored counter of both sides is a positive
number, and whole unless it is a share.  A counter of stacks is present where
there is a whole stack of it, and where one can be spent. -/
theorem Game.Reachable.counters_canonical {g : Game} (reached : g.Reachable) (side : Side)
    (s : Status) :
    (∀ value, (g.combatant side).statuses.find? s = some value →
      0 < value ∧ value.isNaN = false ∧
        (s ≠ .lifesteal → s ≠ .burnLifesteal → value.floor = value)) ∧
    (s.isFractional = false →
      ((g.combatant side).has s = true ↔ 0 < (g.combatant side).wholeStacks s) ∧
        (0 < (g.combatant side).wholeStacks s ↔
          ((g.combatant side).spend? s).isSome = true)) := by
  have fit := reached.both Combatant.countersFit_law side
  constructor
  · intro value stored
    obtain ⟨positive, whole⟩ := fit s value stored
    refine ⟨positive, Binary64.isNaN_of_pos positive, fun notShare notBurnShare => ?_⟩
    apply whole
    cases s with
    | lifesteal => exact absurd rfl notShare
    | burnLifesteal => exact absurd rfl notBurnShare
    | _ => rfl
  · intro counted
    constructor
    · exact (fit.has_iff counted).trans (Binary64.floorWord_pos_iff _).symm
    · exact Combatant.wholeStacks_pos_iff

namespace Game

/-- A battle in which the user has given itself odd counters: a fraction of a
stack, a share, and what is no number. -/
def brew : Game :=
  [.addCard .user
      { name := "Brew"
        effects := [.giveStatus .strength (5 / 2), .giveStatus .lifesteal (1 / 4),
          .assign (.status .crit) .nan] },
    .addCard .opponent (.plain "Guard"), .startBattle, .playCard].foldl after (.fresh .standard 7)

theorem brew_reachable : brew.Reachable :=
  (Reachable.fresh .standard 7).foldl (by simp)

/-- In the example the fraction of a stack has been dropped, the share has been
kept, and what is no number has not been stored. -/
theorem brew_counters :
    ((brew.combatant .user).statuses.find? .strength = some 2 ∧ (2 : Binary64).floor = 2) ∧
      ((brew.combatant .user).statuses.find? .lifesteal = some (1 / 4) ∧
        (0 : Binary64) < 1 / 4) ∧
      ((brew.combatant .user).has .crit = true ↔ 0 < (brew.combatant .user).wholeStacks .crit) := by
  obtain ⟨strength, -⟩ := brew_reachable.counters_canonical .user .strength
  obtain ⟨share, -⟩ := brew_reachable.counters_canonical .user .lifesteal
  obtain ⟨-, crit⟩ := brew_reachable.counters_canonical .user .crit
  have rounded : (brew.combatant .user).statuses.find? .strength = some 2 := by decide +kernel
  have kept : (brew.combatant .user).statuses.find? .lifesteal = some (1 / 4) := by
    decide +kernel
  obtain ⟨-, -, whole⟩ := strength 2 rounded
  obtain ⟨positive, -⟩ := share (1 / 4) kept
  exact ⟨⟨rounded, whole (by decide) (by decide)⟩, ⟨kept, positive⟩, (crit rfl).1⟩

end Game

end CardBattle
