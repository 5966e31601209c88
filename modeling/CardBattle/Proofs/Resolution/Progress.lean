/-
Module: CardBattle.Proofs.Resolution.Progress
Purpose: Which cards resolve without a fault, whatever the record.
Main exports:
  Dice.chance_isOk, Combatant.assign_isOk_iff, Card.WritesStored, Combatant.FairCoins,
  Game.FairCoins, Resolution.NeverRefused, Game.resolveCard_isOk
-/
import CardBattle.Proofs.Binary64.Whole
import CardBattle.Proofs.Resolution.Changes

/-!
# Cards that resolve

Only two things stop a card halfway: a line that overwrites a field that is not stored, and a
relic whose chance is no number.  Without them every line is carried out, and relics stay as
they are, so the next line is too.
-/

namespace CardBattle

/-- A chance that is a number can always be rolled for, also below zero or above
a hundred. -/
theorem Dice.chance_isOk {percent : Binary64} (number : percent.isNaN = false) (dice : Dice) :
    ∃ rolled, dice.chance percent = .ok rolled := by
  have hundred : (100 : Binary64) = _ := Binary64.ofInt_natCast (n := 100) (by decide)
  have nonzero : 100 * Binary64.unitsPerOne ≠ 0 :=
    Nat.mul_ne_zero (by decide) (Nat.pos_iff_ne_zero.mp Binary64.unitsPerOne_pos)
  have share : (percent / 100).isNaN = false := by
    rw [hundred, Binary64.isNaN_div percent nonzero, number]
  unfold chance
  simp only [share, Bool.false_eq_true, if_false]
  split
  · exact ⟨_, rfl⟩
  · exact ⟨_, rfl⟩

/-- Cards that overwrite only fields that are stored. -/
def Card.WritesStored (card : Card) : Prop :=
  ∀ field, card.Carries (.set field) → field.isWritable = true

namespace Combatant

/-- The fields that can be overwritten are those that are stored. -/
theorem assign_isOk_iff {c : Combatant} {field : Field} {value : Binary64} :
    (∃ written, c.assign field value = .ok written) ↔ field.isWritable = true := by
  cases field <;> simp [assign, Field.isWritable]

/-- All coins of a combatant have a chance that is a number. -/
def FairCoins (c : Combatant) : Prop :=
  ∀ relic ∈ c.relics, relic.kind = .luckyCoin → relic.value.isNaN = false

theorem rollCritical_isOk {coins : List Relic} (fair : ∀ coin ∈ coins, coin.value.isNaN = false)
    (dice : Dice) : ∃ rolled, rollCritical coins dice = .ok rolled := by
  induction coins generalizing dice with
  | nil => exact ⟨_, rfl⟩
  | cons coin rest ih =>
      obtain ⟨⟨success, next⟩, rolls⟩ := Dice.chance_isOk (fair coin (List.mem_cons_self ..)) dice
      rw [rollCritical, rolls]
      cases success with
      | true => exact ⟨_, rfl⟩
      | false => exact ih (fun other mem => fair other (List.mem_cons_of_mem _ mem)) next

theorem outgoingHit_isOk {c : Combatant} (fair : c.FairCoins) (alreadyCritical : Bool)
    (dice : Dice) : ∃ outcome, c.outgoingHit alreadyCritical dice = .ok outcome := by
  have coins : ∀ coin ∈ c.relicsOf .luckyCoin, coin.value.isNaN = false := by
    intro coin mem
    obtain ⟨owned, kind⟩ := List.mem_filter.mp mem
    exact fair coin owned (of_decide_eq_true kind)
  obtain ⟨⟨critical, next⟩, rolls⟩ := rollCritical_isOk coins dice
  unfold outgoingHit
  dsimp only
  split
  · exact ⟨_, rfl⟩
  · rw [rolls]
    exact ⟨_, rfl⟩

end Combatant

/-- All coins of both sides have a chance that is a number. -/
def Game.FairCoins (g : Game) : Prop := ∀ side, (g.combatant side).FairCoins

namespace Game.FairCoins

variable {g h : Game}

theorem of_relics (fair : g.FairCoins)
    (same : ∀ side, (h.combatant side).relics = (g.combatant side).relics) : h.FairCoins := by
  intro side
  rw [Combatant.FairCoins, same]
  exact fair side

theorem of_table (fair : g.FairCoins) (same : h.table = g.table) : h.FairCoins :=
  fair.of_relics fun side => congrArg Belongings.relics (belongings_of_table same side)

end Game.FairCoins

namespace Resolution

/-- A step that is not refused where all coins are fair, and that leaves them
fair. -/
def NeverRefused (step : Resolution → Except Fault Resolution) : Prop :=
  ∀ r : Resolution, r.game.FairCoins → ∃ after, step r = .ok after ∧ after.game.FairCoins

/-- The only fault that aiming can meet is a coin whose chance is no number. -/
theorem aim_isOk {r : Resolution} (fair : r.game.FairCoins) (target : Side) (value : Binary64) :
    ∃ outcome, r.aim target value = .ok outcome := by
  unfold aim
  split
  · exact ⟨_, rfl⟩
  · obtain ⟨outcome, hits⟩ := Combatant.outgoingHit_isOk (fair r.active)
      (strikesCritically r.scope (r.combatant r.active)) r.game.dice
    dsimp only
    rw [show (r.combatant r.active).outgoingHit _ _ = _ from hits]
    exact ⟨_, rfl⟩

/-- Damage is dodged or aimed, and neither is refused where coins are fair. -/
theorem damage_isOk {r : Resolution} (fair : r.game.FairCoins) (target : Side)
    (value : Binary64) : ∃ after, r.damage target value = .ok after := by
  unfold damage
  split
  · exact ⟨_, rfl⟩
  · obtain ⟨outcome, aims⟩ := aim_isOk fair target value
    rw [aims]
    exact ⟨_, rfl⟩

/-- A field that is stored can be overwritten with any value, a number or not. -/
theorem overwrite_isOk {field : Field} (stored : field.isWritable = true) (r : Resolution)
    (target : Side) (value : Binary64) : ∃ after, r.overwrite target field value = .ok after := by
  obtain ⟨written, assigns⟩ := Combatant.assign_isOk_iff.mpr stored
  rw [overwrite, assigns]
  exact ⟨_, rfl⟩

/-- Of the kinds of effects only those that overwrite a field ask for more than
fair coins. -/
theorem perform_neverRefused {effect : Effect}
    (stored : ∀ field, effect.kind = .set field → field.isWritable = true) :
    NeverRefused (perform effect) := by
  intro r fair
  have done : ∃ after, perform effect r = .ok after := by
    unfold perform
    dsimp only
    split
    · exact damage_isOk fair ..
    · exact ⟨_, rfl⟩
    · exact ⟨_, rfl⟩
    · exact ⟨_, rfl⟩
    · rename_i field kind
      exact overwrite_isOk (stored field kind) ..
  obtain ⟨after, ok⟩ := done
  -- Relics are on the table, which no line of a card touches.
  have changes : Changes (fun _ => True) r after := perform_changes trivial ok
  exact ⟨after, ok, fair.of_table changes.table_eq⟩

namespace NeverRefused

variable {step : Resolution → Except Fault Resolution}

/-- Repeating a step that is never refused is never refused, as each repetition
leaves the coins fair for the next. -/
theorem repeatTimes (never : NeverRefused step) (times : Nat) :
    NeverRefused (repeatTimes step times) := by
  intro r fair
  induction times generalizing r with
  | zero => exact ⟨r, rfl, fair⟩
  | succ times ih =>
      obtain ⟨between, ok, still⟩ := never r fair
      rw [Resolution.repeatTimes, ok]
      exact ih between still

end NeverRefused

/-- A guard and a count bring no fault of their own. -/
theorem apply_neverRefused {effect : Effect}
    (stored : ∀ field, effect.kind = .set field → field.isWritable = true) :
    NeverRefused (apply effect) := by
  intro r fair
  unfold apply
  split
  · exact (perform_neverRefused stored).repeatTimes _ r fair
  · exact ⟨r, rfl, fair⟩

theorem applyAll_neverRefused {effects : List Effect}
    (stored : ∀ effect ∈ effects, ∀ field, effect.kind = .set field → field.isWritable = true) :
    NeverRefused (applyAll effects) := by
  induction effects with
  | nil => exact fun r fair => ⟨r, rfl, fair⟩
  | cons effect rest ih =>
      intro r fair
      obtain ⟨between, ok, still⟩ :=
        apply_neverRefused (stored effect (List.mem_cons_self ..)) r fair
      rw [applyAll, ok]
      exact ih (fun other mem => stored other (List.mem_cons_of_mem _ mem)) between still

/-- A card that overwrites only stored fields is carried out in full. -/
theorem activate_neverRefused {card : Card} (stored : card.WritesStored) :
    NeverRefused (activate card) := by
  intro r fair
  have lines : NeverRefused (applyAll card.effects) :=
    applyAll_neverRefused fun effect mem field kind => stored field ⟨effect, mem, kind⟩
  unfold activate
  split
  · exact ⟨r, rfl, fair⟩
  · exact lines.repeatTimes _ r fair

end Resolution

/-- A card that overwrites only stored fields resolves where all coins are fair. -/
theorem Game.resolveCard_isOk {g : Game} {card : Card} (stored : card.WritesStored)
    (fair : g.FairCoins) : ∃ after events, g.resolveCard card = .ok (after, events) := by
  obtain ⟨r, ok, -⟩ := Resolution.activate_neverRefused stored
    (g.resolution (.ofCard g.active card)) fair
  rw [resolveCard, ok]
  exact ⟨_, _, rfl⟩

end CardBattle
