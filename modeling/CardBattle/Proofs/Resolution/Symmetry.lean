/-
Module: CardBattle.Proofs.Resolution.Symmetry
Purpose: Resolving effects and cards does not depend on which party is which.
Main exports:
  BattleEvent.swap, Game.swap, Scope.swap, Resolution.swap, Resolution.reduceHealth_swap,
  Resolution.apply_swap, Game.resolveCard_swap, Resolution.resolver_symmetric
-/
import CardBattle.Proofs.OrderedMap
import CardBattle.Resolution.Effects

/-!
# Symmetry of the two parties

The rules for effects never name the user or the opponent, only the side whose card resolves and the
side across the table.  So exchanging the parties before anything is resolved and exchanging them
afterwards come to the same.  For each function this is one lemma, and the lemmas follow the way the
functions are built from one another, from single fields up to whole cards.
-/

namespace CardBattle

/-! ### Exchanging the parties -/

/-- Looking across the table from two sides shows the same side only if they are
one. -/
theorem Side.other_inj {side party : Side} : side.other = party.other ↔ side = party := by
  cases side <;> cases party <;> decide

/-- Changing one value and exchanging both is exchanging them and changing the
other. -/
theorem Sides.swap_update {α : Type} (sides : Sides α) (side : Side) (change : α → α) :
    sides.swap.update side.other change = (sides.update side change).swap := by
  cases side <;> rfl

/-- The same event with the parties exchanged. -/
def BattleEvent.swap : BattleEvent → BattleEvent
  | battleStarted => battleStarted
  | turnStarted side turn => turnStarted side.other turn
  | turnEnded side => turnEnded side.other
  | cardPlayed side card => cardPlayed side.other card
  | cardDiscarded side card => cardDiscarded side.other card
  | cardTrashed side card => cardTrashed side.other card
  | damage source target amount => damage source.other target.other amount
  | heal side amount => heal side.other amount
  | miss target => miss target.other
  | stunned side => stunned side.other
  | shuffled side => shuffled side.other
  | battleEnded winner => battleEnded winner.other
  | undo => undo

/-- All cards with their owners exchanged.  Numbers and links stay. -/
def CardPool.swap (pool : CardPool) : CardPool :=
  { pool with cards := pool.cards.mapValues fun entry => { entry with owner := entry.owner.other } }

/-- The record with the parties exchanged.  Rules, turn, phase, score and dice
stay. -/
def Game.swap (g : Game) : Game :=
  { g with combatants := g.combatants.swap, pool := g.pool.swap, active := g.active.other }

/-- The scope with the parties exchanged. -/
def Scope.swap (scope : Scope) : Scope :=
  { scope with
    active := scope.active.other
    damageTaken := scope.damageTaken.swap
    events := scope.events.map BattleEvent.swap }

/-- The resolution with the parties exchanged. -/
def Resolution.swap (r : Resolution) : Resolution := ⟨r.game.swap, r.scope.swap⟩

/-- A pool with its owners exchanged stores the same cards under the same
numbers. -/
@[simp] theorem CardPool.card?_swap (pool : CardPool) (id : CardId) :
    pool.swap.card? id = pool.card? id := by
  rw [card?, swap, OrderedMap.find?_mapValues, Option.map_map]
  rfl

/-- Nothing has been tallied or logged when a card begins to resolve, so only
the active side is exchanged. -/
theorem Scope.swap_ofCard (active : Side) (card : Card) :
    (ofCard active card).swap = ofCard active.other card := by
  simp [ofCard, bare, swap, Sides.same, Sides.swap]

theorem Scope.emit_swap (scope : Scope) (event : BattleEvent) :
    scope.swap.emit event.swap = (scope.emit event).swap := by
  simp [emit, swap]

/-- What a side has taken is counted for the side that now stands in its place. -/
theorem Scope.tally_swap (scope : Scope) (side : Side) (amount : Int) :
    scope.swap.tally side.other amount = (scope.tally side amount).swap := by
  simp [tally, swap, Sides.swap_update]

namespace Game

@[simp] theorem combatant_swap (g : Game) (side : Side) :
    g.swap.combatant side = g.combatant side.other :=
  Sides.get_swap ..

theorem updateCombatant_swap (g : Game) (side : Side) (change : Combatant → Combatant) :
    g.swap.updateCombatant side.other change = (g.updateCombatant side change).swap := by
  simp [updateCombatant, swap, Sides.swap_update]

/-! ### Numbers and guards -/

/-- A tribe is counted in the deck of the side in question, which has moved
across the table with its cards. -/
theorem countTribe_swap (g : Game) (side : Side) (tribe : Tribe) :
    g.swap.countTribe side.other tribe = g.countTribe side tribe := by
  have pool : g.swap.pool = g.pool.swap := rfl
  simp [countTribe, pool]

theorem previousInTribe_swap (g : Game) (side : Side) (tribe : Tribe) :
    g.swap.previousInTribe side.other tribe = g.previousInTribe side tribe := by
  have pool : g.swap.pool.card? = g.pool.card? := funext (CardPool.card?_swap g.pool)
  simp [previousInTribe, pool]

/-- Each field of a side reads the same from the exchanged record at the other
side.  The turn count is shared and is not exchanged. -/
theorem read_swap (g : Game) (scope : Scope) (side : Side) (field : Field) :
    g.swap.read scope.swap side.other field = g.read scope side field := by
  cases field with
  | turns => rfl
  | tribeShare tribe => simp [read, countTribe_swap]
  | previousTribe tribe => simp [read, previousInTribe_swap]
  | damageThisCard => simp [read, Scope.swap]
  | _ => simp [read]

/-- Card texts name sides as own and other, never as user and opponent, so the
numbers they describe do not change. -/
theorem evaluate_swap (g : Game) (scope : Scope) (quantity : Quantity) :
    g.swap.evaluate scope.swap quantity = g.evaluate scope quantity := by
  cases quantity with
  | literal number => rfl
  | field target field multiplier =>
      have party : target.resolve scope.swap.active = (target.resolve scope.active).other :=
        target.resolve_other scope.active
      rw [evaluate, evaluate, party, read_swap]

theorem allows_swap (g : Game) (scope : Scope) (condition : Option Condition) :
    g.swap.allows scope.swap condition = g.allows scope condition := by
  cases condition with
  | none => rfl
  | some condition => simp only [allows, holds, evaluate_swap]

theorem evaluateModifier?_swap (g : Game) (scope : Scope) :
    g.swap.evaluateModifier? scope.swap = g.evaluateModifier? scope := by
  funext modifier
  rw [evaluateModifier?, allows_swap, evaluate_swap, evaluateModifier?]

theorem effectValue_swap (g : Game) (scope : Scope) (effect : Effect) :
    g.swap.effectValue scope.swap effect = g.effectValue scope effect := by
  simp only [effectValue, evaluate_swap, evaluateModifier?_swap]

theorem effectHits_swap (g : Game) (scope : Scope) (effect : Effect) :
    g.swap.effectHits scope.swap effect = g.effectHits scope effect := by
  simp only [effectHits, evaluate_swap]

theorem activations_swap (g : Game) (scope : Scope) (card : Card) :
    g.swap.activations scope.swap card = g.activations scope card := by
  simp only [activations, evaluateModifier?_swap]

end Game

namespace Resolution

@[simp] theorem active_swap (r : Resolution) : r.swap.active = r.active.other := rfl

/-- Being the side whose card resolves is not a matter of which party one is. -/
theorem other_eq_active_swap {r : Resolution} {side : Side} :
    side.other = r.swap.active ↔ side = r.active :=
  Side.other_inj

@[simp] theorem combatant_swap (r : Resolution) (side : Side) :
    r.swap.combatant side = r.combatant side.other :=
  Game.combatant_swap ..

/-- A change of a combatant in a resolution goes to the other side of the table
with it. -/
theorem update_swap (r : Resolution) (side : Side) (change : Combatant → Combatant) :
    r.swap.update side.other change = (r.update side change).swap := by
  rw [update, swap, Game.updateCombatant_swap]
  rfl

theorem emit_swap (r : Resolution) (event : BattleEvent) :
    r.swap.emit event.swap = (r.emit event).swap := by
  rw [emit, swap, Scope.emit_swap]
  rfl

/-! ### Single hits -/

/-- A wound, with its note and its tally, falls on the side that stands in the
target's place. -/
theorem wound_swap (r : Resolution) (source target : Side) (amount : Int) :
    r.swap.wound source.other target.other amount = (r.wound source target amount).swap := by
  have log : r.swap.scope.emit (.damage source.other target.other amount) =
      (r.scope.emit (.damage source target amount)).swap :=
    Scope.emit_swap r.scope (.damage source target amount)
  rw [wound, log, Scope.tally_swap, swap, Game.updateCombatant_swap]
  rfl

/-- The dealer's relics go with it, so a hit on the other side takes the same
amount. -/
theorem hitOther_swap (r : Resolution) (source : Side) (amount : Int) :
    r.swap.hitOther source.other amount =
      ((r.hitOther source amount).1.swap, (r.hitOther source amount).2) := by
  have dealer : r.swap.combatant source.other = r.combatant source := by
    rw [combatant_swap, Side.other_other]
  unfold hitOther
  dsimp only
  rw [dealer, wound_swap, update_swap]

/-- Whose turn it is goes by the record, whose active side is exchanged as well. -/
theorem hitSelf_swap (r : Resolution) (side : Side) (amount : Int) :
    r.swap.hitSelf side.other amount =
      ((r.hitSelf side amount).1.swap, (r.hitSelf side amount).2) := by
  have turn : decide (side.other = (r.wound side side (max amount 0)).swap.game.active) =
      decide (side = (r.wound side side (max amount 0)).game.active) :=
    decide_eq_decide.mpr Side.other_inj
  unfold hitSelf
  dsimp only
  rw [wound_swap, turn, combatant_swap, Side.other_other]
  generalize ((r.wound side side (max amount 0)).combatant side).damageResponse _ _ = response
  have stronger : (if 0 < response.strength then
        (r.wound side side (max amount 0)).swap.update side.other fun c =>
          c.addStatus .strength response.strength
      else (r.wound side side (max amount 0)).swap) =
      (if 0 < response.strength then
        (r.wound side side (max amount 0)).update side fun c =>
          c.addStatus .strength response.strength
      else r.wound side side (max amount 0)).swap := by
    split
    · exact update_swap ..
    · rfl
  rw [stronger]
  split
  · rw [hitOther_swap]
  · rfl

/-- A hit takes as much from either party as from the other in its place. -/
theorem reduceHealth_swap (r : Resolution) (source target : Side) (amount : Int) :
    r.swap.reduceHealth source.other target.other amount =
      ((r.reduceHealth source target amount).1.swap, (r.reduceHealth source target amount).2) := by
  by_cases own : source = target
  · rw [reduceHealth, if_pos (Side.other_inj.mpr own), hitSelf_swap, reduceHealth, if_pos own]
  · have apart : ¬ source.other = target.other := mt Side.other_inj.mp own
    rw [reduceHealth, if_neg apart, hitOther_swap, reduceHealth, if_neg own]

/-! ### Blows -/

theorem cardLifesteal_swap (r : Resolution) : r.swap.cardLifesteal = r.cardLifesteal := by
  have share : r.swap.scope.lifesteal = r.scope.lifesteal := rfl
  unfold cardLifesteal
  rw [share]
  split
  · exact Game.evaluate_swap ..
  · rfl

/-- Coins are thrown with the same dice for either party.  They are rolled in
the same order because only one side strikes. -/
theorem aim_swap (r : Resolution) (target : Side) (value : Binary64) :
    r.swap.aim target.other value =
      (r.aim target value).map fun aimed => (aimed.1, aimed.2.swap) := by
  have tribe : strikesCritically r.swap.scope = strikesCritically r.scope := rfl
  have dice : r.swap.game.dice = r.game.dice := rfl
  unfold aim
  simp only [other_eq_active_swap]
  split
  · rfl
  · simp only [active_swap, combatant_swap, Side.other_other, tribe, dice, cardLifesteal_swap]
    split
    · rfl
    · rfl

/-- Health comes back to the active side, whichever it is. -/
theorem drain_swap (r : Resolution) (target : Side) (amount : Int) (share : Binary64) :
    r.swap.drain target.other amount share = (r.drain target amount share).swap := by
  unfold drain
  simp only [other_eq_active_swap]
  split
  · rfl
  · split
    · rw [active_swap, update_swap]
      exact emit_swap _ (.heal r.active _)
    · rfl

theorem noteDamage_swap (r : Resolution) (target : Side) :
    r.swap.noteDamage target.other = (r.noteDamage target).swap := by
  unfold noteDamage
  simp only [other_eq_active_swap]
  split
  · rfl
  · rfl

/-- The further hit on a bleeding target is a rule about the target and not
about the user or the opponent. -/
theorem bleedOut_swap (r : Resolution) (target : Side) :
    r.swap.bleedOut target.other = (r.bleedOut target).swap := by
  have rules : r.swap.game.rules = r.game.rules := rfl
  unfold bleedOut
  rw [combatant_swap, Side.other_other, active_swap, rules, reduceHealth_swap]
  split
  · exact update_swap ..
  · rfl

theorem land_swap (r : Resolution) (target : Side) (blow : Blow) :
    r.swap.land target.other blow = (r.land target blow).swap := by
  have met : (if 0 < blow.value.floorWord then
        (r.swap.drain target.other blow.value.floorWord blow.lifesteal).update target.other
          (buildShock r.swap.game.rules.shockThreshold)
      else r.swap) =
      (if 0 < blow.value.floorWord then
        (r.drain target blow.value.floorWord blow.lifesteal).update target
          (buildShock r.game.rules.shockThreshold)
      else r).swap := by
    split
    · rw [drain_swap]
      exact update_swap ..
    · rfl
  unfold land
  dsimp only
  rw [met]
  generalize (if 0 < blow.value.floorWord then
      (r.drain target blow.value.floorWord blow.lifesteal).update target
        (buildShock r.game.rules.shockThreshold)
    else r) = before
  rw [active_swap, reduceHealth_swap]
  dsimp only
  split
  · rw [noteDamage_swap, bleedOut_swap]
  · rfl

/-- A damage effect is dodged, aimed and landed alike for either party, and
refused for the same chance that is no number. -/
theorem damage_swap (r : Resolution) (target : Side) (value : Binary64) :
    r.swap.damage target.other value = (r.damage target value).map swap := by
  unfold damage
  rw [combatant_swap, Side.other_other, aim_swap]
  split
  · rename_i rest _
    have dodged := emit_swap (r.update target fun _ => rest) (.miss target)
    rw [update_swap]
    exact congrArg Except.ok dodged
  · cases r.aim target value with
    | error fault => rfl
    | ok aimed => exact congrArg Except.ok (land_swap ..)

/-! ### Effects and cards -/

/-- Either party's relics make its heals grow in the same way. -/
theorem heal_swap (r : Resolution) (target : Side) (value : Binary64) :
    r.swap.heal target.other value = (r.heal target value).swap := by
  unfold heal
  dsimp only
  rw [active_swap, combatant_swap, Side.other_other, update_swap]
  exact emit_swap _ (.heal target _)

theorem overwrite_swap (r : Resolution) (target : Side) (field : Field) (value : Binary64) :
    r.swap.overwrite target.other field value = (r.overwrite target field value).map swap := by
  unfold overwrite
  rw [combatant_swap, Side.other_other]
  split
  · exact congrArg Except.ok (update_swap ..)
  · rfl

theorem perform_swap (effect : Effect) (r : Resolution) :
    perform effect r.swap = (perform effect r).map swap := by
  have value : r.swap.game.effectValue r.swap.scope effect = r.game.effectValue r.scope effect :=
    Game.effectValue_swap ..
  have target : effect.target.resolve r.swap.active = (effect.target.resolve r.active).other :=
    effect.target.resolve_other r.active
  unfold perform
  rw [value, target]
  cases effect.kind with
  | damage => exact damage_swap ..
  | heal => exact congrArg Except.ok (heal_swap ..)
  | trash => rfl
  | status s => exact congrArg Except.ok (update_swap ..)
  | set field => exact overwrite_swap ..

/-- A step that does not depend on the parties can be repeated without depending
on them. -/
theorem repeatTimes_swap {step : Resolution → Except Fault Resolution}
    (symmetric : ∀ r : Resolution, step r.swap = (step r).map swap) (times : Nat)
    (r : Resolution) : repeatTimes step times r.swap = (repeatTimes step times r).map swap := by
  induction times generalizing r with
  | zero => rfl
  | succ times ih =>
      rw [repeatTimes, symmetric, repeatTimes]
      cases step r with
      | error fault => rfl
      | ok next => exact ih next

/-- Guard, count and number of an effect are the same after the exchange, and so
is each performance. -/
theorem apply_swap (effect : Effect) (r : Resolution) :
    apply effect r.swap = (apply effect r).map swap := by
  have allowed : r.swap.game.allows r.swap.scope effect.condition =
      r.game.allows r.scope effect.condition := Game.allows_swap ..
  have times : r.swap.game.effectHits r.swap.scope effect = r.game.effectHits r.scope effect :=
    Game.effectHits_swap ..
  unfold apply
  rw [allowed, times]
  split
  · exact repeatTimes_swap (perform_swap effect) ..
  · rfl

theorem applyAll_swap (effects : List Effect) (r : Resolution) :
    applyAll effects r.swap = (applyAll effects r).map swap := by
  induction effects generalizing r with
  | nil => rfl
  | cons effect rest ih =>
      rw [applyAll, apply_swap, applyAll]
      cases apply effect r with
      | error fault => rfl
      | ok next => exact ih next

/-- Critical stacks are settled for the side whose card resolved, on either side
of the table. -/
theorem settleCrits_swap (r : Resolution) : r.swap.settleCrits = r.settleCrits.swap := by
  have caused : r.swap.scope.causedDamage = r.scope.causedDamage := rfl
  have tribe : r.swap.scope.tribe = r.scope.tribe := rfl
  unfold settleCrits
  rw [caused, tribe]
  split
  · exact update_swap ..
  · rfl

theorem activate_swap (card : Card) (r : Resolution) :
    activate card r.swap = (activate card r).map swap := by
  have times : r.swap.game.activations r.swap.scope card = r.game.activations r.scope card :=
    Game.activations_swap ..
  unfold activate
  rw [times]
  split
  · rfl
  · exact repeatTimes_swap (applyAll_swap card.effects) ..

end Resolution

/-- A card resolves for either party as for the other in its place. -/
theorem Game.resolveCard_swap (g : Game) (card : Card) :
    g.swap.resolveCard card =
      (g.resolveCard card).map fun outcome => (outcome.1.swap, outcome.2.map BattleEvent.swap) := by
  have start : g.swap.resolution (.ofCard g.swap.active card) =
      (g.resolution (.ofCard g.active card)).swap :=
    congrArg g.swap.resolution (Scope.swap_ofCard g.active card).symm
  unfold resolveCard
  rw [start, Resolution.activate_swap]
  cases (g.resolution (.ofCard g.active card)).activate card with
  | error fault => rfl
  | ok r =>
      show Except.ok (r.swap.settleCrits.game, r.swap.settleCrits.scope.events.toList) = _
      rw [Resolution.settleCrits_swap]
      exact congrArg (fun told => Except.ok (r.settleCrits.game.swap, told)) Array.toList_map

/-- Exchanging the parties before an effect, a hit, the settling of critical
hits or a whole card is carried out, and exchanging them afterwards, come to the
same: the same changes, numbers, dice and faults, and the same events with the
parties exchanged. -/
theorem Resolution.resolver_symmetric :
    (∀ (effect : Effect) (r : Resolution), apply effect r.swap = (apply effect r).map swap) ∧
    (∀ (r : Resolution) (source target : Side) (amount : Int),
      r.swap.reduceHealth source.other target.other amount =
        ((r.reduceHealth source target amount).1.swap,
          (r.reduceHealth source target amount).2)) ∧
    (∀ r : Resolution, r.swap.settleCrits = r.settleCrits.swap) ∧
    (∀ (g : Game) (scope : Scope) (card : Card),
      g.swap.activations scope.swap card = g.activations scope card) ∧
    ∀ (g : Game) (card : Card),
      g.swap.resolveCard card =
        (g.resolveCard card).map fun outcome =>
          (outcome.1.swap, outcome.2.map BattleEvent.swap) :=
  ⟨apply_swap, reduceHealth_swap, settleCrits_swap, Game.activations_swap, Game.resolveCard_swap⟩

end CardBattle
