/-
Module: CardBattle.Proofs.Resolution.Disguise
Purpose: Resolving a card sees neither the numbers of cards, nor the plays allowed at once, nor,
  where no coin is thrown, the dice.
Main exports:
  Game.shift, Relic.Diceless, Game.Coinless, Disguise, Game.disguise, Disguise.Hides,
  Resolution.apply_disguise, Game.resolveCard_disguise
-/
import CardBattle.Proofs.Cards.Renumbering
import CardBattle.Proofs.Game.Outfit

/-!
# Disguised records

A record is disguised by renumbering its cards, by giving it other dice, and by allowing another
number of plays at once.  What a card does to a disguised record is the disguise of what it does to
the record itself.  Numbers of cards are only compared, and the number of plays is not read at all.
Dice are rolled for lucky coins and for nothing else, so another set of dice has to be hidden by the
absence of coins.
-/

namespace CardBattle

/-- The record with renumbered cards. -/
def Game.shift (gap : Nat) (g : Game) : Game :=
  { g with combatants := g.combatants.map (Combatant.shift gap), pool := g.pool.shift gap }

theorem Game.shift_zero (g : Game) : g.shift 0 = g := by
  have sides : g.combatants.map (Combatant.shift 0) = g.combatants := by
    refine Sides.ext_get fun side => ?_
    rw [Sides.get_map, Combatant.shift_zero]
  rw [shift, sides, CardPool.shift_zero]

/-- A relic that rolls no dice. -/
def Relic.Diceless (relic : Relic) : Prop := relic.kind ≠ .luckyCoin

instance (relic : Relic) : Decidable relic.Diceless := inferInstanceAs (Decidable (_ ≠ _))

/-- No side has a lucky coin. -/
def Game.Coinless (g : Game) : Prop := g.Wears Relic.Diceless

/-- How a record can be made to look like another one. -/
structure Disguise where
  /-- How much further on the numbers of its cards are. -/
  gap : Nat
  /-- What becomes of its dice. -/
  dice : Dice → Dice
  /-- What becomes of the number of plays allowed at once. -/
  plays : Nat → Nat

/-- The record in disguise. -/
def Game.disguise (φ : Disguise) (g : Game) : Game :=
  { g.shift φ.gap with
    rules := { g.rules with maxPlaysPerTurn := φ.plays g.rules.maxPlaysPerTurn }
    dice := φ.dice g.dice }

/-- The resolution over the record in disguise.  Nothing in a scope names a
card. -/
def Resolution.disguise (φ : Disguise) (r : Resolution) : Resolution :=
  ⟨r.game.disguise φ, r.scope⟩

/-- The dice are as they were, or they are never rolled. -/
def Disguise.Hides (φ : Disguise) (g : Game) : Prop := φ.dice = id ∨ g.Coinless

/-- What a disguise has to hide is a matter of the relics alone.  Health, piles
and the log may change while nobody comes by a coin. -/
theorem Disguise.Hides.of_relics {φ : Disguise} {g h : Game} (hides : φ.Hides g)
    (same : ∀ side, (h.combatant side).relics = (g.combatant side).relics) : φ.Hides h :=
  hides.imp_right fun coinless => Game.Wears.of_relics coinless same

/-- Whatever leaves the table as it is, as every card does, gives away no more
of a disguise than was known before. -/
theorem Disguise.Hides.of_table {φ : Disguise} {g h : Game} (hides : φ.Hides g)
    (same : h.table = g.table) : φ.Hides h :=
  hides.of_relics fun side => congrArg Belongings.relics (Game.belongings_of_table same side)

variable {φ : Disguise}

namespace Game

@[simp] theorem combatant_disguise (g : Game) (side : Side) :
    (g.disguise φ).combatant side = (g.combatant side).shift φ.gap :=
  Sides.get_map ..

@[simp] theorem pool_disguise (g : Game) : (g.disguise φ).pool = g.pool.shift φ.gap := rfl

@[simp] theorem active_disguise (g : Game) : (g.disguise φ).active = g.active := rfl

@[simp] theorem phase_disguise (g : Game) : (g.disguise φ).phase = g.phase := rfl

/-- What changes a combatant may itself look different in disguise. -/
theorem updateCombatant_disguise_of {g : Game} {side : Side}
    {change disguised : Combatant → Combatant}
    (same : disguised ((g.combatant side).shift φ.gap) =
      (change (g.combatant side)).shift φ.gap) :
    (g.disguise φ).updateCombatant side disguised = (g.updateCombatant side change).disguise φ := by
  have sides : (g.combatants.map (Combatant.shift φ.gap)).update side disguised =
      (g.combatants.update side change).map (Combatant.shift φ.gap) := by
    refine Sides.ext_get fun party => ?_
    rw [Sides.get_update, Sides.get_map, Sides.get_map, Sides.get_update]
    split
    · rename_i here
      rw [here]
      exact same
    · rfl
  rw [updateCombatant, updateCombatant, disguise, disguise, shift, shift, sides]

/-- A change of a combatant that does not look at card numbers may be made
before or after putting on the disguise. -/
theorem updateCombatant_disguise {g : Game} {side : Side} {change : Combatant → Combatant}
    (same : change ((g.combatant side).shift φ.gap) = (change (g.combatant side)).shift φ.gap) :
    (g.disguise φ).updateCombatant side change = (g.updateCombatant side change).disguise φ :=
  updateCombatant_disguise_of same

/-! ### Numbers and guards -/

/-- A tribe is counted over the cards behind the numbers, and these are the same
cards. -/
theorem countTribe_disguise (g : Game) (side : Side) (tribe : Tribe) :
    (g.disguise φ).countTribe side tribe = g.countTribe side tribe := by
  have deck : ((g.combatant side).shift φ.gap).deck =
      (g.combatant side).deck.map (CardId.shift φ.gap) := rfl
  simp only [countTribe, combatant_disguise, pool_disguise, deck, List.countP_map,
    Function.comp_def, CardPool.card?_shift]

theorem previousInTribe_disguise (g : Game) (side : Side) (tribe : Tribe) :
    (g.disguise φ).previousInTribe side tribe = g.previousInTribe side tribe := by
  have previous : ((g.combatant side).shift φ.gap).previousCard =
      (g.combatant side).previousCard.map (CardId.shift φ.gap) := rfl
  simp only [previousInTribe, combatant_disguise, pool_disguise, previous, Option.bind_map,
    Function.comp_def, CardPool.card?_shift]

/-- Every field that a card text can refer to has the same value in disguise.
No field holds a card number, the dice or the number of plays. -/
theorem read_disguise (g : Game) (scope : Scope) (side : Side) (field : Field) :
    (g.disguise φ).read scope side field = g.read scope side field := by
  cases field with
  | deckSize => simp [read, Combatant.shift]
  | trashSize => simp [read, Combatant.shift]
  | tribeShare tribe => simp [read, countTribe_disguise, Combatant.shift]
  | previousTribe tribe => simp [read, previousInTribe_disguise]
  | turns => rfl
  | damageThisCard => rfl
  | _ =>
      rw [read, combatant_disguise, read]
      rfl

/-- A described number is a literal or a multiple of a field, so it is the same
in disguise. -/
theorem evaluate_disguise (g : Game) (scope : Scope) (quantity : Quantity) :
    (g.disguise φ).evaluate scope quantity = g.evaluate scope quantity := by
  cases quantity with
  | literal number => rfl
  | field target field multiplier => rw [evaluate, read_disguise, evaluate]

/-- Guards compare described numbers and let through in disguise what they let
through without. -/
theorem allows_disguise (g : Game) (scope : Scope) (condition : Option Condition) :
    (g.disguise φ).allows scope condition = g.allows scope condition := by
  cases condition with
  | none => rfl
  | some condition => simp only [allows, holds, evaluate_disguise]

theorem evaluateModifier?_disguise (g : Game) (scope : Scope) :
    (g.disguise φ).evaluateModifier? scope = g.evaluateModifier? scope := by
  funext modifier
  rw [evaluateModifier?, allows_disguise, evaluate_disguise, evaluateModifier?]

/-- The number of an effect, with its sum and its factor, is worked out from
fields and guards alone. -/
theorem effectValue_disguise (g : Game) (scope : Scope) (effect : Effect) :
    (g.disguise φ).effectValue scope effect = g.effectValue scope effect := by
  simp only [effectValue, evaluate_disguise, evaluateModifier?_disguise]

theorem effectHits_disguise (g : Game) (scope : Scope) (effect : Effect) :
    (g.disguise φ).effectHits scope effect = g.effectHits scope effect := by
  simp only [effectHits, evaluate_disguise]

theorem activations_disguise (g : Game) (scope : Scope) (card : Card) :
    (g.disguise φ).activations scope card = g.activations scope card := by
  simp only [activations, evaluateModifier?_disguise]

end Game

/-! ### Coins -/

namespace Combatant

/-- Where no relic rolls dice, the list of coins that a hit would throw is
empty. -/
theorem relicsOf_luckyCoin {c : Combatant} (coinless : ∀ relic ∈ c.relics, relic.Diceless) :
    c.relicsOf .luckyCoin = [] := by
  refine List.filter_eq_nil_iff.mpr fun relic mem => ?_
  have other : relic.kind ≠ .luckyCoin := coinless relic mem
  simpa using other

/-- A throw is refused only for a chance that is no number. -/
theorem of_rollCritical_eq_error {coins : List Relic} {dice : Dice} {fault : Fault}
    (refused : rollCritical coins dice = .error fault) : fault = .invalidChance := by
  induction coins generalizing dice with
  | nil => cases refused
  | cons coin rest ih =>
      unfold rollCritical at refused
      split at refused
      · rename_i thrown
        cases refused
        unfold Dice.chance at thrown
        dsimp only at thrown
        split at thrown
        · exact (Except.error.inj thrown).symm
        · split at thrown
          · cases thrown
          · cases thrown
      · cases refused
      · exact ih refused

/-- The dice for a hit are rolled as before, or not at all. -/
theorem outgoingHit_disguise {c : Combatant}
    (hides : φ.dice = id ∨ ∀ relic ∈ c.relics, relic.Diceless) (critical : Bool) (dice : Dice) :
    c.outgoingHit critical (φ.dice dice) =
      Fault.carry φ.gap (fun hit => (hit.1, φ.dice hit.2)) (c.outgoingHit critical dice) := by
  unfold outgoingHit
  dsimp only
  split
  · rfl
  · rcases hides with same | coinless
    · rw [same]
      dsimp only [id]
      cases thrown : rollCritical (c.relicsOf .luckyCoin) dice with
      | error fault =>
          rw [of_rollCritical_eq_error thrown]
          rfl
      | ok outcome => rfl
    · rw [relicsOf_luckyCoin coinless]
      rfl

end Combatant

namespace Resolution

@[simp] theorem combatant_disguise (r : Resolution) (side : Side) :
    (r.disguise φ).combatant side = (r.combatant side).shift φ.gap :=
  Game.combatant_disguise ..

@[simp] theorem active_disguise (r : Resolution) : (r.disguise φ).active = r.active := rfl

@[simp] theorem scope_disguise (r : Resolution) : (r.disguise φ).scope = r.scope := rfl

/-- What holds of changes of a combatant in the record holds of them in a
resolution: they may come before or after the disguise. -/
theorem update_disguise {r : Resolution} {side : Side} {change : Combatant → Combatant}
    (same : change ((r.combatant side).shift φ.gap) = (change (r.combatant side)).shift φ.gap) :
    (r.disguise φ).update side change = (r.update side change).disguise φ :=
  congrArg (Resolution.mk · r.scope) (Game.updateCombatant_disguise same)

/-- Putting a whole combatant in place is such a change if the new one is
disguised as well. -/
theorem replace_disguise (r : Resolution) (side : Side) (c : Combatant) :
    ((r.disguise φ).update side fun _ => c.shift φ.gap) =
      (r.update side fun _ => c).disguise φ :=
  congrArg (Resolution.mk · r.scope) (Game.updateCombatant_disguise_of rfl)

/-- Adding stacks does not look at the piles, so it needs no hypothesis. -/
theorem addStatus_disguise (r : Resolution) (side : Side) (s : Status) (addend : Binary64) :
    ((r.disguise φ).update side fun c => c.addStatus s addend) =
      (r.update side fun c => c.addStatus s addend).disguise φ :=
  update_disguise (Combatant.addStatus_shift ..)

/-! ### Single hits -/

/-- A wound notes the same damage in the log and in the tally, and takes the
same health. -/
theorem wound_disguise (r : Resolution) (source target : Side) (amount : Int) :
    (r.disguise φ).wound source target amount = (r.wound source target amount).disguise φ := by
  rw [wound, disguise, Game.updateCombatant_disguise (by rfl)]
  rfl

/-- The least size of a hit is set by relics, which a disguise leaves alone; the
hit takes the same amount. -/
theorem hitOther_disguise (r : Resolution) (source : Side) (amount : Int) :
    (r.disguise φ).hitOther source amount =
      ((r.hitOther source amount).1.disguise φ, (r.hitOther source amount).2) := by
  have taken : raisedHit ((r.disguise φ).combatant source) amount =
      raisedHit (r.combatant source) amount := by
    rw [combatant_disguise]
    rfl
  unfold hitOther
  rw [taken]
  dsimp only
  rw [wound_disguise, update_disguise (by rfl)]

/-- A side that hits itself is answered by the same relics, with the same
strength and the same damage passed on. -/
theorem hitSelf_disguise (r : Resolution) (side : Side) (amount : Int) :
    (r.disguise φ).hitSelf side amount =
      ((r.hitSelf side amount).1.disguise φ, (r.hitSelf side amount).2) := by
  unfold hitSelf
  dsimp only
  rw [wound_disguise]
  generalize r.wound side side (max amount 0) = hurt
  have response : ((hurt.disguise φ).combatant side).damageResponse (max amount 0)
      (side = (hurt.disguise φ).game.active) =
      (hurt.combatant side).damageResponse (max amount 0) (side = hurt.game.active) := by
    rw [combatant_disguise]
    rfl
  rw [response]
  generalize (hurt.combatant side).damageResponse _ _ = answer
  have stronger : (if 0 < answer.strength then
        (hurt.disguise φ).update side fun c => c.addStatus .strength answer.strength
      else hurt.disguise φ) =
      (if 0 < answer.strength then
        hurt.update side fun c => c.addStatus .strength answer.strength
      else hurt).disguise φ := by
    split
    · exact addStatus_disguise ..
    · rfl
  rw [stronger]
  split
  · rw [hitOther_disguise]
  · rfl

theorem reduceHealth_disguise (r : Resolution) (source target : Side) (amount : Int) :
    (r.disguise φ).reduceHealth source target amount =
      ((r.reduceHealth source target amount).1.disguise φ,
        (r.reduceHealth source target amount).2) := by
  unfold reduceHealth
  split
  · exact hitSelf_disguise ..
  · exact hitOther_disguise ..

/-! ### Blows -/

theorem cardLifesteal_disguise (r : Resolution) :
    (r.disguise φ).cardLifesteal = r.cardLifesteal := by
  have share : (r.disguise φ).scope.lifesteal = r.scope.lifesteal := rfl
  unfold cardLifesteal
  rw [share]
  split
  · exact Game.evaluate_disguise ..
  · rfl

/-- This is the one place in a resolution where dice are rolled.  The blow is
the same because either the dice are, or no coin is there to roll them for. -/
theorem aim_disguise {r : Resolution} (hides : φ.Hides r.game) (target : Side) (value : Binary64) :
    (r.disguise φ).aim target value =
      Fault.carry φ.gap (fun aimed => (aimed.1, aimed.2.disguise φ)) (r.aim target value) := by
  have dice : (r.disguise φ).game.dice = φ.dice r.game.dice := rfl
  have critical : strikesCritically r.scope ((r.combatant r.active).shift φ.gap) =
      strikesCritically r.scope (r.combatant r.active) := rfl
  have hit := Combatant.outgoingHit_disguise (hides.imp_right fun coinless => coinless r.active)
    (strikesCritically r.scope (r.combatant r.active)) r.game.dice
  have thrown : ((r.combatant r.active).shift φ.gap).outgoingHit
      (strikesCritically r.scope (r.combatant r.active)) (φ.dice r.game.dice) = _ := hit
  unfold aim
  rw [active_disguise]
  split
  · rfl
  · dsimp only
    rw [combatant_disguise, combatant_disguise, scope_disguise, dice, critical, thrown,
      cardLifesteal_disguise]
    unfold combatant
    cases (r.game.combatant r.active).outgoingHit
      (strikesCritically r.scope (r.game.combatant r.active)) r.game.dice with
    | error fault => rfl
    | ok outcome => rfl

/-- The attacker gets back the same health, and the heal is noted in the same
words. -/
theorem drain_disguise (r : Resolution) (target : Side) (amount : Int) (share : Binary64) :
    (r.disguise φ).drain target amount share = (r.drain target amount share).disguise φ := by
  unfold drain
  rw [active_disguise]
  dsimp only
  split
  · rfl
  · split
    · rw [update_disguise (by rfl)]
      rfl
    · rfl

theorem buildShock_shift (gap : Nat) (threshold : Int) (c : Combatant) :
    buildShock threshold (c.shift gap) = (buildShock threshold c).shift gap := by
  have shocked : (c.shift gap).has .shock = c.has .shock := rfl
  have whole : ((c.addStatus .shock 1).shift gap).wholeStacks .shock =
      (c.addStatus .shock 1).wholeStacks .shock := rfl
  unfold buildShock
  dsimp only
  rw [shocked, Combatant.addStatus_shift, whole]
  split
  · split
    · rw [Combatant.addStatus_shift, Combatant.addStatus_shift]
    · rfl
  · rfl

/-- A bleeding target takes the same further hit.  Its size is a rule, and the
rules of a disguised record differ in the number of plays alone. -/
theorem bleedOut_disguise (r : Resolution) (target : Side) :
    (r.disguise φ).bleedOut target = (r.bleedOut target).disguise φ := by
  have bleeds : ((r.disguise φ).combatant target).has .bleed = (r.combatant target).has .bleed := by
    rw [combatant_disguise]
    rfl
  have size : (r.disguise φ).game.rules.bleedDamage = r.game.rules.bleedDamage := rfl
  unfold bleedOut
  rw [bleeds, active_disguise, size, reduceHealth_disguise]
  split
  · exact addStatus_disguise ..
  · rfl

/-- Whether the other side was damaged is kept in the scope, which a disguise
does not touch. -/
theorem noteDamage_disguise (r : Resolution) (target : Side) :
    (r.disguise φ).noteDamage target = (r.noteDamage target).disguise φ := by
  unfold noteDamage
  rw [active_disguise]
  split
  · rfl
  · rfl

/-- A blow lands in the same steps, with health drained, shock, the hit and
bleed each the same as without. -/
theorem land_disguise (r : Resolution) (target : Side) (blow : Blow) :
    (r.disguise φ).land target blow = (r.land target blow).disguise φ := by
  have met : (if 0 < blow.value.floorWord then
        ((r.disguise φ).drain target blow.value.floorWord blow.lifesteal).update target
          (buildShock (r.disguise φ).game.rules.shockThreshold)
      else r.disguise φ) =
      (if 0 < blow.value.floorWord then
        (r.drain target blow.value.floorWord blow.lifesteal).update target
          (buildShock r.game.rules.shockThreshold)
      else r).disguise φ := by
    split
    · rw [drain_disguise]
      exact update_disguise (buildShock_shift ..)
    · rfl
  unfold land
  dsimp only
  rw [met]
  generalize (if 0 < blow.value.floorWord then
      (r.drain target blow.value.floorWord blow.lifesteal).update target
        (buildShock r.game.rules.shockThreshold)
    else r) = before
  rw [active_disguise, reduceHealth_disguise]
  dsimp only
  split
  · rw [noteDamage_disguise, bleedOut_disguise]
  · rfl

theorem dodge?_shift (gap : Nat) (c : Combatant) :
    dodge? (c.shift gap) = (dodge? c).map (Combatant.shift gap) := by
  unfold dodge?
  rw [Combatant.spend?_shift, Combatant.spend?_shift]
  cases c.spend? .tempDodge with
  | none => rfl
  | some rest => rfl

/-- A damage effect misses in disguise where it would miss without, and
otherwise aims and lands the same blow. -/
theorem damage_disguise {r : Resolution} (hides : φ.Hides r.game) (target : Side)
    (value : Binary64) :
    (r.disguise φ).damage target value =
      Fault.carry φ.gap (disguise φ) (r.damage target value) := by
  unfold damage
  rw [combatant_disguise, dodge?_shift, aim_disguise hides]
  cases dodge? (r.combatant target) with
  | some rest =>
      dsimp only [Option.map]
      rw [replace_disguise]
      rfl
  | none =>
      dsimp only [Option.map]
      cases r.aim target value with
      | error fault => rfl
      | ok aimed => exact congrArg Except.ok (land_disguise ..)

/-! ### Effects and cards -/

theorem heal_disguise (r : Resolution) (target : Side) (value : Binary64) :
    (r.disguise φ).heal target value = (r.heal target value).disguise φ := by
  have bonus : ((r.disguise φ).combatant (r.disguise φ).active).healBonus =
      (r.combatant r.active).healBonus := by
    rw [combatant_disguise]
    rfl
  unfold heal
  dsimp only
  rw [bonus, update_disguise (by rfl)]
  rfl

/-- Setting a field ends in the same value, or in the same fault where the field
is one that follows from others. -/
theorem overwrite_disguise (r : Resolution) (target : Side) (field : Field) (value : Binary64) :
    (r.disguise φ).overwrite target field value =
      Fault.carry φ.gap (disguise φ) (r.overwrite target field value) := by
  unfold overwrite
  rw [combatant_disguise, Combatant.assign_shift]
  cases (r.combatant target).assign field value with
  | error fault => rfl
  | ok written => exact congrArg Except.ok (replace_disguise ..)

/-- One performance of an effect, by the kinds of effects.  Only damage needs
the dice to be hidden. -/
theorem perform_disguise (effect : Effect) {r : Resolution} (hides : φ.Hides r.game) :
    perform effect (r.disguise φ) = Fault.carry φ.gap (disguise φ) (perform effect r) := by
  have value : (r.disguise φ).game.effectValue (r.disguise φ).scope effect =
      r.game.effectValue r.scope effect := Game.effectValue_disguise ..
  unfold perform
  dsimp only
  rw [value, active_disguise]
  cases effect.kind with
  | damage => exact damage_disguise hides ..
  | heal => exact congrArg Except.ok (heal_disguise ..)
  | trash => rfl
  | status s => exact congrArg Except.ok (addStatus_disguise ..)
  | set field => exact overwrite_disguise ..

/-- No effect takes a seat at the table: rules, turn, phase, score and relics
come out as they went in. -/
theorem perform_table {effect : Effect} {r after : Resolution} (ok : perform effect r = .ok after) :
    after.game.table = r.game.table := by
  have changes : Changes (fun _ => True) r after := perform_changes trivial ok
  exact changes.table_eq

theorem apply_table {effect : Effect} {r after : Resolution} (ok : apply effect r = .ok after) :
    after.game.table = r.game.table := by
  have changes : Changes (fun _ => True) r after := apply_changes trivial ok
  exact changes.table_eq

/-- The table stands through a list of effects, so that what is hidden at its
start is hidden before each of them. -/
theorem applyAll_table {effects : List Effect} {r after : Resolution}
    (ok : applyAll effects r = .ok after) : after.game.table = r.game.table := by
  have changes : Changes (fun _ => True) r after := applyAll_changes (fun _ _ => trivial) ok
  exact changes.table_eq

/-- A step that a disguise does not matter to can be repeated in disguise, as
long as the step leaves the relics alone. -/
theorem repeatTimes_disguise {step : Resolution → Except Fault Resolution}
    (hidden : ∀ {r : Resolution}, φ.Hides r.game →
      step (r.disguise φ) = Fault.carry φ.gap (disguise φ) (step r))
    (keeps : ∀ {r after : Resolution}, step r = .ok after → after.game.table = r.game.table)
    (times : Nat) {r : Resolution} (hides : φ.Hides r.game) :
    repeatTimes step times (r.disguise φ) =
      Fault.carry φ.gap (disguise φ) (repeatTimes step times r) := by
  induction times generalizing r with
  | zero => rfl
  | succ times ih =>
      rw [repeatTimes, hidden hides, repeatTimes]
      cases stepped : step r with
      | error fault => rfl
      | ok next => exact ih (hides.of_table (keeps stepped))

/-- An effect is let through, counted and carried out in disguise as without. -/
theorem apply_disguise (effect : Effect) {r : Resolution} (hides : φ.Hides r.game) :
    apply effect (r.disguise φ) = Fault.carry φ.gap (disguise φ) (apply effect r) := by
  have allowed : (r.disguise φ).game.allows (r.disguise φ).scope effect.condition =
      r.game.allows r.scope effect.condition := Game.allows_disguise ..
  have times : (r.disguise φ).game.effectHits (r.disguise φ).scope effect =
      r.game.effectHits r.scope effect := Game.effectHits_disguise ..
  unfold apply
  rw [allowed, times]
  split
  · exact repeatTimes_disguise (perform_disguise effect) perform_table _ hides
  · rfl

/-- Effects in a row stay in step with those of the undisguised record, by
induction on the list; a fault stops both at the same effect. -/
theorem applyAll_disguise (effects : List Effect) {r : Resolution} (hides : φ.Hides r.game) :
    applyAll effects (r.disguise φ) = Fault.carry φ.gap (disguise φ) (applyAll effects r) := by
  induction effects generalizing r with
  | nil => rfl
  | cons effect rest ih =>
      rw [applyAll, apply_disguise effect hides, applyAll]
      cases applied : apply effect r with
      | error fault => rfl
      | ok next => exact ih (hides.of_table (apply_table applied))

theorem settleCrits_disguise (r : Resolution) :
    (r.disguise φ).settleCrits = r.settleCrits.disguise φ := by
  unfold settleCrits
  rw [scope_disguise, active_disguise]
  split
  · refine update_disguise ?_
    dsimp only
    rw [Combatant.spend_shift]
    split
    · exact Combatant.spend_shift ..
    · rfl
  · rfl

/-- The lines of a card are repeated as often, and each repetition is the same
in disguise. -/
theorem activate_disguise (card : Card) {r : Resolution} (hides : φ.Hides r.game) :
    activate card (r.disguise φ) = Fault.carry φ.gap (disguise φ) (activate card r) := by
  have times : (r.disguise φ).game.activations (r.disguise φ).scope card =
      r.game.activations r.scope card := Game.activations_disguise ..
  unfold activate
  rw [times]
  split
  · rfl
  · exact repeatTimes_disguise (applyAll_disguise card.effects) applyAll_table _ hides

end Resolution

/-- A card resolves in disguise as it does without. -/
theorem Game.resolveCard_disguise {g : Game} (hides : φ.Hides g) (card : Card) :
    (g.disguise φ).resolveCard card =
      Fault.carry φ.gap (fun outcome => (outcome.1.disguise φ, outcome.2))
        (g.resolveCard card) := by
  have start : (g.disguise φ).resolution (.ofCard (g.disguise φ).active card) =
      (g.resolution (.ofCard g.active card)).disguise φ := rfl
  unfold resolveCard
  rw [start, Resolution.activate_disguise card hides]
  cases (g.resolution (.ofCard g.active card)).activate card with
  | error fault => rfl
  | ok r =>
      dsimp only [Fault.carry_ok]
      rw [Resolution.settleCrits_disguise]
      rfl

end CardBattle
