/-
Module: CardBattle.Proofs.Resolution.Changes
Purpose: Everything that resolving a card can do to a record, as a list of elementary changes.
Main exports:
  Resolution.Change, Resolution.Changes, Resolution.Changes.table_eq, Resolution.Untouched,
  Resolution.Changes.view_eq, Resolution.Tells, Resolution.Changes.tells,
  Resolution.activate_changes, Game.resolveCard_changes
-/
import CardBattle.Proofs.Game.Table
import CardBattle.Resolution.Effects
import Mathlib.Logic.Relation

/-!
# Elementary changes

Cards nest repetitions, lines, hits, guards and answers of relics, but what comes of them is a
sequence of changes of eight kinds.  A law about whole cards is then one case for each kind, and an
induction over the sequence.

Which counters and fields change depends on the kinds of effects that the card carries, so a
sequence names the kinds that may occur in it.
-/

namespace CardBattle

/-- Counters that hits spend or build up whatever the card says. -/
def Status.movedByHits : Status → Bool
  | .tempDodge | .dodge | .strength | .shock | .stun | .bleed => true
  | _ => false

namespace Resolution

open Relation (ReflTransGen)

/-- One elementary change of a resolution that carries out effects of the given
kinds. -/
inductive Change (may : EffectKind → Prop) (r : Resolution) : Resolution → Prop where
  /-- A counter is set, by a hit or by an effect. -/
  | counter (side : Side) (s : Status) (value : Binary64)
      (cause : s.movedByHits = true ∨ may (.status s)) :
      Change may r (r.update side fun c => c.setStatus s value)
  /-- An effect overwrites a field. -/
  | overwritten (side : Side) {field : Field} {value : Binary64} {c : Combatant}
      (cause : may (.set field)) (written : (r.combatant side).assign field value = .ok c) :
      Change may r (r.update side fun _ => c)
  /-- Dice are rolled. -/
  | rolled (dice : Dice) : Change may r { r with game := { r.game with dice := dice } }
  /-- A hit is dodged. -/
  | missed (side : Side) : Change may r (r.emit (.miss side))
  /-- A side gains health, or loses some to a heal below zero. -/
  | healed (side : Side) (amount : Int) :
      Change may r
        ((r.update side fun c => { c with health := c.health + amount }).emit (.heal side amount))
  /-- The active side hits the other. -/
  | struck {amount : Int} (counted : 0 ≤ amount) :
      Change may r
        ((r.wound r.active r.active.other amount).update r.active fun c =>
          { c with damageThisTurn := c.damageThisTurn + amount })
  /-- The active side hits itself. -/
  | suffered {amount : Int} (counted : 0 ≤ amount) :
      Change may r (r.wound r.active r.active amount)
  /-- It is noted that the active side has damaged the other. -/
  | noted : Change may r { r with scope := { r.scope with causedDamage := true } }

/-- A sequence of elementary changes. -/
abbrev Changes (may : EffectKind → Prop) : Resolution → Resolution → Prop :=
  ReflTransGen (Change may)

variable {may : EffectKind → Prop}

theorem Change.mono {more : EffectKind → Prop} (sub : ∀ kind, may kind → more kind)
    {r after : Resolution} (change : Change may r after) : Change more r after := by
  cases change with
  | counter side s value cause => exact .counter side s value (cause.imp_right (sub _))
  | overwritten side cause written => exact .overwritten side (sub _ cause) written
  | rolled dice => exact .rolled dice
  | missed side => exact .missed side
  | healed side amount => exact .healed side amount
  | struck counted => exact .struck counted
  | suffered counted => exact .suffered counted
  | noted => exact .noted

/-- A sequence over few kinds is one over more kinds.  Laws about parts of a
card are carried over to the whole card in this way. -/
theorem Changes.mono {more : EffectKind → Prop} (sub : ∀ kind, may kind → more kind)
    {r after : Resolution} (changes : Changes may r after) : Changes more r after :=
  ReflTransGen.mono (fun _ _ change => change.mono sub) _ _ changes

/-! ### The active side and the table -/

/-- Whose card resolves is settled before the first change, and no change makes
it another. -/
theorem Change.active_eq {r after : Resolution} (change : Change may r after) :
    after.active = r.active := by
  cases change <;> rfl

/-- The same side is active from the first to the last change of a card. -/
theorem Changes.active_eq {r after : Resolution} (changes : Changes may r after) :
    after.active = r.active := by
  induction changes with
  | refl => rfl
  | tail _ change ih => rw [change.active_eq, ih]

/-- Neither the tribe nor the lifesteal of the card that resolves is written. -/
theorem Change.card_eq {r after : Resolution} (change : Change may r after) :
    after.scope.tribe = r.scope.tribe ∧ after.scope.lifesteal = r.scope.lifesteal := by
  cases change <;> exact ⟨rfl, rfl⟩

/-- Through a whole card the scope keeps the tribe and the lifesteal that it
began with. -/
theorem Changes.card_eq {r after : Resolution} (changes : Changes may r after) :
    after.scope.tribe = r.scope.tribe ∧ after.scope.lifesteal = r.scope.lifesteal := by
  induction changes with
  | refl => exact ⟨rfl, rfl⟩
  | tail _ change ih => exact ⟨change.card_eq.1.trans ih.1, change.card_eq.2.trans ih.2⟩

/-- The fields that an effect can overwrite are health, counters and tallies.
Piles, relics and the cursor are not among them. -/
theorem belongings_assign {c written : Combatant} {field : Field} {value : Binary64}
    (ok : c.assign field value = .ok written) : written.belongings = c.belongings := by
  unfold Combatant.assign at ok
  split at ok
  case h_4 s => exact Except.ok.inj ok ▸ Combatant.belongings_setStatus ..
  all_goals cases ok
  all_goals rfl

theorem table_wound (r : Resolution) (source target : Side) (amount : Int) :
    (r.wound source target amount).game.table = r.game.table :=
  Game.table_updateCombatant rfl

/-- Each kind of change writes to health, counters, tallies, dice or scope. -/
theorem Change.table_eq {r after : Resolution} (change : Change may r after) :
    after.game.table = r.game.table := by
  cases change with
  | counter side s value => exact Game.table_updateCombatant (Combatant.belongings_setStatus ..)
  | overwritten side cause written => exact Game.table_updateCombatant (belongings_assign written)
  | rolled dice => rfl
  | missed side => rfl
  | healed side amount => exact Game.table_updateCombatant rfl
  | struck counted => exact (Game.table_updateCombatant rfl).trans (table_wound ..)
  | suffered counted => exact table_wound ..
  | noted => rfl

/-- A resolving card leaves the table alone. -/
theorem Changes.table_eq {r after : Resolution} (changes : Changes may r after) :
    after.game.table = r.game.table := by
  induction changes with
  | refl => rfl
  | tail _ change ih => rw [change.table_eq, ih]

/-! ### What of a combatant stays -/

/-- A view of the combatant of a side that no change of the given kinds moves.
Only the active side deals damage to the other. -/
structure Untouched {α : Type} (may : EffectKind → Prop) (active side : Side)
    (view : Combatant → α) : Prop where
  counter : ∀ (c : Combatant) (s : Status) (value : Binary64),
    s.movedByHits = true ∨ may (.status s) → view (c.setStatus s value) = view c
  overwritten : ∀ {c written : Combatant} {field : Field} {value : Binary64},
    may (.set field) → c.assign field value = .ok written → view written = view c
  health : ∀ (c : Combatant) (health : Int), view { c with health := health } = view c
  dealt : side = active → ∀ (c : Combatant) (amount : Int),
    view { c with damageThisTurn := amount } = view c

/-- A view that the listed kinds leave alone on their side shows the same before
and after one change. -/
theorem Change.view_eq {α : Type} (view : Combatant → α) {r after : Resolution} {side : Side}
    (untouched : Untouched may r.active side view) (change : Change may r after) :
    view (after.combatant side) = view (r.combatant side) := by
  cases change with
  | counter party s value cause =>
      exact Game.view_updateCombatant view (untouched.counter _ s value cause) side
  | overwritten party cause written =>
      have same := untouched.overwritten cause written
      exact Game.view_updateCombatant view same side
  | rolled dice => rfl
  | missed party => rfl
  | healed party amount => exact Game.view_updateCombatant view (untouched.health ..) side
  | @struck amount =>
      have hurt : view ((r.wound r.active r.active.other amount).combatant side) =
          view (r.combatant side) :=
        Game.view_updateCombatant view (untouched.health ..) side
      refine Eq.trans ?_ hurt
      rcases Side.eq_or_eq_other side r.active with own | other
      · exact Game.view_updateCombatant view (untouched.dealt own ..) side
      · rw [other]
        exact congrArg view (Game.combatant_updateCombatant_other ..)
  | suffered => exact Game.view_updateCombatant view (untouched.health ..) side
  | noted => rfl

/-- The induction behind every statement that a card leaves something of a
combatant as it was. -/
theorem Changes.view_eq {α : Type} (view : Combatant → α) {r after : Resolution} {side : Side}
    (untouched : Untouched may r.active side view) (changes : Changes may r after) :
    view (after.combatant side) = view (r.combatant side) := by
  induction changes with
  | refl => rfl
  | tail before change ih =>
      rw [← Changes.active_eq before] at untouched
      exact (change.view_eq view untouched).trans ih

/-! ### The log -/

/-- What happened between two points of a resolution is in the log, and relates
both records. -/
def Tells (R : Game → List BattleEvent → Game → Prop) (r after : Resolution) : Prop :=
  ∃ told, after.scope.events.toList = r.scope.events.toList ++ told ∧ R r.game told after.game

/-- A change that notes nothing tells the empty log, so the law has to hold of
the two records with nothing between them. -/
theorem Tells.silent {R : Game → List BattleEvent → Game → Prop} {r after : Resolution}
    (log : after.scope.events = r.scope.events) (law : R r.game [] after.game) : Tells R r after :=
  ⟨[], by rw [log, List.append_nil], law⟩

/-- A law that holds of single changes, with what they tell, and that adds up
holds of sequences of them.  The active side is the same all the way. -/
theorem Changes.tells {R : Game → List BattleEvent → Game → Prop} (still : ∀ g, R g [] g)
    (andThen : ∀ {g h k : Game} {first second : List BattleEvent},
      R g first h → R h second k → R g (first ++ second) k)
    {start after : Resolution}
    (step : ∀ {r next : Resolution}, r.active = start.active → Change may r next → Tells R r next)
    (changes : Changes may start after) : Tells R start after := by
  induction changes with
  | refl => exact .silent rfl (still _)
  | tail before change ih =>
      obtain ⟨first, log, one⟩ := ih
      obtain ⟨second, more, two⟩ := step (Changes.active_eq before) change
      exact ⟨first ++ second, by rw [more, log, List.append_assoc], andThen one two⟩

/-! ### Counters -/

/-- Two changes that agree on the combatant they meet are one and the same for
the resolution. -/
theorem update_congr {r : Resolution} {side : Side} {change other : Combatant → Combatant}
    (same : change (r.combatant side) = other (r.combatant side)) :
    r.update side change = r.update side other := by
  unfold update
  rw [Game.updateCombatant_congr same]

theorem update_update (r : Resolution) (side : Side) (first second : Combatant → Combatant) :
    (r.update side first).update side second = r.update side fun c => second (first c) := by
  unfold update
  rw [Game.updateCombatant_updateCombatant]

/-- Adding to a counter sets it. -/
theorem Change.added (r : Resolution) (side : Side) (s : Status) (addend : Binary64)
    (cause : s.movedByHits = true ∨ may (.status s)) :
    Change may r (r.update side fun c => c.addStatus s addend) := by
  have set := Change.counter (r := r) side s ((r.combatant side).status s + addend) cause
  rwa [show (r.update side fun c => c.setStatus s ((r.combatant side).status s + addend)) =
      r.update side fun c => c.addStatus s addend from update_congr rfl] at set

/-- Spending a stack sets a counter to one less, which is an elementary change
if hits or the card may move that counter. -/
theorem Change.spent {r : Resolution} {side : Side} {s : Status} {rest : Combatant}
    (cause : s.movedByHits = true ∨ may (.status s))
    (spent : (r.combatant side).spend? s = some rest) :
    Change may r (r.update side fun _ => rest) := by
  rw [Combatant.of_spend?_eq_some spent]
  have added := Change.added r side s (-1) cause
  rwa [show (r.update side fun c => c.addStatus s (-1)) =
      r.update side fun _ => (r.combatant side).addStatus s (-1) from update_congr rfl] at added

theorem update_id (r : Resolution) (side : Side) : (r.update side fun c => c) = r := by
  cases side <;> rfl

/-! ### Single hits -/

/-- A hit on the other side never takes a negative amount: below one it takes
nothing, and relics can only raise it. -/
theorem raisedHit_nonneg (dealer : Combatant) (amount : Int) : 0 ≤ raisedHit dealer amount := by
  unfold raisedHit
  split
  · split <;> omega
  · exact Int.le_refl 0

/-- A hit of the active side on the other is one change, the strike with its
count. -/
theorem hitOther_change {r : Resolution} {source : Side} (own : r.active = source) (amount : Int) :
    Change may r (r.hitOther source amount).1 := by
  subst own
  exact .struck (raisedHit_nonneg ..)

/-- A hit of the active side on itself is a loss of health, then perhaps
strength, then perhaps a strike that is passed on. -/
theorem hitSelf_changes {r : Resolution} {side : Side} (own : r.active = side) (amount : Int) :
    Changes may r (r.hitSelf side amount).1 := by
  subst own
  unfold hitSelf
  dsimp only
  generalize ((r.wound r.active r.active (max amount 0)).combatant r.active).damageResponse _ _ =
    response
  have hurt : Changes may r (r.wound r.active r.active (max amount 0)) :=
    .single (.suffered (Int.le_max_right amount 0))
  have stronger : Changes may r
      (if 0 < response.strength then
        (r.wound r.active r.active (max amount 0)).update r.active fun c =>
          c.addStatus .strength response.strength
      else r.wound r.active r.active (max amount 0)) := by
    split
    · exact hurt.tail (.added _ _ _ _ (.inl rfl))
    · exact hurt
  split
  · exact stronger.tail (hitOther_change stronger.active_eq _)
  · exact stronger

/-- Hits of any size on either side are made of strikes and losses of the active
side, and of the strength that relics give for these. -/
theorem reduceHealth_changes {r : Resolution} {source : Side} (own : r.active = source)
    (target : Side) (amount : Int) : Changes may r (r.reduceHealth source target amount).1 := by
  unfold reduceHealth
  split
  · exact hitSelf_changes own amount
  · exact .single (hitOther_change own amount)

/-! ### Blows -/

theorem drain_changes (r : Resolution) (target : Side) (amount : Int) (share : Binary64) :
    Changes may r (r.drain target amount share) := by
  unfold drain
  split
  · exact .refl
  · dsimp only
    split
    · exact .single (.healed ..)
    · exact .refl

/-- Shock that builds up sets a counter once, or three times where it turns into
a stun. -/
theorem buildShock_changes (r : Resolution) (target : Side) (threshold : Int) :
    Changes may r (r.update target (buildShock threshold)) := by
  have shock : Changes may r (r.update target fun c => c.addStatus .shock 1) :=
    .single (.added _ _ _ _ (.inl rfl))
  by_cases shocked : (r.combatant target).has .shock = true
  · by_cases full : threshold ≤ ((r.combatant target).addStatus .shock 1).wholeStacks .shock
    · have stun := (shock.tail (.added _ target .shock (-Binary64.ofInt threshold) (.inl rfl))).tail
        (.added _ target .stun 1 (.inl rfl))
      rw [update_update, update_update] at stun
      rw [update_congr]
      · exact stun
      · simp [buildShock, shocked, full]
    · rw [update_congr]
      · exact shock
      · simp [buildShock, shocked, full]
  · have still : r.update target (buildShock threshold) = r.update target fun c => c :=
      update_congr (by simp [buildShock, shocked])
    rw [still, update_id]

/-- A bleeding target takes one more hit, and then its counter goes down. -/
theorem bleedOut_changes (r : Resolution) (target : Side) : Changes may r (r.bleedOut target) := by
  unfold bleedOut
  split
  · exact (reduceHealth_changes rfl ..).tail (.added _ _ _ _ (.inl rfl))
  · exact .refl

theorem noteDamage_changes (r : Resolution) (target : Side) :
    Changes may r (r.noteDamage target) := by
  unfold noteDamage
  split
  · exact .refl
  · exact .single .noted

/-- What a blow does before it is felt: some of it comes back, and shock builds
up. -/
def meet (r : Resolution) (target : Side) (blow : Blow) : Resolution :=
  if 0 < blow.value.floorWord then
    (r.drain target blow.value.floorWord blow.lifesteal).update target
      (buildShock r.game.rules.shockThreshold)
  else r

theorem meet_changes (r : Resolution) (target : Side) (blow : Blow) :
    Changes may r (r.meet target blow) := by
  unfold meet
  split
  · exact (drain_changes ..).trans (buildShock_changes ..)
  · exact .refl

/-- A blow that lands is met first and felt then.  The two halves are named
apart so that each has its own lemmas. -/
theorem land_eq_meet (r : Resolution) (target : Side) (blow : Blow) :
    r.land target blow =
      let outcome := (r.meet target blow).reduceHealth (r.meet target blow).active target
        blow.value.floorWord
      if 0 < outcome.2 then (outcome.1.noteDamage target).bleedOut target else outcome.1 := rfl

/-- What a landing blow does is a sequence of changes from the drained health to
the bleeding. -/
theorem land_changes (r : Resolution) (target : Side) (blow : Blow) :
    Changes may r (r.land target blow) := by
  have met : Changes may r (r.meet target blow) := meet_changes ..
  have hurt := met.trans (reduceHealth_changes rfl target blow.value.floorWord)
  rw [land_eq_meet]
  dsimp only
  split
  · exact hurt.trans ((noteDamage_changes ..).trans (bleedOut_changes ..))
  · exact hurt

/-- Of aiming only the dice are left in the record. -/
theorem aim_changes {r aimed : Resolution} {target : Side} {value : Binary64} {blow : Blow}
    (ok : r.aim target value = .ok (blow, aimed)) : Changes may r aimed := by
  unfold aim at ok
  split at ok
  · cases ok
    exact .refl
  · dsimp only at ok
    split at ok
    · cases ok
    · cases ok
      exact .single (.rolled _)

/-- A dodged hit spends a stack of one of the two counters for it, both of which
hits may move. -/
theorem dodge?_change {r : Resolution} {target : Side} {rest : Combatant}
    (dodged : dodge? (r.combatant target) = some rest) :
    Change may r (r.update target fun _ => rest) := by
  unfold dodge? at dodged
  split at dodged
  · rename_i spent
    cases dodged
    exact .spent (.inl rfl) spent
  · exact .spent (.inl rfl) dodged

/-- A damage effect that does not fail is a sequence of changes that any card
may cause. -/
theorem damage_changes {r after : Resolution} {target : Side} {value : Binary64}
    (ok : r.damage target value = .ok after) : Changes may r after := by
  unfold damage at ok
  split at ok
  · rename_i dodged
    cases ok
    exact .tail (.single (dodge?_change dodged)) (.missed target)
  · split at ok
    · cases ok
    · rename_i aimed
      cases ok
      exact (aim_changes aimed).trans (land_changes ..)

/-! ### Effects and cards -/

/-- An effect carried out once changes what its kind allows. -/
theorem perform_changes {effect : Effect} {r after : Resolution} (allowed : may effect.kind)
    (ok : perform effect r = .ok after) : Changes may r after := by
  unfold perform at ok
  dsimp only at ok
  split at ok
  · exact damage_changes ok
  · cases ok
    exact .single (.healed ..)
  · cases ok
    exact .refl
  · rename_i kind
    cases ok
    exact .single (.added _ _ _ _ (.inr (kind ▸ allowed)))
  · rename_i kind
    unfold overwrite at ok
    split at ok
    · rename_i written
      cases ok
      exact .single (.overwritten _ (kind ▸ allowed) written)
    · cases ok

theorem repeatTimes_changes {step : Resolution → Except Fault Resolution}
    (steps : ∀ {r after}, step r = .ok after → Changes may r after) {times : Nat}
    {r after : Resolution} (ok : repeatTimes step times r = .ok after) : Changes may r after := by
  induction times generalizing r with
  | zero =>
      cases ok
      exact .refl
  | succ times ih =>
      unfold repeatTimes at ok
      split at ok
      · rename_i stepped
        exact (steps stepped).trans (ih ok)
      · cases ok

/-- An effect with its guard and its count causes no other changes than those of
its kind. -/
theorem apply_changes {effect : Effect} {r after : Resolution} (allowed : may effect.kind)
    (ok : apply effect r = .ok after) : Changes may r after := by
  unfold apply at ok
  split at ok
  · exact repeatTimes_changes (perform_changes allowed) ok
  · cases ok
    exact .refl

theorem applyAll_changes {effects : List Effect} {r after : Resolution}
    (allowed : ∀ effect ∈ effects, may effect.kind) (ok : applyAll effects r = .ok after) :
    Changes may r after := by
  induction effects generalizing r with
  | nil =>
      cases ok
      exact .refl
  | cons effect rest ih =>
      unfold applyAll at ok
      split at ok
      · rename_i applied
        exact (apply_changes (allowed _ (List.mem_cons_self ..)) applied).trans
          (ih (fun other mem => allowed other (List.mem_cons_of_mem _ mem)) ok)
      · cases ok

end Resolution

/-- Whether a card has a line of a kind. -/
def Card.Carries (card : Card) (kind : EffectKind) : Prop :=
  ∃ effect ∈ card.effects, effect.kind = kind

/-- A card carries no kind of line apart from those that its lines are of. -/
theorem Card.not_carries {card : Card} {kinds : List EffectKind} {kind : EffectKind}
    (lines : ∀ effect ∈ card.effects, effect.kind ∈ kinds) (other : kind ∉ kinds) :
    ¬ card.Carries kind := by
  rintro ⟨effect, line, rfl⟩
  exact other (lines effect line)

namespace Resolution

open Relation (ReflTransGen)

/-- A card changes what the kinds of its lines allow, however often it is
repeated. -/
theorem activate_changes {card : Card} {r after : Resolution}
    (ok : activate card r = .ok after) : Changes card.Carries r after := by
  unfold activate at ok
  split at ok
  · cases ok
    exact .refl
  · exact repeatTimes_changes
      (fun applied => applyAll_changes (fun effect mem => ⟨effect, mem, rfl⟩) applied) ok

/-- Spending what made hits critical moves the two counters for it. -/
theorem settleCrits_changes {may : EffectKind → Prop} (crit : may (.status .crit))
    (fire : may (.status .tempFireCrit)) (r : Resolution) : Changes may r r.settleCrits := by
  have spend : ∀ (r : Resolution) (s : Status), may (.status s) →
      Changes may r (r.update r.active fun c => c.spend s) := by
    intro r s allowed
    cases spent : (r.combatant r.active).spend? s with
    | some rest =>
        have paid : (r.update r.active fun c => c.spend s) = r.update r.active fun _ => rest :=
          update_congr (by simp [Combatant.spend, spent])
        rw [paid]
        exact .single (.spent (.inr allowed) spent)
    | none =>
        have still : (r.update r.active fun c => c.spend s) = r.update r.active fun c => c :=
          update_congr (by simp [Combatant.spend, spent])
        rw [still, update_id]
  unfold settleCrits
  split
  · split
    · have both := (spend r .crit crit).trans (spend _ .tempFireCrit fire)
      rwa [show (r.update r.active fun c => c.spend .crit).active = r.active from rfl,
        update_update] at both
    · exact spend r .crit crit
  · exact .refl

end Resolution

/-- What a card with its settling may change. -/
def Card.MayChange (card : Card) (kind : EffectKind) : Prop :=
  card.Carries kind ∨ kind = .status .crit ∨ kind = .status .tempFireCrit

/-- Settling overwrites no field. -/
theorem Card.MayChange.carries {card : Card} {field : Field}
    (change : card.MayChange (.set field)) : card.Carries (.set field) := by
  rcases change with carried | crit | fire
  · exact carried
  · cases crit
  · cases fire

/-- Resolving a card is a sequence of elementary changes, and what it tells is
its log. -/
theorem Game.resolveCard_changes {g after : Game} {card : Card} {events : List BattleEvent}
    (ok : g.resolveCard card = .ok (after, events)) :
    ∃ r, Resolution.Changes card.MayChange (g.resolution (.ofCard g.active card)) r ∧
      after = r.game ∧ events = r.scope.events.toList := by
  unfold resolveCard at ok
  split at ok
  · rename_i r activated
    cases ok
    refine ⟨r.settleCrits, ?_, rfl, rfl⟩
    exact ((Resolution.activate_changes activated).mono fun _ => .inl).trans
      (Resolution.settleCrits_changes (.inr (.inl rfl)) (.inr (.inr rfl)) r)
  · cases ok

/-- Resolving a card leaves the table alone. -/
theorem Game.resolveCard_table {g after : Game} {card : Card} {events : List BattleEvent}
    (ok : g.resolveCard card = .ok (after, events)) : after.table = g.table := by
  obtain ⟨r, changes, rfl, -⟩ := resolveCard_changes ok
  exact changes.table_eq

end CardBattle
