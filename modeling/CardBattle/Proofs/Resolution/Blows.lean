/-
Module: CardBattle.Proofs.Resolution.Blows
Purpose: The two ways in which a damage effect can go, with all that is told in each.
Main exports:
  Resolution.Dodges, Resolution.TellsHit, Resolution.Lands, Resolution.log_land, Resolution.lands,
  Resolution.apply_damage_shape
-/
import CardBattle.Proofs.Resolution.Hits

/-!
# Blows

A damage effect is dodged, which costs one stack and nothing else, or it lands.  Where it lands,
health may come back to its dealer, then the hit is told, and then the further hit on a bleeding
side.  A hit on the other side is one event; a hit on oneself may be followed by the one that relics
pass on.
-/

namespace CardBattle

/-- The counter that a dodge is paid from: the one that lasts for a turn comes
first. -/
def Combatant.dodgeCounter (c : Combatant) : Status :=
  if 1 ≤ c.status .tempDodge then .tempDodge else .dodge

/-- There is a stack to dodge with. -/
def Combatant.CanDodge (c : Combatant) : Prop := 1 ≤ c.status .tempDodge ∨ 1 ≤ c.status .dodge

instance (c : Combatant) : Decidable c.CanDodge := inferInstanceAs (Decidable (_ ∨ _))

namespace Resolution

/-- A damage effect is dodged: one stack goes, the miss is told, and nothing
else is written. -/
structure Dodges (r : Resolution) (target : Side) (after : Resolution) : Prop where
  written : after =
    (r.update target fun c => { c with statuses := (after.combatant target).statuses }).emit
      (.miss target)
  spent : (r.combatant target).LosesStack (after.combatant target)
    (r.combatant target).dodgeCounter
  kept : ∀ s, s ≠ (r.combatant target).dodgeCounter →
    (after.combatant target).status s = (r.combatant target).status s

/-- Events in which some of a hit on the other side comes back to its dealer as
health, or none. -/
def TellsDrain (dealer target : Side) (events : List BattleEvent) : Prop :=
  events = [] ∨
    target ≠ dealer ∧ ∃ healed, 0 < healed ∧ events = [.heal dealer healed]

/-- Events of one hit.  Of a hit on oneself, one more can be told that is passed
on to the other side. -/
def TellsHit (dealer target : Side) (amount : Int) (events : List BattleEvent) : Prop :=
  events = [.damage dealer target amount] ∨
    target = dealer ∧ 0 < amount ∧ ∃ passed, 0 < passed ∧
      events = [.damage dealer target amount, .damage dealer dealer.other passed]

/-- The size of the further hit on a bleeding side: never below zero, and raised
to the least size that the relics of the dealer allow where it is a positive hit
on the other side. -/
def bleedSize (r : Resolution) (target : Side) : Int :=
  let plain := max r.game.rules.bleedDamage 0
  if target ≠ r.active ∧ 0 < r.game.rules.bleedDamage then
    ((r.combatant r.active).leastHit?.elim plain (max plain))
  else plain

/-- Events of the further hit on a side that was bleeding when something was
taken from it.  It loses one stack of bleed then, and none otherwise. -/
def TellsBleeding (r : Resolution) (target : Side) (amount : Int) (after : Resolution)
    (events : List BattleEvent) : Prop :=
  if 0 < amount ∧ (r.combatant target).has .bleed = true then
    TellsHit r.active target (r.bleedSize target) events ∧
      (r.combatant target).LosesStack (after.combatant target) .bleed
  else events = [] ∧ (after.combatant target).status .bleed = (r.combatant target).status .bleed

/-- A damage effect lands: what comes back is told first, then the hit, then the
bleeding. -/
def Lands (r : Resolution) (target : Side) (after : Resolution) : Prop :=
  ∃ (amount : Int) (drained hit bled : List BattleEvent),
    after.log = r.log ++ (drained ++ hit ++ bled) ∧ 0 ≤ amount ∧
      TellsDrain r.active target drained ∧ TellsHit r.active target amount hit ∧
      TellsBleeding r target amount after bled

/-! ### Dodging -/

/-- Where a whole stack is left, one stack of the counter that comes first is
spent. -/
theorem dodge?_eq_some {c : Combatant} (dodging : c.CanDodge) :
    dodge? c = some (c.addStatus c.dodgeCounter (-1)) := by
  unfold dodge? Combatant.dodgeCounter
  by_cases temporary : 1 ≤ c.status .tempDodge
  · rw [Combatant.spend?_eq_some temporary, if_pos temporary]
  · rw [Combatant.spend?_eq_none temporary, if_neg temporary]
    exact Combatant.spend?_eq_some (dodging.resolve_left temporary)

/-- Without a whole stack of either counter nothing is spent and the damage is
not dodged. -/
theorem dodge?_eq_none {c : Combatant} (standing : ¬ c.CanDodge) : dodge? c = none := by
  unfold dodge?
  rw [Combatant.spend?_eq_none fun temporary => standing (.inl temporary)]
  exact Combatant.spend?_eq_none fun lasting => standing (.inr lasting)

/-- Both counters for dodging count stacks, so a fraction never remains of a
spent one. -/
theorem dodgeCounter_counted (c : Combatant) : c.dodgeCounter.isFractional = false := by
  unfold Combatant.dodgeCounter
  split <;> rfl

theorem one_le_dodgeCounter {c : Combatant} (dodging : c.CanDodge) :
    1 ≤ c.status c.dodgeCounter := by
  unfold Combatant.dodgeCounter
  split
  case isTrue temporary => exact temporary
  case isFalse none => exact dodging.resolve_left none

variable {r : Resolution} {target : Side}

/-- A side with a stack to spend dodges: this is what becomes of the record on
that branch of a damage effect. -/
theorem dodges (whole : r.game.CountsStacks) (dodging : (r.combatant target).CanDodge) :
    r.Dodges target
      ((r.update target fun _ =>
        (r.combatant target).addStatus (r.combatant target).dodgeCounter (-1)).emit
          (.miss target)) := by
  have counted := dodgeCounter_counted (r.combatant target)
  have rest : ((r.update target fun _ =>
      (r.combatant target).addStatus (r.combatant target).dodgeCounter (-1)).emit
        (.miss target)).combatant target =
      (r.combatant target).addStatus (r.combatant target).dodgeCounter (-1) :=
    Game.combatant_updateCombatant_self ..
  constructor
  case written =>
    rw [rest]
    exact congrArg (Resolution.emit · (.miss target))
      (update_congr (Combatant.setStatus_eq (r.combatant target) _ _))
  case spent =>
    rw [rest]
    exact Combatant.losesStack_addStatus counted (whole target _ counted)
      (one_le_dodgeCounter dodging) rfl
  case kept =>
    intro s apart
    rw [rest]
    exact Combatant.status_setStatus_of_ne _ _ apart

/-! ### What changes no hit

The size of a hit, and what is passed on of it, are read off relics and rules, which stay as they
are while a card resolves. -/

section Unmoved

variable {may : EffectKind → Prop} {after : Resolution}

/-- Relics are among the things that no card changes. -/
theorem Changes.relics_eq (changes : Changes may r after) (side : Side) :
    (after.combatant side).relics = (r.combatant side).relics :=
  congrArg Belongings.relics (Game.belongings_of_table changes.table_eq side)

/-- How much a hit takes is settled by the dealer's relics and the amount, so it
is known before the blow has met its target. -/
theorem hitSize_of_changes (changes : Changes may r after) (source target : Side) (amount : Int) :
    after.hitSize source target amount = r.hitSize source target amount := by
  rw [hitSize, hitSize, raisedHit_congr (changes.relics_eq source)]

/-- What a hit tells can be said of the record before it, as the relics that
answer it are the same. -/
theorem hitEvents_of_changes (changes : Changes may r after) (source target : Side)
    (amount : Int) : after.hitEvents source target amount = r.hitEvents source target amount := by
  have active : after.game.active = r.game.active := congrArg Table.active changes.table_eq
  have relics := changes.relics_eq source
  unfold hitEvents passedOn
  dsimp only
  rw [active, Combatant.damageResponse_congr relics, raisedHit_congr relics]

/-- The further hit on a bleeding side is an ordinary hit of the active side,
with the amount that the rules say. -/
theorem bleedSize_eq (r : Resolution) (target : Side) :
    r.bleedSize target = r.hitSize r.active target r.game.rules.bleedDamage := by
  unfold bleedSize hitSize raisedHit
  dsimp only
  by_cases own : r.active = target
  · rw [if_pos own, if_neg fun across => across.1 own.symm]
  · by_cases positive : 0 < r.game.rules.bleedDamage
    · rw [if_neg own, if_pos ⟨Ne.symm own, positive⟩, if_pos positive,
        Int.max_eq_left (Int.le_of_lt positive)]
      cases (r.combatant r.active).leastHit? with
      | none => rfl
      | some least => rfl
    · rw [if_neg own, if_neg fun across => positive across.2, if_neg positive,
        Int.max_eq_right (Int.not_lt.mp positive)]

/-- The size of the further hit is known before the blow that causes it. -/
theorem bleedSize_of_changes (changes : Changes may r after) (target : Side) :
    after.bleedSize target = r.bleedSize target := by
  have rules : after.game.rules = r.game.rules := congrArg Table.rules changes.table_eq
  rw [bleedSize_eq, bleedSize_eq, changes.active_eq, rules, hitSize_of_changes changes]

end Unmoved

/-! ### Landing -/

/-- A side that a blow has met is hit. -/
def feel (r : Resolution) (target : Side) (blow : Blow) : Resolution :=
  ((r.meet target blow).reduceHealth r.active target blow.value.floorWord).1

/-- The health that a blow takes. -/
def blowSize (r : Resolution) (target : Side) (blow : Blow) : Int :=
  r.hitSize r.active target blow.value.floorWord

theorem feel_changes {may : EffectKind → Prop} (r : Resolution) (target : Side) (blow : Blow) :
    Changes may r (r.feel target blow) :=
  have met : Changes may r (r.meet target blow) := meet_changes ..
  met.trans (reduceHealth_changes met.active_eq target blow.value.floorWord)

/-- A landing blow branches on whether it takes anything.  Only then is damage
noted, and only then does a bleeding side bleed. -/
theorem land_eq (r : Resolution) (target : Side) (blow : Blow) :
    r.land target blow =
      if 0 < r.blowSize target blow then ((r.feel target blow).noteDamage target).bleedOut target
      else r.feel target blow := by
  have met : Changes (fun _ => False) r (r.meet target blow) := meet_changes ..
  rw [land_eq_meet]
  dsimp only
  rw [snd_reduceHealth, hitSize_of_changes met, met.active_eq]
  rfl

/-- At most one heal is told of what comes back, and it is told for the side
whose card resolves. -/
theorem log_drain (r : Resolution) (target : Side) (amount : Int) (share : Binary64) :
    ∃ drained, (r.drain target amount share).log = r.log ++ drained ∧
      TellsDrain r.active target drained := by
  unfold drain
  split
  · exact ⟨[], (List.append_nil _).symm, .inl rfl⟩
  · rename_i other
    dsimp only
    split
    · rename_i healed
      exact ⟨_, log_emit .., .inr ⟨other, _, healed, rfl⟩⟩
    · exact ⟨[], (List.append_nil _).symm, .inl rfl⟩

theorem status_drain (r : Resolution) (target : Side) (amount : Int) (share : Binary64)
    (s : Status) (party : Side) :
    ((r.drain target amount share).combatant party).status s = (r.combatant party).status s := by
  unfold drain
  split
  · rfl
  · dsimp only
    split
    · exact status_update rfl party
    · rfl

theorem status_buildShock (threshold : Int) (c : Combatant) {s : Status} (shock : s ≠ .shock)
    (stun : s ≠ .stun) : (buildShock threshold c).status s = c.status s := by
  have shocked : (c.addStatus .shock 1).status s = c.status s :=
    Combatant.status_setStatus_of_ne _ _ shock
  unfold buildShock
  dsimp only
  split
  · split
    · exact (Combatant.status_setStatus_of_ne _ _ stun).trans
        ((Combatant.status_setStatus_of_ne _ _ shock).trans shocked)
    · exact shocked
  · rfl

/-- What comes back of a blow is told before the hit that brings it. -/
theorem log_feel (r : Resolution) (target : Side) (blow : Blow) :
    ∃ drained, TellsDrain r.active target drained ∧
      (r.feel target blow).log =
        r.log ++ (drained ++ r.hitEvents r.active target (r.blowSize target blow)) := by
  have met : Changes (fun _ => False) r (r.meet target blow) := meet_changes ..
  obtain ⟨drained, log, drains⟩ : ∃ drained, (r.meet target blow).log = r.log ++ drained ∧
      TellsDrain r.active target drained := by
    unfold meet
    split
    · exact log_drain ..
    · exact ⟨[], (List.append_nil _).symm, .inl rfl⟩
  refine ⟨drained, drains, ?_⟩
  rw [feel, log_reduceHealth, log, hitEvents_of_changes met, hitSize_of_changes met,
    List.append_assoc, blowSize]

/-- Of the counters a blow moves those of shock and stun where it meets its
target, and strength where a side hits itself. -/
theorem status_feel (r : Resolution) (target : Side) (blow : Blow) {s : Status}
    (shock : s ≠ .shock) (stun : s ≠ .stun) (strength : s ≠ .strength) (party : Side) :
    ((r.feel target blow).combatant party).status s = (r.combatant party).status s := by
  have met : ((r.meet target blow).combatant party).status s = (r.combatant party).status s := by
    unfold meet
    split
    · exact (status_update (status_buildShock _ _ shock stun) party).trans (status_drain ..)
    · rfl
  exact (status_reduceHealth _ _ _ _ strength party).trans met

@[simp] theorem log_noteDamage (r : Resolution) (target : Side) :
    (r.noteDamage target).log = r.log := by
  unfold noteDamage
  split <;> rfl

@[simp] theorem combatant_noteDamage (r : Resolution) (target party : Side) :
    (r.noteDamage target).combatant party = r.combatant party := by
  unfold noteDamage
  split <;> rfl

/-- What the further hit on a bleeding side tells. -/
def bleedEvents (r : Resolution) (target : Side) : List BattleEvent :=
  if (r.combatant target).has .bleed then r.hitEvents r.active target (r.bleedSize target) else []

/-- The further hit is told after the blow, or nothing is if the side is not
bleeding. -/
theorem log_bleedOut (r : Resolution) (target : Side) :
    (r.bleedOut target).log = r.log ++ r.bleedEvents target := by
  unfold bleedOut bleedEvents
  split
  · rw [log_update, log_reduceHealth, bleedSize_eq]
  · exact (List.append_nil _).symm

/-- A side that is not bleeding is not hit further, and loses no stack. -/
theorem bleedOut_of_not_has (dry : ¬ (r.combatant target).has .bleed = true) :
    r.bleedOut target = r := if_neg dry

/-- A bleeding side has one stack of bleed less after the further hit, whatever
that hit is answered with. -/
theorem losesStack_bleedOut (counts : (r.combatant target).CountsStacks .bleed)
    (bleeding : (r.combatant target).has .bleed = true) :
    (r.combatant target).LosesStack ((r.bleedOut target).combatant target) .bleed := by
  have enough : 1 ≤ (r.combatant target).status .bleed := by
    obtain ⟨n, -, here⟩ := counts
    exact here.one_le_iff.mpr (here.has_iff.mp bleeding)
  have struck := status_reduceHealth r r.active target r.game.rules.bleedDamage
    (s := .bleed) (by decide) target
  rw [bleedOut, if_pos bleeding]
  unfold update combatant
  rw [Game.combatant_updateCombatant_self]
  exact Combatant.losesStack_addStatus rfl counts enough struck

/-- What a blow tells that lands: what comes back of it, the hit, and the
further hit on a bleeding side where there was a hit at all. -/
theorem log_land (r : Resolution) (target : Side) (blow : Blow) :
    ∃ drained, TellsDrain r.active target drained ∧
      (r.land target blow).log =
        r.log ++ (drained ++ r.hitEvents r.active target (r.blowSize target blow) ++
          if 0 < r.blowSize target blow then r.bleedEvents target else []) := by
  obtain ⟨drained, drains, log⟩ := log_feel r target blow
  have noted : Changes (fun _ => False) r ((r.feel target blow).noteDamage target) :=
    (feel_changes r target blow).trans (noteDamage_changes ..)
  have bleed : (((r.feel target blow).noteDamage target).combatant target).status .bleed =
      (r.combatant target).status .bleed := by
    rw [combatant_noteDamage]
    exact status_feel _ _ _ (by decide) (by decide) (by decide) _
  refine ⟨drained, drains, ?_⟩
  rw [land_eq]
  split
  · rw [log_bleedOut, log_noteDamage, log, bleedEvents, bleedEvents, Combatant.has_congr bleed,
      noted.active_eq, hitEvents_of_changes noted, bleedSize_of_changes noted, List.append_assoc]
  · rw [log, List.append_nil]

/-- What a hit tells has one of the two forms: its damage alone, or its damage
and one more hit that is passed on. -/
theorem tellsHit_hitEvents (r : Resolution) (source target : Side) (amount : Int) :
    TellsHit source target amount (r.hitEvents source target amount) := by
  unfold hitEvents
  split
  · rename_i own
    subst own
    rcases passedOn_cases r source amount with none | ⟨⟨-, positive⟩, passed, counted, told⟩
    · rw [none]
      exact .inl rfl
    · rw [told]
      exact .inr ⟨rfl, positive, passed, counted, rfl⟩
  · exact .inl rfl

/-- A blow that takes health makes a bleeding side bleed, and only such a one.
A blow that takes nothing leaves the bleeding for the next. -/
theorem tellsBleeding_land (counts : (r.combatant target).CountsStacks .bleed) (blow : Blow) :
    r.TellsBleeding target (r.blowSize target blow) (r.land target blow)
      (if 0 < r.blowSize target blow then r.bleedEvents target else []) := by
  have felt : ((r.feel target blow).combatant target).status .bleed =
      (r.combatant target).status .bleed :=
    status_feel _ _ _ (by decide) (by decide) (by decide) _
  have noted : (((r.feel target blow).noteDamage target).combatant target).status .bleed =
      (r.combatant target).status .bleed := by
    rw [combatant_noteDamage, felt]
  rw [TellsBleeding, land_eq, bleedEvents]
  by_cases positive : 0 < r.blowSize target blow
  · rw [if_pos positive, if_pos positive]
    by_cases bleeding : (r.combatant target).has .bleed = true
    · rw [if_pos ⟨positive, bleeding⟩, if_pos bleeding]
      have loses := losesStack_bleedOut (counts.of_status noted)
        ((Combatant.has_congr noted).trans bleeding)
      exact ⟨tellsHit_hitEvents .., loses.of_status noted⟩
    · have dry : ¬ (((r.feel target blow).noteDamage target).combatant target).has .bleed = true :=
        fun has => bleeding ((Combatant.has_congr noted).symm.trans has)
      rw [if_neg fun both => bleeding both.2, if_neg bleeding, bleedOut_of_not_has dry]
      exact ⟨rfl, noted⟩
  · rw [if_neg positive, if_neg positive, if_neg fun both => positive both.1]
    exact ⟨rfl, felt⟩

/-- A blow that nothing stops lands: its log has the three parts in this order. -/
theorem lands (counts : (r.combatant target).CountsStacks .bleed) (blow : Blow) :
    r.Lands target (r.land target blow) := by
  obtain ⟨drained, drains, log⟩ := log_land r target blow
  exact ⟨r.blowSize target blow, drained, _, _, log, hitSize_nonneg .., drains,
    tellsHit_hitEvents .., tellsBleeding_land counts blow⟩

/-! ### Damage effects -/

/-- Aiming leaves the record as it was but for the dice. -/
theorem of_aim_eq_ok {aimed : Resolution} {value : Binary64} {blow : Blow}
    (ok : r.aim target value = .ok (blow, aimed)) :
    ∃ dice, aimed = { r with game := { r.game with dice := dice } } := by
  unfold aim at ok
  split at ok
  · cases ok
    exact ⟨r.game.dice, rfl⟩
  · dsimp only at ok
    split at ok
    · cases ok
    · cases ok
      exact ⟨_, rfl⟩

/-- An effect without a guard and without a count is carried out once, so what
holds of a performance holds of it. -/
theorem apply_once {effect : Effect} (unguarded : effect.condition = none)
    (once : effect.hits = none) (r : Resolution) : apply effect r = perform effect r := by
  rw [apply, unguarded, Game.allows, if_pos rfl, Game.effectHits, once]
  dsimp only
  rw [repeatTimes]
  cases perform effect r with
  | error fault => rfl
  | ok after => rfl

/-- A damage effect works out its number and its target first and is damage with
these from then on. -/
theorem perform_damage {effect : Effect} (kind : effect.kind = .damage) (r : Resolution) :
    perform effect r =
      r.damage (effect.target.resolve r.active) (r.game.effectValue r.scope effect) := by
  unfold perform
  rw [kind]

/-- Damage with its number is dodged where there is a stack for it, and is a
blow that lands otherwise.  Aiming the blow throws dice at most. -/
theorem damage_eq_ok {value : Binary64} {after : Resolution}
    (ok : r.damage target value = .ok after) :
    ((r.combatant target).CanDodge ∧
      after = (r.update target fun _ =>
        (r.combatant target).addStatus (r.combatant target).dodgeCounter (-1)).emit
          (.miss target)) ∨
    (¬ (r.combatant target).CanDodge ∧ ∃ dice blow,
      after = land { r with game := { r.game with dice := dice } } target blow) := by
  unfold damage at ok
  by_cases dodging : (r.combatant target).CanDodge
  case pos =>
    rw [dodge?_eq_some dodging] at ok
    cases ok
    exact .inl ⟨dodging, rfl⟩
  case neg =>
    rw [dodge?_eq_none dodging] at ok
    dsimp only at ok
    cases aims : r.aim target value with
    | error fault =>
      rw [aims] at ok
      cases ok
    | ok outcome =>
      obtain ⟨blow, aimed⟩ := outcome
      rw [aims] at ok
      cases ok
      obtain ⟨dice, rfl⟩ := of_aim_eq_ok aims
      exact .inr ⟨dodging, dice, blow, rfl⟩

/-- Whether damage is dodged or lands is decided by the counters of the target
before it. -/
theorem damage_shape {value : Binary64} {after : Resolution} (whole : r.game.CountsStacks)
    (ok : r.damage target value = .ok after) :
    ((r.combatant target).CanDodge → r.Dodges target after) ∧
      (¬ (r.combatant target).CanDodge → r.Lands target after) := by
  rcases damage_eq_ok ok with ⟨dodging, rfl⟩ | ⟨standing, dice, blow, rfl⟩
  · exact ⟨fun _ => dodges whole dodging, fun standing => absurd dodging standing⟩
  · have landed := lands (r := { r with game := { r.game with dice := dice } })
      (whole target .bleed rfl) blow
    exact ⟨fun dodging => absurd dodging standing, fun _ => landed⟩

/-- A damage effect without a guard and without a count, on whichever side and
with whatever relics, is dodged if the side has a stack for it, and lands
otherwise. -/
theorem apply_damage_shape {after : Resolution} {effect : Effect}
    (whole : r.game.CountsStacks) (kind : effect.kind = .damage)
    (unguarded : effect.condition = none) (once : effect.hits = none)
    (ok : apply effect r = .ok after) :
    let target := effect.target.resolve r.active
    ((r.combatant target).CanDodge → r.Dodges target after) ∧
      (¬ (r.combatant target).CanDodge → r.Lands target after) := by
  rw [apply_once unguarded once, perform_damage kind] at ok
  exact damage_shape whole ok

/-- A user with a whetstone and some lifesteal, against a side that bleeds. -/
def skirmish : Resolution where
  game :=
    { Game.fresh .standard 7 with
      combatants :=
        ⟨{ Combatant.withHealth 20 with
            relics := [{ kind := .whetstone, value := 5 }]
            statuses := .insert .empty .lifesteal (1 / 2) },
          { Combatant.withHealth 15 with statuses := .insert .empty .bleed 2 }⟩ }
  scope := .bare .user

/-- In the example the effect lands: some of it comes back, the whetstone raises
the hit, and the bleeding takes another of the same size. -/
theorem skirmish_shape :
    ∃ after, apply (.damage 2) skirmish = .ok after ∧ skirmish.Lands .opponent after ∧
      after.log = [.heal .user 1, .damage .user .opponent 5, .damage .user .opponent 5] := by
  have whole : skirmish.game.CountsStacks := by
    refine Game.countsStacks_of_stored fun side entry stored counted => ?_
    cases side
    · obtain rfl := List.mem_singleton.mp stored
      cases counted
    · obtain rfl := List.mem_singleton.mp stored
      exact ⟨2, by decide, by decide +kernel⟩
  have standing : ¬ (skirmish.combatant .opponent).CanDodge := by
    decide +kernel
  have told : (apply (.damage 2) skirmish).toOption.map log =
      some [.heal .user 1, .damage .user .opponent 5, .damage .user .opponent 5] := by
    decide +kernel
  cases ok : apply (.damage 2) skirmish with
  | error fault =>
    rw [ok] at told
    cases told
  | ok after =>
    rw [ok] at told
    obtain ⟨-, lands⟩ := apply_damage_shape whole rfl rfl rfl ok
    exact ⟨after, rfl, lands standing, Option.some.inj told⟩

end Resolution

end CardBattle
