/-
Module: CardBattle.Proofs.Resolution.Crits
Purpose: When a card pays for its critical hits.
Main exports:
  Combatant.PassesOn, Combatant.TellsBlow, Resolution.Notes, Resolution.perform_notes,
  Resolution.Passes.notes, Combatant.Pays, Card.SparesCrits, Game.resolveCard_pays_crits
-/
import CardBattle.Proofs.Game.Requests
import CardBattle.Proofs.Resolution.Blows
import CardBattle.Proofs.Resolution.Tally

/-!
# Paying for critical hits

Stacks that make hits critical are paid for once a card is done, one of each kind, and only if the
card has damaged the other side.  That it has is noted where one of its blows lands.  Damage that
relics pass on, of a hit of a side on itself, is told as damage to the other side too, but no note is
taken of it.  The log tells the two apart: what is passed on comes right after the hit that it is
passed on from.
-/

namespace CardBattle

namespace Combatant

/-- A hit of a side on itself of which its relics pass something on. -/
def PassesOn (owner : Combatant) (side : Side) (event : BattleEvent) : Prop :=
  ∃ amount, event = .damage side side amount ∧ 0 < (owner.damageResponse amount true).mirrored

/-- Whatever comes after these events, it is not passed on from the last of
them. -/
def Settled (owner : Combatant) (side : Side) (events : List BattleEvent) : Prop :=
  ∀ event ∈ events.getLast?, ¬ owner.PassesOn side event

/-- The events tell of a blow: of damage to the other side that was not passed
on. -/
def TellsBlow (owner : Combatant) (side : Side) (events : List BattleEvent) : Prop :=
  ∃ before amount rest, events = before ++ .damage side side.other amount :: rest ∧
    0 < amount ∧ owner.Settled side before

variable {owner : Combatant} {side : Side} {first second : List BattleEvent}

theorem settled_nil : owner.Settled side [] := nofun

/-- A log is settled when its last event is not one that something is passed on
from. -/
theorem settled_concat (events : List BattleEvent) {event : BattleEvent}
    (kept : ¬ owner.PassesOn side event) : owner.Settled side (events ++ [event]) := by
  intro last here
  rw [List.getLast?_concat] at here
  cases here
  exact kept

/-- Two settled logs are settled one after the other: if the second is empty,
the first one's end counts. -/
theorem Settled.append (one : owner.Settled side first) (two : owner.Settled side second) :
    owner.Settled side (first ++ second) := by
  intro event last
  rw [List.getLast?_append] at last
  cases ends : second.getLast? with
  | none =>
    rw [ends] at last
    exact one event last
  | some final =>
    rw [ends] at last
    exact two event (ends.trans last)

/-- The later part of a settled log is settled, because only the end of a log is
looked at. -/
theorem Settled.of_append (both : owner.Settled side (first ++ second)) :
    owner.Settled side second := by
  intro event last
  refine both event ?_
  rw [List.getLast?_append, last]
  rfl

theorem not_tellsBlow_nil : ¬ owner.TellsBlow side [] := by
  rintro ⟨before, amount, rest, split, -⟩
  simp at split

/-- A single event tells of a blow when it is positive damage to the other side.
There is nothing before it that could have been passed on. -/
theorem tellsBlow_singleton {event : BattleEvent} :
    owner.TellsBlow side [event] ↔
      ∃ amount, event = .damage side side.other amount ∧ 0 < amount := by
  constructor
  · rintro ⟨before, amount, rest, split, positive, -⟩
    cases before with
    | nil =>
      cases split
      exact ⟨amount, rfl, positive⟩
    | cons _ _ => simp at split
  · rintro ⟨amount, rfl, positive⟩
    exact ⟨[], amount, [], rfl, positive, settled_nil⟩

/-- What is passed on is no blow. -/
theorem not_tellsBlow_of_passesOn {event passed : BattleEvent}
    (passes : owner.PassesOn side event) : ¬ owner.TellsBlow side [event, passed] := by
  rintro ⟨before, amount, rest, split, -, settled⟩
  match before with
  | [] =>
    obtain ⟨own, rfl, -⟩ := passes
    injection split with same
    injection same with _ across
    exact Side.ne_other side across
  | [_] =>
    cases split
    exact settled event rfl passes
  | _ :: _ :: _ => simp at split

/-- Lists of events that are told one after the other tell of a blow where one
of them does, as long as nothing is passed on from one to the next. -/
theorem tellsBlow_append (settled : owner.Settled side first) :
    owner.TellsBlow side (first ++ second) ↔
      owner.TellsBlow side first ∨ owner.TellsBlow side second := by
  constructor
  · rintro ⟨before, amount, rest, split, positive, quiet⟩
    -- Right at the seam, what comes before the blow is the whole first list, which is settled.
    rcases List.append_eq_append_iff.mp split with ⟨late, rfl, later⟩ | ⟨early, rfl, earlier⟩
    · exact .inr ⟨late, amount, rest, later, positive, quiet.of_append⟩
    · cases early with
      | nil => exact .inr ⟨[], amount, rest, earlier.symm, positive, settled_nil⟩
      | cons event early =>
        cases earlier
        exact .inl ⟨before, amount, early, rfl, positive, quiet⟩
  · rintro (⟨before, amount, rest, rfl, positive, quiet⟩ | ⟨before, amount, rest, rfl, positive,
      quiet⟩)
    · exact ⟨before, amount, rest ++ second, by simp, positive, quiet⟩
    · exact ⟨first ++ before, amount, rest, by simp, positive, settled.append quiet⟩

/-- Where nothing is passed on, a blow is any damage to the other side. -/
theorem tellsBlow_iff_mem {events : List BattleEvent}
    (quiet : ∀ event ∈ events, ¬ owner.PassesOn side event) :
    owner.TellsBlow side events ↔
      ∃ amount, 0 < amount ∧ .damage side side.other amount ∈ events := by
  constructor
  · rintro ⟨before, amount, rest, rfl, positive, -⟩
    exact ⟨amount, positive, by simp⟩
  · rintro ⟨amount, positive, told⟩
    obtain ⟨before, rest, rfl⟩ := List.append_of_mem told
    refine ⟨before, amount, rest, rfl, positive, fun event last => quiet event ?_⟩
    exact List.mem_append_left _ (List.mem_of_getLast? last)

end Combatant

namespace Resolution

variable {owner : Combatant} {side target : Side} {r after : Resolution}

/-! ### What a hit tells of blows -/

/-- What is passed on depends on the relics of the side, so it can be said of
any owner with the same ones. -/
theorem passedOn_eq (playing : r.game.active = side)
    (relics : (r.combatant side).relics = owner.relics) (amount : Int) :
    r.passedOn side amount =
      if 0 < (owner.damageResponse amount true).mirrored then
        [.damage side side.other (raisedHit owner (owner.damageResponse amount true).mirrored)]
      else [] := by
  unfold passedOn
  dsimp only
  rw [playing, decide_eq_true rfl, Combatant.damageResponse_congr relics, raisedHit_congr relics]

/-- A hit is told with what is passed on of it, so nothing told later is passed
on from its last event. -/
theorem settled_hitEvents (playing : r.game.active = side)
    (relics : (r.combatant side).relics = owner.relics) (target : Side) (amount : Int) :
    owner.Settled side (r.hitEvents side target amount) := by
  have across : ∀ hit, ¬ owner.PassesOn side (.damage side side.other hit) := by
    rintro hit ⟨own, same, -⟩
    injection same with _ across
    exact Side.other_ne side across
  unfold hitEvents
  by_cases own : side = target
  · subst own
    rw [if_pos rfl, passedOn_eq playing relics]
    split
    · exact Combatant.settled_concat [.damage side side amount] (across _)
    · rename_i kept
      refine Combatant.settled_concat [] ?_
      rintro ⟨own, same, passes⟩
      cases same
      exact kept passes
  · rw [if_neg own, (Side.eq_or_eq_other target side).resolve_left (Ne.symm own)]
    exact Combatant.settled_concat [] (across amount)

/-- A hit on the other side is a blow, and one on oneself is not, whatever is
passed on of it. -/
theorem tellsBlow_hitEvents (playing : r.game.active = side)
    (relics : (r.combatant side).relics = owner.relics) (target : Side) (amount : Int) :
    owner.TellsBlow side (r.hitEvents side target amount) ↔ target ≠ side ∧ 0 < amount := by
  unfold hitEvents
  by_cases own : side = target
  · subst own
    refine iff_of_false ?_ fun other => other.1 rfl
    rw [if_pos rfl, passedOn_eq playing relics]
    split
    · rename_i passes
      exact Combatant.not_tellsBlow_of_passesOn ⟨amount, rfl, passes⟩
    · rw [Combatant.tellsBlow_singleton]
      rintro ⟨hit, same, -⟩
      injection same with _ across
      exact Side.ne_other side across
  · rw [if_neg own, (Side.eq_or_eq_other target side).resolve_left (Ne.symm own),
      Combatant.tellsBlow_singleton]
    constructor
    · rintro ⟨hit, same, positive⟩
      cases same
      exact ⟨Side.other_ne side, positive⟩
    · rintro ⟨-, positive⟩
      exact ⟨amount, rfl, positive⟩

/-! ### What is noted -/

/-- A hit by itself is not noted, not even one on the other side that relics
pass on. -/
theorem causedDamage_reduceHealth (r : Resolution) (source target : Side) (amount : Int) :
    (r.reduceHealth source target amount).1.scope.causedDamage = r.scope.causedDamage := by
  unfold reduceHealth
  split
  · rw [hitSelf_eq]
    dsimp only
    unfold hardened
    split <;> split <;> rfl
  · rfl

/-- The note is taken after the hit and not in it. -/
theorem causedDamage_feel (r : Resolution) (target : Side) (blow : Blow) :
    (r.feel target blow).scope.causedDamage = r.scope.causedDamage := by
  rw [feel, causedDamage_reduceHealth]
  unfold meet drain
  dsimp only
  split
  · split
    · rfl
    · split <;> rfl
  · rfl

/-- The further hit on a bleeding side is not noted again. -/
theorem causedDamage_bleedOut (r : Resolution) (target : Side) :
    (r.bleedOut target).scope.causedDamage = r.scope.causedDamage := by
  unfold bleedOut
  split
  · exact causedDamage_reduceHealth ..
  · rfl

/-- What is noted stays noted, and a target other than the active side is noted
now. -/
theorem causedDamage_noteDamage (r : Resolution) (target : Side) :
    (r.noteDamage target).scope.causedDamage = true ↔
      r.scope.causedDamage = true ∨ target ≠ r.active := by
  unfold noteDamage
  split
  · rename_i own
    simp [own]
  · rename_i other
    simp [other]

/-- A blow is noted that takes health from the other side; one that takes
nothing is not, and neither is one on oneself. -/
theorem causedDamage_land (r : Resolution) (target : Side) (blow : Blow) :
    (r.land target blow).scope.causedDamage = true ↔
      r.scope.causedDamage = true ∨ target ≠ r.active ∧ 0 < r.blowSize target blow := by
  rw [land_eq]
  split
  · rename_i positive
    have felt : Changes (fun _ => False) r (r.feel target blow) := feel_changes ..
    rw [causedDamage_bleedOut, causedDamage_noteDamage, causedDamage_feel, felt.active_eq]
    simp [positive]
  · rename_i none
    rw [causedDamage_feel]
    simp [none]

/-! ### Note and log -/

/-- Between two points of a resolution it is noted that the other side was
damaged where a blow is told of, and nowhere else. -/
def Notes (owner : Combatant) (side : Side) (r after : Resolution) : Prop :=
  ∃ told, after.log = r.log ++ told ∧ owner.Settled side told ∧
    (after.scope.causedDamage = true ↔
      r.scope.causedDamage = true ∨ owner.TellsBlow side told)

theorem Notes.silent (log : after.log = r.log)
    (noted : after.scope.causedDamage = r.scope.causedDamage) : Notes owner side r after := by
  refine ⟨[], by rw [log, List.append_nil], Combatant.settled_nil, ?_⟩
  rw [noted]
  exact (or_iff_left Combatant.not_tellsBlow_nil).symm

/-- One event that is no damage, such as a miss or a heal, is told without
anything to note. -/
theorem Notes.emit {event : BattleEvent} (log : after.log = r.log ++ [event])
    (harmless : ∀ source target amount, event ≠ .damage source target amount)
    (noted : after.scope.causedDamage = r.scope.causedDamage) : Notes owner side r after := by
  refine ⟨[event], log, Combatant.settled_concat [] ?_, ?_⟩
  · rintro ⟨amount, same, -⟩
    exact harmless _ _ _ same
  · rw [noted, Combatant.tellsBlow_singleton, or_iff_left]
    rintro ⟨amount, same, -⟩
    exact harmless _ _ _ same

/-- Notes of two parts of a resolution follow one another.  The first part has
to be settled, so that nothing told in the second is passed on from it. -/
theorem Notes.trans {later : Resolution} (one : Notes owner side r after)
    (two : Notes owner side after later) : Notes owner side r later := by
  obtain ⟨first, log, settled, noted⟩ := one
  obtain ⟨second, more, still, further⟩ := two
  refine ⟨first ++ second, by rw [more, log, List.append_assoc], settled.append still, ?_⟩
  rw [further, noted, Combatant.tellsBlow_append settled, or_assoc]

/-- Health that comes back to a dealer is no blow, and nothing is passed on from
it. -/
theorem TellsDrain.harmless {dealer : Side} {drained : List BattleEvent}
    (drains : TellsDrain dealer target drained) (owner : Combatant) (side : Side) :
    owner.Settled side drained ∧ ¬ owner.TellsBlow side drained := by
  rcases drains with rfl | ⟨-, healed, -, rfl⟩
  · exact ⟨Combatant.settled_nil, Combatant.not_tellsBlow_nil⟩
  · constructor
    · refine Combatant.settled_concat [] ?_
      rintro ⟨amount, same, -⟩
      cases same
    · rw [Combatant.tellsBlow_singleton]
      rintro ⟨amount, same, -⟩
      cases same

/-- The further hit tells of a blow only where its target is the other side. -/
theorem bleedEvents_blow (playing : r.game.active = r.active)
    (relics : (r.combatant r.active).relics = owner.relics) (target : Side) :
    owner.Settled r.active (r.bleedEvents target) ∧
      (owner.TellsBlow r.active (r.bleedEvents target) → target ≠ r.active) := by
  unfold bleedEvents
  split
  · exact ⟨settled_hitEvents playing relics target _,
      fun blow => ((tellsBlow_hitEvents playing relics target _).mp blow).1⟩
  · exact ⟨Combatant.settled_nil, fun blow => absurd blow Combatant.not_tellsBlow_nil⟩

/-- A landing blow notes what is told of it.  What it passes on is told as
damage to the other side and is yet no blow. -/
theorem land_notes (playing : r.game.active = r.active)
    (relics : (r.combatant r.active).relics = owner.relics) (target : Side) (blow : Blow) :
    Notes owner r.active r (r.land target blow) := by
  obtain ⟨drained, drains, log⟩ := log_land r target blow
  obtain ⟨before, healed⟩ := drains.harmless owner r.active
  have kept := settled_hitEvents playing relics target (r.blowSize target blow)
  have hit := tellsBlow_hitEvents playing relics target (r.blowSize target blow)
  obtain ⟨bled, further⟩ : owner.Settled r.active
        (if 0 < r.blowSize target blow then r.bleedEvents target else []) ∧
      (owner.TellsBlow r.active
        (if 0 < r.blowSize target blow then r.bleedEvents target else []) →
          target ≠ r.active ∧ 0 < r.blowSize target blow) := by
    obtain ⟨bled, further⟩ := bleedEvents_blow playing relics target
    split
    · rename_i positive
      exact ⟨bled, fun blow => ⟨further blow, positive⟩⟩
    · exact ⟨Combatant.settled_nil, fun blow => absurd blow Combatant.not_tellsBlow_nil⟩
  refine ⟨_, log, (before.append kept).append bled, ?_⟩
  rw [causedDamage_land, Combatant.tellsBlow_append (before.append kept),
    Combatant.tellsBlow_append before, or_iff_right healed, hit, or_iff_left_of_imp further]

/-- Carrying out a line once notes what is told of it, whatever its kind. -/
theorem perform_notes {effect : Effect} (playing : r.game.active = r.active)
    (relics : (r.combatant r.active).relics = owner.relics) (ok : perform effect r = .ok after) :
    Notes owner r.active r after := by
  unfold perform at ok
  dsimp only at ok
  split at ok
  · rcases damage_eq_ok ok with ⟨-, rfl⟩ | ⟨-, dice, blow, rfl⟩
    · exact .emit (log_emit ..) nofun rfl
    · exact land_notes (r := { r with game := { r.game with dice := dice } }) playing relics _ blow
  · cases ok
    exact .emit (log_emit ..) nofun rfl
  · cases ok
    exact .silent rfl rfl
  · cases ok
    exact .silent rfl rfl
  · unfold overwrite at ok
    split at ok
    · cases ok
      exact .silent rfl rfl
    · cases ok

/-- However a card is carried out, what is noted is what its log tells.  The
induction goes along the lines that the card passes. -/
theorem Passes.notes {card : Card} (playing : r.game.active = r.active)
    (passes : Passes card r after) : Notes (r.combatant r.active) r.active r after := by
  induction passes with
  | refl => exact .silent rfl rfl
  | @tail between after before step ih =>
    obtain ⟨effect, -, performed⟩ := step
    -- The table has stayed as it was, so relics still pass on what they did at the start.
    have changes := Passes.changes before
    have active : between.active = r.active := changes.active_eq
    have same : between.game.active = r.game.active := congrArg Table.active changes.table_eq
    have next : Notes (r.combatant r.active) between.active between after :=
      perform_notes (same.trans (playing.trans active.symm)) (by rw [active, changes.relics_eq])
        performed
    rw [active] at next
    exact ih.trans next

/-! ### Counters that no line writes -/

variable {may : EffectKind → Prop}

theorem status_assign {c written : Combatant} {field : Field} {value : Binary64} {s : Status}
    (other : field ≠ .status s) (ok : c.assign field value = .ok written) :
    written.status s = c.status s := by
  unfold Combatant.assign at ok
  split at ok
  case h_4 set =>
    cases ok
    exact Combatant.status_setStatus_of_ne _ _ fun same => other (congrArg Field.status same.symm)
  all_goals cases ok
  all_goals rfl

/-- A counter that hits do not move stays as it is where no line adds to it or
overwrites it. -/
theorem Changes.status_eq {s : Status} (still : s.movedByHits = false) (kept : ¬ may (.status s))
    (spared : ¬ may (.set (.status s))) (changes : Changes may r after) (party : Side) :
    (after.combatant party).status s = (r.combatant party).status s := by
  refine changes.view_eq (fun c => c.status s) ?_
  constructor
  case counter =>
    rintro c other value cause
    refine Combatant.status_setStatus_of_ne c value ?_
    rintro rfl
    rcases cause with moved | carried
    · rw [still] at moved
      cases moved
    · exact kept carried
  case overwritten =>
    intro c written field value cause ok
    refine status_assign ?_ ok
    rintro rfl
    exact spared cause
  case health => exact fun _ _ => rfl
  case dealt => exact fun _ _ _ => rfl

end Resolution

/-! ### Paying -/

namespace Combatant

/-- One stack of a counter is paid if that is due and there is one, and
otherwise the counter stays as it is. -/
structure Pays (c rest : Combatant) (s : Status) (due : Prop) : Prop where
  paid : due → 1 ≤ c.status s → c.LosesStack rest s
  kept : ¬ (due ∧ 1 ≤ c.status s) → rest.status s = c.status s

variable {c d rest : Combatant} {s other : Status} {due : Prop}

/-- What is paid is read off a counter, so it is paid from any combatant on
which the counter stood the same. -/
theorem Pays.of_status (pays : d.Pays rest s due) (same : d.status s = c.status s) :
    c.Pays rest s due := by
  constructor
  · rintro owed enough
    exact (pays.paid owed (by rwa [same])).of_status same
  · intro spared
    rw [← same] at spared ⊢
    exact pays.kept spared

/-- A counter that stays as it is after the payment has been paid from just
once. -/
theorem Pays.then_same {later : Combatant} (pays : c.Pays rest s due)
    (same : later.status s = rest.status s) : c.Pays later s due := by
  constructor
  · intro owed enough
    obtain ⟨n, before, after⟩ := pays.paid owed enough
    exact ⟨n, before, after.of_status same⟩
  · exact fun spared => same.trans (pays.kept spared)

theorem Pays.of_not (spared : ¬ due) (same : rest.status s = c.status s) : c.Pays rest s due :=
  ⟨fun owed => absurd owed spared, fun _ => same⟩

theorem status_spend_of_ne (c : Combatant) (apart : other ≠ s) :
    (c.spend s).status other = c.status other := by
  unfold spend spend?
  split
  · exact status_setStatus_of_ne c _ apart
  · rfl

/-- Spending pays what is due, also where no stack is left to be paid. -/
theorem pays_spend (counted : s.isFractional = false)
    (counts : c.CountsStacks s) (owed : due) :
    c.Pays (c.spend s) s due := by
  constructor
  · intro _ enough
    rw [spend, spend?_eq_some enough]
    exact losesStack_addStatus counted counts enough rfl
  · intro spared
    rw [spend, spend?_eq_none fun enough => spared ⟨owed, enough⟩]
    rfl

end Combatant

namespace Resolution

variable {r : Resolution}

theorem log_settleCrits (r : Resolution) : r.settleCrits.log = r.log := by
  unfold settleCrits
  split <;> rfl

/-- Settling pays a critical stack where damage has been noted.  The counter of
fire is paid from as well, if the card is of fire. -/
theorem settleCrits_pays
    (crits : (r.combatant r.active).CountsStacks .crit)
    (fires : (r.combatant r.active).CountsStacks .tempFireCrit) :
    (r.combatant r.active).Pays (r.settleCrits.combatant r.active) .crit
        (r.scope.causedDamage = true) ∧
      (r.combatant r.active).Pays (r.settleCrits.combatant r.active) .tempFireCrit
        (r.scope.tribe = .fire ∧ r.scope.causedDamage = true) := by
  unfold settleCrits
  by_cases noted : r.scope.causedDamage = true
  case neg =>
    rw [if_neg noted]
    exact ⟨.of_not noted rfl, .of_not (fun both => noted both.2) rfl⟩
  case pos =>
    rw [if_pos noted]
    unfold combatant at crits fires
    unfold update combatant
    rw [Game.combatant_updateCombatant_self]
    dsimp only
    generalize r.game.combatant r.active = c at crits fires ⊢
    have crit := Combatant.pays_spend rfl crits noted
    have apart : (c.spend .crit).status .tempFireCrit = c.status .tempFireCrit :=
      Combatant.status_spend_of_ne c (by decide)
    by_cases fire : r.scope.tribe = .fire
    · have burnt := Combatant.pays_spend rfl (fires.of_status apart) (And.intro fire noted)
      rw [if_pos fire]
      exact ⟨crit.then_same (Combatant.status_spend_of_ne _ (by decide)), burnt.of_status apart⟩
    · rw [if_neg fire]
      exact ⟨crit, .of_not (fun both => fire both.1) apart⟩

end Resolution

/-- No line of a card writes one of the counters for critical hits. -/
def Card.SparesCrits (card : Card) : Prop :=
  ∀ s, s = .crit ∨ s = .tempFireCrit →
    ¬ card.Carries (.status s) ∧ ¬ card.Carries (.set (.status s))

theorem Card.sparesCrits_of_damage {card : Card}
    (harms : ∀ effect ∈ card.effects, effect.kind ∈ [.damage]) : card.SparesCrits :=
  fun _ _ => ⟨Card.not_carries harms (by simp), Card.not_carries harms (by simp)⟩

namespace Game

/-- Once a card has been carried out, however often it is repeated, it is noted
that it has damaged the other side exactly where its log tells of a blow. -/
theorem noted_iff_tellsBlow {g : Game} {card : Card} {r : Resolution}
    (activated : (g.resolution (.ofCard g.active card)).activate card = .ok r) :
    r.scope.causedDamage = true ↔ (g.combatant g.active).TellsBlow g.active r.log := by
  obtain ⟨told, log, -, noted⟩ := (Resolution.activate_passes activated).notes rfl
  have same : r.log = told := log
  rw [same]
  exact noted.trans (or_iff_right nofun)

/-- A card that writes neither counter for critical hits pays one stack of each
that it can have used, the one for fire cards only as such a card, if its log
tells of a blow, and nothing otherwise, however many blows there were.  Unless
something in the log was passed on, a blow is any damage to the other side. -/
theorem resolveCard_pays_crits {g after : Game} {card : Card} {events : List BattleEvent}
    (whole : g.CountsStacks) (plain : card.SparesCrits)
    (ok : g.resolveCard card = .ok (after, events)) :
    let owner := g.combatant g.active
    owner.Pays (after.combatant g.active) .crit (owner.TellsBlow g.active events) ∧
      owner.Pays (after.combatant g.active) .tempFireCrit
        (card.tribe = .fire ∧ owner.TellsBlow g.active events) ∧
      ((∀ event ∈ events, ¬ owner.PassesOn g.active event) →
        (owner.TellsBlow g.active events ↔
          ∃ amount, 0 < amount ∧ .damage g.active g.active.other amount ∈ events)) := by
  intro owner
  unfold resolveCard at ok
  cases activated : (g.resolution (.ofCard g.active card)).activate card with
  | error fault =>
    rw [activated] at ok
    cases ok
  | ok r =>
    rw [activated] at ok
    cases ok
    -- Until it is settled the card has moved neither counter, so both are paid for from the start.
    have changes := Resolution.activate_changes activated
    have active : r.active = g.active := changes.active_eq
    have crit : (r.combatant g.active).status .crit = owner.status .crit :=
      changes.status_eq rfl (plain _ (.inl rfl)).1 (plain _ (.inl rfl)).2 g.active
    have fire : (r.combatant g.active).status .tempFireCrit = owner.status .tempFireCrit :=
      changes.status_eq rfl (plain _ (.inr rfl)).1 (plain _ (.inr rfl)).2 g.active
    have crits := (whole g.active .crit rfl).of_status crit
    have fires := (whole g.active .tempFireCrit rfl).of_status fire
    rw [← active] at crits fires
    have pays := Resolution.settleCrits_pays crits fires
    rw [active, noted_iff_tellsBlow activated, changes.card_eq.1] at pays
    have told : r.settleCrits.scope.events.toList = r.log := Resolution.log_settleCrits r
    rw [told]
    exact ⟨pays.1.of_status crit, pays.2.of_status fire, Combatant.tellsBlow_iff_mem⟩

/-- A user with a mirror and with stacks of both counters. -/
def furnace : Game :=
  { Game.fresh .standard 7 with
    combatants :=
      ⟨{ Combatant.withHealth 20 with
          relics := [{ kind := .thornMirror, value := 1 }]
          statuses := (OrderedMap.insert .empty .crit 2).insert .tempFireCrit 1 },
        .withHealth 40⟩ }

/-- A fire card that hits its owner and then strikes, twice over. -/
def flare : Card where
  name := "Flare"
  effects := [{ target := .own, kind := .damage, value := .literal 2 }, .damage 3]
  repeats := some { value := .literal 1 }
  tribe := .fire

/-- A card that only hits its owner. -/
def gash : Card where
  name := "Gash"
  effects := [{ target := .own, kind := .damage, value := .literal 2 }]

theorem furnace_countsStacks : furnace.CountsStacks := by
  refine countsStacks_of_stored fun side entry stored _ => ?_
  cases side
  · rcases List.mem_pair.mp stored with rfl | rfl
    · exact ⟨2, by decide, by decide +kernel⟩
    · exact ⟨1, by decide, by decide +kernel⟩
  · cases stored

/-- In the example one stack of either counter goes, although the card strikes
twice. -/
theorem flare_paid_for :
    ∃ after events, furnace.resolveCard flare = .ok (after, events) ∧
      (furnace.combatant .user).LosesStack (after.combatant .user) .crit ∧
      (furnace.combatant .user).LosesStack (after.combatant .user) .tempFireCrit := by
  have plain : flare.SparesCrits := Card.sparesCrits_of_damage (by decide)
  have told : (furnace.resolveCard flare).map Prod.snd =
      .ok [.damage .user .user 2, .damage .user .opponent 2, .damage .user .opponent 6,
        .damage .user .user 2, .damage .user .opponent 2, .damage .user .opponent 6] := by
    decide +kernel
  obtain ⟨⟨after, events⟩, ok, rfl⟩ := of_map_eq_ok told
  have blow : (furnace.combatant .user).TellsBlow .user
      [.damage .user .user 2, .damage .user .opponent 2, .damage .user .opponent 6,
        .damage .user .user 2, .damage .user .opponent 2, .damage .user .opponent 6] := by
    refine ⟨[.damage .user .user 2, .damage .user .opponent 2], 6, _, rfl, by decide, ?_⟩
    refine Combatant.settled_concat [_] ?_
    rintro ⟨amount, same, -⟩
    cases same
  obtain ⟨crit, fire, -⟩ := resolveCard_pays_crits furnace_countsStacks plain ok
  exact ⟨after, _, ok, crit.paid blow (by decide +kernel),
    fire.paid ⟨rfl, blow⟩ (by decide +kernel)⟩

/-- Damage that relics pass on is told as damage to the other side, and yet
nothing is paid for it: what is paid does not go by the damage that the log
tells of. -/
theorem gash_not_paid_for :
    ¬ ∀ (g after : Game) (card : Card) (events : List BattleEvent),
      g.CountsStacks → card.SparesCrits → g.resolveCard card = .ok (after, events) →
      (g.combatant g.active).Pays (after.combatant g.active) .crit
        (∃ amount, 0 < amount ∧ .damage g.active g.active.other amount ∈ events) := by
  intro law
  have plain : gash.SparesCrits := Card.sparesCrits_of_damage (by decide)
  have told : ((furnace.resolveCard gash).map fun outcome =>
      (outcome.2, (outcome.1.combatant .user).status .crit)) =
        .ok ([.damage .user .user 2, .damage .user .opponent 2], 2) := by
    decide +kernel
  obtain ⟨⟨after, events⟩, ok, same⟩ := of_map_eq_ok told
  injection same with log kept
  dsimp only at log kept
  subst log
  have start : (furnace.combatant .user).status .crit = 2 := by decide +kernel
  obtain ⟨n, before, rest⟩ := (law furnace after gash _ furnace_countsStacks plain ok).paid
    ⟨2, by decide, by decide⟩ (by decide +kernel)
  have still : (furnace.combatant .user).HoldsStacks .crit n :=
    rest.of_status (start.trans kept.symm)
  exact absurd (still.unique before) (Nat.ne_add_one n)

end Game

end CardBattle
