/-
Module: CardBattle.Proofs.Resolution.Tally
Purpose: The points that the resolution of a card passes, and the damage tally at each of them.
Main exports:
  Resolution.Passes, Resolution.activate_passes, Game.resolveCard_byCard, Resolution.Tallied,
  Resolution.Changes.tallied
-/
import CardBattle.Proofs.Game.HealthLedger

/-!
# The damage tally

While a card resolves, the damage that each side has taken is kept twice: as events of the log, and
as a tally that card texts can read.  Both are written together, so they agree at every point that
the resolution passes, however its lines are repeated and whatever a single hit sets off.
-/

namespace CardBattle

open Relation (ReflTransGen)

variable {may : EffectKind → Prop}

namespace Resolution

/-! ### Points of a resolution -/

/-- The points between two lines that a card passes while it resolves: each is
reached by carrying out one more line once. -/
def Passes (card : Card) : Resolution → Resolution → Prop :=
  ReflTransGen fun r after => ∃ effect ∈ card.effects, perform effect r = .ok after

theorem repeatTimes_passes {card : Card} {step : Resolution → Except Fault Resolution}
    (steps : ∀ {r after}, step r = .ok after → Passes card r after) {times : Nat}
    {r after : Resolution} (ok : repeatTimes step times r = .ok after) : Passes card r after := by
  induction times generalizing r with
  | zero =>
      cases ok
      exact .refl
  | succ times ih =>
      unfold repeatTimes at ok
      split at ok
      · rename_i stepped
        exact (steps stepped).trans (ih ok)
      · cases ok

/-- Carrying out a line of the card, as often as it says, goes from point to
point. -/
theorem apply_passes {card : Card} {effect : Effect} (line : effect ∈ card.effects)
    {r after : Resolution} (ok : apply effect r = .ok after) : Passes card r after := by
  unfold apply at ok
  split at ok
  · exact repeatTimes_passes (fun performed => .single ⟨effect, line, performed⟩) ok
  · cases ok
    exact .refl

theorem applyAll_passes {card : Card} {effects : List Effect}
    (lines : ∀ effect ∈ effects, effect ∈ card.effects) {r after : Resolution}
    (ok : applyAll effects r = .ok after) : Passes card r after := by
  induction effects generalizing r with
  | nil =>
      cases ok
      exact .refl
  | cons effect rest ih =>
      unfold applyAll at ok
      split at ok
      · rename_i applied
        exact (apply_passes (lines _ (List.mem_cons_self ..)) applied).trans
          (ih (fun other mem => lines other (List.mem_cons_of_mem _ mem)) ok)
      · cases ok

/-- A card that has been carried out has passed from line to line. -/
theorem activate_passes {card : Card} {r after : Resolution}
    (ok : activate card r = .ok after) : Passes card r after := by
  unfold activate at ok
  split at ok
  · cases ok
    exact .refl
  · exact repeatTimes_passes (applyAll_passes fun _ line => line) ok

/-- What a card has changed up to any point is made of the changes that its
lines may cause. -/
theorem Passes.changes {card : Card} {r after : Resolution} (passes : Passes card r after) :
    Changes card.Carries r after := by
  induction passes with
  | refl => exact .refl
  | tail _ step ih =>
      obtain ⟨effect, line, performed⟩ := step
      exact ih.trans (perform_changes ⟨effect, line, rfl⟩ performed)

end Resolution

/-- What a card of a side can tell of while it resolves: damage by that side,
heals and misses. -/
def BattleEvent.ByCard (owner : Side) : BattleEvent → Prop
  | .damage source .. => source = owner
  | .heal .. | .miss .. => True
  | _ => False

namespace Resolution

/-- Each kind of change tells at most one event, and only of damage by the
active side, of a heal or of a miss. -/
theorem Change.byCard {owner : Side} {r after : Resolution} (own : r.active = owner)
    (change : Change may r after) :
    Tells (fun _ told _ => ∀ event ∈ told, event.ByCard owner) r after := by
  subst own
  cases change with
  | counter => exact .silent rfl nofun
  | overwritten => exact .silent rfl nofun
  | rolled => exact .silent rfl nofun
  | missed side =>
      refine ⟨[.miss side], Scope.events_emit .., ?_⟩
      simp [BattleEvent.ByCard]
  | healed side amount =>
      refine ⟨[.heal side amount], Scope.events_emit .., ?_⟩
      simp [BattleEvent.ByCard]
  | @struck amount =>
      refine ⟨[.damage r.active r.active.other amount], Scope.events_emit .., ?_⟩
      simp [BattleEvent.ByCard]
  | @suffered amount =>
      refine ⟨[.damage r.active r.active amount], Scope.events_emit .., ?_⟩
      simp [BattleEvent.ByCard]
  | noted => exact .silent rfl nofun

end Resolution

/-- A card tells nothing about turns, piles or the battle; this is told by the
play around it. -/
theorem Game.resolveCard_byCard {g after : Game} {card : Card} {events : List BattleEvent}
    (ok : g.resolveCard card = .ok (after, events)) : ∀ event ∈ events, event.ByCard g.active := by
  obtain ⟨r, changes, rfl, rfl⟩ := resolveCard_changes ok
  obtain ⟨told, log, byCard⟩ := changes.tells (fun _ => nofun)
    (fun one two event mem => (List.mem_append.mp mem).elim (one event) (two event))
    fun own change => change.byCard own
  rw [log]
  exact byCard

namespace Resolution

/-! ### The tally -/

/-- The tally of each side is the damage to it that the log tells of. -/
def Tallied (r : Resolution) : Prop :=
  ∀ side, r.scope.damageTaken.get side = damageSum side r.scope.events.toList

/-- Neither log nor tally has changed. -/
theorem Tallied.of_scope {r after : Resolution} (tallied : r.Tallied)
    (log : after.scope.events = r.scope.events)
    (tally : after.scope.damageTaken = r.scope.damageTaken) : after.Tallied := by
  intro side
  rw [tally, log, tallied]

/-- An event that tells of no damage leaves the tally right. -/
theorem Tallied.emit {r : Resolution} (tallied : r.Tallied) {event : BattleEvent}
    (harmless : ∀ side, event.damageTo? side = none) : (r.emit event).Tallied := by
  intro side
  rw [Resolution.emit, Scope.events_emit, damageSum_append]
  have none : damageSum side [event] = 0 := by simp [damageSum, harmless]
  rw [none, Int.add_zero]
  exact tallied side

/-- A wound is told and tallied with the same amount. -/
theorem Tallied.wound {r : Resolution} (tallied : r.Tallied) (source target : Side)
    (amount : Int) : (r.wound source target amount).Tallied := by
  intro side
  have log : (r.wound source target amount).scope.events.toList =
      r.scope.events.toList ++ [.damage source target amount] := Scope.events_emit ..
  have tally : (r.wound source target amount).scope.damageTaken.get side =
      if side = target then r.scope.damageTaken.get side + amount
      else r.scope.damageTaken.get side := Sides.get_update ..
  rw [log, tally, damageSum_append, damageSum_damage, ← tallied side]
  split <;> omega

/-- Damage is tallied in the very change that tells of it, and nothing else is
told as damage. -/
theorem Change.tallied {r after : Resolution} (change : Change may r after)
    (tallied : r.Tallied) : after.Tallied := by
  cases change with
  | counter side s value => exact tallied.of_scope rfl rfl
  | overwritten side => exact tallied.of_scope rfl rfl
  | rolled dice => exact tallied.of_scope rfl rfl
  | missed side => exact tallied.emit fun _ => rfl
  | healed side amount =>
      have gained : (r.update side fun c => { c with health := c.health + amount }).Tallied :=
        tallied.of_scope rfl rfl
      exact gained.emit fun _ => rfl
  | @struck amount counted =>
      have hurt : (r.wound r.active r.active.other amount).Tallied := tallied.wound _ _ amount
      exact hurt.of_scope rfl rfl
  | suffered counted => exact tallied.wound _ _ _
  | noted => exact tallied.of_scope rfl rfl

/-- The tally is right at every point of a resolution if it was at the first, by
induction over the changes. -/
theorem Changes.tallied {r after : Resolution} (changes : Changes may r after)
    (tallied : r.Tallied) : after.Tallied := by
  induction changes with
  | refl => exact tallied
  | tail _ change ih => exact change.tallied ih

/-- A card begins to resolve with an empty log and an empty tally. -/
theorem tallied_ofCard (g : Game) (card : Card) :
    (g.resolution (.ofCard g.active card)).Tallied := by
  intro side
  exact Sides.get_same 0 side

end Resolution

end CardBattle
