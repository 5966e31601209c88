/-
Module: CardBattle.Proofs.Game.HealthLedger
Purpose: The events told in battle account for every change of health.
Main exports:
  damageSum, healSum, Game.Accounts, Resolution.Changes.explained, Game.Played.accounts,
  Game.Explains, Game.runTurn_explains, Action.playsOn, Game.callAll_health_ledger
-/
import CardBattle.Proofs.Cards.Pool
import CardBattle.Proofs.Game.Requests
import Mathlib.Algebra.Ring.Int.Defs

/-!
# The health ledger

`Accounts` says that a list of events explains the health of both sides from one record to another.
It holds of each elementary change of a resolution, where a wound or a heal is told with the amount
that it applies, and it adds up along plays, turns and calls.
-/

namespace CardBattle

/-- Damage to a side, summed over events. -/
def damageSum (side : Side) (events : List BattleEvent) : Int :=
  (events.filterMap (BattleEvent.damageTo? side)).sum

/-- Heals of a side, summed over events. -/
def healSum (side : Side) (events : List BattleEvent) : Int :=
  (events.filterMap (BattleEvent.healOf? side)).sum

@[simp] theorem damageSum_nil (side : Side) : damageSum side [] = 0 := rfl

@[simp] theorem healSum_nil (side : Side) : healSum side [] = 0 := rfl

/-- Damage adds up over logs that follow one another.  Explanations of single
steps are strung together with this. -/
theorem damageSum_append (side : Side) (first second : List BattleEvent) :
    damageSum side (first ++ second) = damageSum side first + damageSum side second := by
  simp [damageSum]

/-- Heals add up over logs that follow one another, as damage does. -/
theorem healSum_append (side : Side) (first second : List BattleEvent) :
    healSum side (first ++ second) = healSum side first + healSum side second := by
  simp [healSum]

/-- Damage is on the other side of the ledger: it never counts as a heal below
zero. -/
@[simp] theorem healSum_damage (side source target : Side) (amount : Int) :
    healSum side [.damage source target amount] = 0 := rfl

@[simp] theorem damageSum_heal (side healed : Side) (amount : Int) :
    damageSum side [.heal healed amount] = 0 := rfl

/-- An event of damage counts for its target alone, whoever dealt it. -/
theorem damageSum_damage (side source target : Side) (amount : Int) :
    damageSum side [.damage source target amount] = if side = target then amount else 0 := by
  by_cases here : target = side
  · simp [damageSum, BattleEvent.damageTo?, here]
  · simp [damageSum, BattleEvent.damageTo?, here, Ne.symm here]

/-- A heal counts for the side that it names, also where its amount is negative. -/
theorem healSum_heal (side healed : Side) (amount : Int) :
    healSum side [.heal healed amount] = if side = healed then amount else 0 := by
  by_cases here : healed = side
  · simp [healSum, BattleEvent.healOf?, here]
  · simp [healSum, BattleEvent.healOf?, here, Ne.symm here]

namespace Game

/-- The events explain the health of both sides, and all damage comes from the
dealer. -/
structure Accounts (g h : Game) (dealer : Side) (events : List BattleEvent) : Prop where
  health : ∀ side, (h.combatant side).health =
    (g.combatant side).health + healSum side events - damageSum side events
  dealt : ∀ source target amount, BattleEvent.damage source target amount ∈ events →
    0 ≤ amount ∧ source = dealer

theorem health_updateCombatant (g : Game) (side party : Side) (change : Combatant → Combatant) :
    ((g.updateCombatant side change).combatant party).health =
      if party = side then (change (g.combatant side)).health else (g.combatant party).health := by
  rw [combatant_updateCombatant]
  split
  · rename_i here
    rw [here]
  · rfl

/-- A change of one combatant that keeps its health keeps the health of both, so
it needs no event to explain it. -/
theorem health_updateCombatant_of_eq {g : Game} {side : Side} {change : Combatant → Combatant}
    (kept : (change (g.combatant side)).health = (g.combatant side).health) (party : Side) :
    ((g.updateCombatant side change).combatant party).health = (g.combatant party).health :=
  view_updateCombatant Combatant.health kept party

namespace Accounts

variable {g h k : Game} {dealer : Side}

/-- Events that tell of neither damage nor heals go with any step that keeps
health. -/
theorem of_health_eq {events : List BattleEvent}
    (same : ∀ side, (h.combatant side).health = (g.combatant side).health)
    (silent : ∀ event ∈ events, ∀ side, event.healOf? side = none ∧ event.damageTo? side = none) :
    g.Accounts h dealer events := by
  have heals : ∀ side, healSum side events = 0 := by
    intro side
    rw [healSum, List.filterMap_eq_nil_iff.mpr fun event mem => (silent event mem side).1]
    rfl
  have wounds : ∀ side, damageSum side events = 0 := by
    intro side
    rw [damageSum, List.filterMap_eq_nil_iff.mpr fun event mem => (silent event mem side).2]
    rfl
  constructor
  · intro side
    rw [same, heals, wounds]
    omega
  · intro source target amount mem
    have none := (silent _ mem target).2
    simp [BattleEvent.damageTo?] at none

/-- One event that tells of neither damage nor heals explains a step that keeps
health. -/
theorem note {event : BattleEvent}
    (same : ∀ side, (h.combatant side).health = (g.combatant side).health)
    (heal : ∀ side, event.healOf? side = none) (damage : ∀ side, event.damageTo? side = none) :
    g.Accounts h dealer [event] := by
  refine .of_health_eq same fun other mem side => ?_
  rw [List.mem_singleton.mp mem]
  exact ⟨heal side, damage side⟩

theorem refl (g : Game) (dealer : Side) : g.Accounts g dealer [] :=
  of_health_eq (fun _ => rfl) (fun _ mem => absurd mem List.not_mem_nil)

/-- Explained steps can be put together with their logs.  The dealer has to be
the same in both, which holds within a turn. -/
theorem trans {first second : List BattleEvent} (one : g.Accounts h dealer first)
    (two : h.Accounts k dealer second) : g.Accounts k dealer (first ++ second) := by
  constructor
  · intro side
    rw [two.health, one.health, healSum_append, damageSum_append]
    omega
  · intro source target amount mem
    rcases List.mem_append.mp mem with mem | mem
    · exact one.dealt source target amount mem
    · exact two.dealt source target amount mem

/-- A wound is told with the amount that it takes, and by the dealer.  The
amount must not be negative, as damage that heals is not told as damage. -/
theorem damaged {target : Side} {amount : Int} {change : Combatant → Combatant}
    (counted : 0 ≤ amount)
    (taken : (change (g.combatant target)).health = (g.combatant target).health - amount) :
    g.Accounts (g.updateCombatant target change) dealer [.damage dealer target amount] := by
  constructor
  · intro side
    rw [health_updateCombatant, healSum_damage, damageSum_damage, taken]
    by_cases here : side = target
    · simp [here]
    · simp [here]
  · intro source side other mem
    cases List.mem_singleton.mp mem
    exact ⟨counted, rfl⟩

/-- A heal is told with the amount that it brings.  Here the amount may be
negative, as a heal can be worked out below zero. -/
theorem healed {target : Side} {amount : Int} {change : Combatant → Combatant}
    (gained : (change (g.combatant target)).health = (g.combatant target).health + amount) :
    g.Accounts (g.updateCombatant target change) dealer [.heal target amount] := by
  constructor
  · intro side
    rw [health_updateCombatant, damageSum_heal, healSum_heal, gained]
    by_cases here : side = target
    · simp [here]
    · simp [here]
  · intro source side other mem
    cases List.mem_singleton.mp mem

/-- A step that keeps health may come at the end without being told, such as
putting the card away. -/
theorem then_same {events : List BattleEvent} (one : g.Accounts h dealer events)
    (same : ∀ side, (k.combatant side).health = (h.combatant side).health) :
    g.Accounts k dealer events := by
  have still : h.Accounts k dealer [] := of_health_eq same nofun
  have both := one.trans still
  rwa [List.append_nil] at both

end Accounts

end Game

/-! ### A resolving card -/

namespace Resolution

/-- What happened between two points of a resolution is in the log, and explains
the health. -/
def Explained (r after : Resolution) : Prop :=
  ∃ told, after.scope.events.toList = r.scope.events.toList ++ told ∧
    r.game.Accounts after.game r.active told

theorem Explained.silent {r after : Resolution} (log : after.scope.events = r.scope.events)
    (same : ∀ side, (after.combatant side).health = (r.combatant side).health) :
    Explained r after :=
  ⟨[], by rw [log, List.append_nil], .of_health_eq same nofun⟩

theorem health_assign {c written : Combatant} {field : Field} {value : Binary64}
    (other : field ≠ .health) (ok : c.assign field value = .ok written) :
    written.health = c.health := by
  unfold Combatant.assign at ok
  split at ok
  case h_1 => exact absurd rfl other
  case h_4 s => exact Except.ok.inj ok ▸ Combatant.health_setStatus ..
  all_goals cases ok
  all_goals rfl

/-- What a wound takes is just what it notes, and the dealer is the side whose
card resolves. -/
theorem wound_explained {r : Resolution} (target : Side) {amount : Int} (counted : 0 ≤ amount) :
    Explained r (r.wound r.active target amount) := by
  refine ⟨[.damage r.active target amount], ?_, .damaged counted rfl⟩
  exact Scope.events_emit ..

/-- Unless health is overwritten, what happens to it is told, in the very change
in which it happens. -/
theorem Change.explained {may : EffectKind → Prop} (kept : ¬ may (.set .health))
    {r after : Resolution} (change : Change may r after) : Explained r after := by
  cases change with
  | counter side s value cause =>
      refine .silent rfl fun party => ?_
      exact Game.health_updateCombatant_of_eq (Combatant.health_setStatus ..) party
  | @overwritten side field value c cause written =>
      have other : field ≠ .health := by
        rintro rfl
        exact kept cause
      have same : c.health = (r.combatant side).health := health_assign other written
      refine .silent rfl fun party => ?_
      exact Game.health_updateCombatant_of_eq same party
  | rolled dice => exact .silent rfl fun _ => rfl
  | missed side =>
      exact ⟨[.miss side], Scope.events_emit ..,
        .note (fun _ => rfl) (fun _ => rfl) (fun _ => rfl)⟩
  | healed side amount =>
      exact ⟨[.heal side amount], Scope.events_emit .., .healed rfl⟩
  | @struck amount counted =>
      obtain ⟨told, log, accounts⟩ := wound_explained r.active.other counted
      refine ⟨told, log, accounts.then_same fun party => ?_⟩
      exact Game.health_updateCombatant_of_eq rfl party
  | suffered counted => exact wound_explained r.active counted
  | noted => exact .silent rfl fun _ => rfl

/-- The explanations of single changes follow one another, up to the whole of a
card. -/
theorem Changes.explained {may : EffectKind → Prop} (kept : ¬ may (.set .health))
    {r after : Resolution} (changes : Changes may r after) : Explained r after := by
  have told : Tells (fun g told h => g.Accounts h r.active told) r after := by
    refine changes.tells (fun g => .refl g r.active) (fun one two => one.trans two) ?_
    intro between next own change
    have step := change.explained kept
    rwa [Explained, own] at step
  exact told

end Resolution

namespace Game

/-- A card without a line that overwrites health tells all that it does to
health. -/
theorem resolveCard_accounts {g after : Game} {card : Card} {events : List BattleEvent}
    (kept : ¬ card.Carries (.set .health)) (ok : g.resolveCard card = .ok (after, events)) :
    g.Accounts after g.active events := by
  obtain ⟨r, changes, rfl, rfl⟩ := resolveCard_changes ok
  obtain ⟨told, log, accounts⟩ := changes.explained fun change => kept change.carries
  rw [log]
  exact accounts

/-! ### Turns -/

/-- Regeneration is told with the amount that it brings; without it only the
turn is announced. -/
theorem startTurn_accounts {g after : Game} {events : List BattleEvent}
    (ok : g.startTurn = .ok (after, events)) : g.Accounts after g.active events := by
  obtain ⟨-, c, told, rfl, rfl, begun⟩ := of_startTurn_eq_ok ok
  have opening : g.Accounts { g with turnPhase := .playing } g.active
      [.turnStarted g.active g.turn] :=
    .note (fun _ => rfl) (fun _ => rfl) (fun _ => rfl)
  refine opening.trans ?_
  rcases begun with ⟨rfl, rfl⟩ | ⟨rfl, rfl⟩
  · exact .of_health_eq (health_updateCombatant_of_eq rfl) nofun
  · refine .healed ?_
    rw [Combatant.health_regenerate]
    rfl

/-- Passing the turn takes no health, so the explanation serves whichever side
is taken for the dealer. -/
theorem endTurn_accounts {g after : Game} {events : List BattleEvent} (dealer : Side)
    (ok : g.endTurn = .ok (after, events)) : g.Accounts after dealer events := by
  obtain ⟨-, rfl, rfl⟩ := of_endTurn_eq_ok ok
  exact .note (fun _ => rfl) (fun _ => rfl) (fun _ => rfl)

/-- A turn that has already started is opened with nothing told and nothing
changed. -/
theorem openTurn_accounts {g after : Game} {events : List BattleEvent}
    (ok : g.openTurn = .ok (after, events)) : g.Accounts after g.active events := by
  rcases of_openTurn_eq_ok ok with starts | ⟨rfl, rfl⟩
  · exact startTurn_accounts starts
  · exact .refl after after.active

/-- None of the cards that events say were played has a line that overwrites
health. -/
def KeepsHealth (g : Game) (events : List BattleEvent) : Prop :=
  ∀ side id card, .cardPlayed side id ∈ events → g.pool.card? id = some card →
    ¬ card.Carries (.set .health)

/-- If no card of some events overwrites health, none of fewer events does, as
long as the numbers stand for the same cards. -/
theorem KeepsHealth.of_subset {g h : Game} {events fewer : List BattleEvent}
    (kept : g.KeepsHealth events) (pool : h.pool = g.pool) (sub : fewer ⊆ events) :
    h.KeepsHealth fewer := by
  intro side id card played found
  rw [pool] at found
  exact kept side id card (sub played) found

/-- A card from the deck explains what it does to health.  The events about the
card itself say nothing of health. -/
theorem resolveFromDeck_accounts {g after : Game} {id : CardId} {events : List BattleEvent}
    (kept : g.KeepsHealth events) (ok : g.resolveFromDeck id = .ok (after, events)) :
    g.Accounts after g.active events := by
  obtain ⟨card, resolved, told, rest, trashed, found, settled, away, rfl, rfl⟩ :=
    of_resolveFromDeck_eq_ok ok
  have first : g.Accounts (g.updateCombatant g.active fun c =>
      { c with cardsPlayedThisTurn := c.cardsPlayedThisTurn + 1 }) g.active
      [.cardPlayed g.active id] :=
    .note (health_updateCombatant_of_eq rfl) (fun _ => rfl) (fun _ => rfl)
  have second := resolveCard_accounts (kept g.active id card (by simp) found) settled
  have same : ∀ side, ((resolved.setCombatant g.active rest).combatant side).health =
      (resolved.combatant side).health :=
    health_updateCombatant_of_eq (Combatant.view_putAway (fun _ _ _ _ _ => rfl) away)
  have third : resolved.Accounts (resolved.setCombatant g.active rest) g.active
      (if trashed then [.cardTrashed g.active id] else []) := by
    split
    · exact .note same (fun _ => rfl) (fun _ => rfl)
    · exact .of_health_eq same nofun
  exact (first.trans second).trans third

/-- Opening the turn and resolving its first card are explained by the events of
both, one after the other. -/
theorem opened_accounts {g opened resolved : Game} {id : CardId}
    {opening happened : List BattleEvent} (kept : g.KeepsHealth (opening ++ happened))
    (opens : g.openTurn = .ok (opened, opening))
    (resolves : opened.resolveFromDeck id = .ok (resolved, happened)) :
    g.Accounts resolved g.active (opening ++ happened) := by
  obtain ⟨pool, active⟩ := openTurn_frame opens
  have later : opened.KeepsHealth happened := kept.of_subset pool (List.subset_append_right ..)
  have resolved := resolveFromDeck_accounts later resolves
  rw [active] at resolved
  exact (openTurn_accounts opens).trans resolved

/-- Each way in which a play can go explains what it does to health, running out
of cards included. -/
theorem Played.accounts {g after : Game} {report : PlayReport} (played : g.Played after report)
    (kept : g.KeepsHealth report.events) : g.Accounts after g.active report.events := by
  cases played with
  | stunned opens spent ends =>
      have opening := openTurn_accounts opens
      rw [Combatant.of_spend?_eq_some spent] at ends
      refine (opening.trans (.note ?_ (fun _ => rfl) (fun _ => rfl))).trans
        (endTurn_accounts g.active ends)
      exact health_updateCombatant_of_eq (Combatant.health_setStatus ..)
  | @exhausted opened opening opens =>
      obtain ⟨-, active⟩ := openTurn_frame opens
      have ended := (openTurn_accounts opens).then_same
        (k := { opened with phase := .over }) fun _ => rfl
      refine ended.trans ?_
      -- A defeated side can have less than no health; the last hit then takes nothing.
      rw [← active]
      exact .damaged (Int.le_max_right ..) rfl
  | decided opens _ _ resolves => exact (opened_accounts kept opens resolves).then_same fun _ => rfl
  | again opens _ _ resolves _ _ spends =>
      refine (opened_accounts kept opens resolves).then_same ?_
      rw [of_consumeExtraPlay_eq_ok spends]
      exact health_updateCombatant_of_eq (Combatant.health_setStatus ..)
  | passed opens _ _ resolves _ _ ends =>
      have earlier := kept.of_subset rfl (List.subset_append_left ..)
      exact (opened_accounts earlier opens resolves).trans (endTurn_accounts g.active ends)

/-- Cards and links stay, and the events explain the health unless a card
overwrites it. -/
def Explains (g : Game) (events : List BattleEvent) (after : Game) : Prop :=
  after.pool = g.pool ∧ (g.KeepsHealth events → g.Accounts after g.active events)

/-- A play keeps the pool, and its report explains the health of both sides. -/
theorem playCard_explains {g after : Game} {report : PlayReport}
    (ok : g.playCard = .ok (after, report)) : g.Explains report.events after := by
  obtain ⟨-, played⟩ := playCard_played ok
  exact ⟨played.frame.1, played.accounts⟩

/-- The plays of a turn explain the health one after the other, as they belong
to one side. -/
theorem runTurn_explains {g after : Game} {events : List BattleEvent}
    (ok : g.runTurn = .ok (after, events)) : g.Explains events after := by
  have law : ∃ told, events = [] ++ told ∧ g.Explains told after := by
    refine runPlays_induction ?stop ?last ?again ok
    case stop =>
      intro g
      exact ⟨rfl, fun _ => .refl g g.active⟩
    case last =>
      intro g after report played _
      exact playCard_explains played
    case again =>
      intro g between after report told played more rest
      obtain ⟨-, way⟩ := playCard_played played
      obtain ⟨pool, active⟩ := way.frame
      refine ⟨rest.1.trans pool, fun kept => ?_⟩
      have first := way.accounts (kept.of_subset rfl (List.subset_append_left ..))
      have second := rest.2 (kept.of_subset pool (List.subset_append_right ..))
      rw [active more] at second
      exact first.trans second
  obtain ⟨told, rfl, law⟩ := law
  exact law

end Game

/-! ### Calls in a row -/

/-- The requests that take a battle on, step by step or turn by turn. -/
def Action.playsOn : Action → Bool
  | .startTurn | .playCard | .runTurn | .endTurn => true
  | _ => false

namespace Game

/-- Each request that takes a battle on explains health by the events in its
reply.  This is the step that the ledger of a whole run is made from. -/
theorem perform_explains {g next : Game} {action : Action} {reply : Reply}
    (playing : action.playsOn = true) (ok : g.perform action = .ok (next, reply)) :
    g.Explains reply.events next := by
  cases action with
  | startTurn =>
      obtain ⟨⟨_, _⟩, done, same⟩ := of_map_eq_ok ok
      cases same
      refine ⟨?_, fun _ => startTurn_accounts done⟩
      obtain ⟨-, c, told, rfl, -, -⟩ := of_startTurn_eq_ok done
      rfl
  | playCard =>
      obtain ⟨_, done, same⟩ := of_map_eq_ok ok
      cases same
      exact playCard_explains done
  | runTurn =>
      obtain ⟨_, done, same⟩ := of_map_eq_ok ok
      cases same
      exact runTurn_explains done
  | endTurn =>
      obtain ⟨⟨_, _⟩, done, same⟩ := of_map_eq_ok ok
      cases same
      refine ⟨?_, fun _ => endTurn_accounts g.active done⟩
      obtain ⟨-, rfl, -⟩ := of_endTurn_eq_ok done
      rfl
  | _ => cases playing

/-- Over any calls that take a battle on, health changes by exactly what the
events tell, and all damage is dealt by the side whose turn it was; cards that
overwrite health apart. -/
theorem callAll_health_ledger {g last : Game} {actions : List Action} {log : List LogEntry}
    (playing : ∀ action ∈ actions, action.playsOn = true)
    (ok : g.callAll actions = .ok (log, last))
    (kept : ∀ entry ∈ log, g.KeepsHealth entry.events) :
    (∀ side, (last.combatant side).health = (g.combatant side).health +
      healSum side (log.flatMap LogEntry.events) - damageSum side (log.flatMap LogEntry.events)) ∧
    ∀ entry ∈ log, ∀ source target amount, .damage source target amount ∈ entry.events →
      0 ≤ amount ∧ source = entry.side := by
  -- Calls leave the pool alone, so the cards named later are looked up in the first record.
  induction actions generalizing g log with
  | nil =>
      cases ok
      exact ⟨fun side => by simp, nofun⟩
  | cons action rest ih =>
      obtain ⟨next, reply, later, done, others, rfl⟩ := of_callAll_cons_eq_ok ok
      obtain ⟨pool, accounts⟩ := perform_explains (playing _ (List.mem_cons_self ..)) done
      have first := accounts (kept _ (List.mem_cons_self ..))
      obtain ⟨health, dealt⟩ := ih (fun other mem => playing other (List.mem_cons_of_mem _ mem))
        others fun entry mem => (kept entry (List.mem_cons_of_mem _ mem)).of_subset pool
          (List.Subset.refl _)
      constructor
      · intro side
        rw [List.flatMap_cons, healSum_append, damageSum_append, health, first.health]
        dsimp only
        omega
      · intro entry mem
        rcases List.mem_cons.mp mem with rfl | mem
        · exact first.dealt
        · exact dealt entry mem

/-- A battle in which the user strikes and the opponent strikes itself and
mends. -/
def duel : Game :=
  [.addCard .user { name := "Strike", effects := [.damage 4] },
    .addCard .opponent
      { name := "Penance", effects := [{ Effect.damage 1 with target := .own }, .heal 3] },
    .startBattle].foldl after (.fresh .standard 7)

/-- No card of the example overwrites health, so the ledger applies whatever is
played. -/
theorem duel_keepsHealth (events : List BattleEvent) : duel.KeepsHealth events := by
  intro side id card _ found carried
  obtain ⟨owner, stored⟩ := CardPool.of_card?_eq_some found
  obtain ⟨effect, line, kind⟩ := carried
  have none : ∀ entry ∈ duel.pool.cards.entries, ∀ effect ∈ entry.2.card.effects,
      effect.kind ≠ .set .health := by decide +kernel
  exact none _ stored effect line kind

/-- Over three calls of the example, in which the user strikes and the opponent
strikes itself and mends, the health of both sides is what the ledger says,
starting from 20. -/
theorem duel_health_ledger :
    ∃ log last, duel.callAll [.startTurn, .playCard, .runTurn] = .ok (log, last) ∧
      ∀ side, (last.combatant side).health = 20 + healSum side (log.flatMap LogEntry.events) -
        damageSum side (log.flatMap LogEntry.events) := by
  have ran : (duel.callAll [.startTurn, .playCard, .runTurn]).isOk = true := by decide +kernel
  cases ok : duel.callAll [.startTurn, .playCard, .runTurn] with
  | error fault =>
      rw [ok] at ran
      cases ran
  | ok outcome =>
      obtain ⟨log, last⟩ := outcome
      obtain ⟨health, -⟩ := callAll_health_ledger (by decide) ok
        fun entry _ => duel_keepsHealth entry.events
      have start : ∀ side, (duel.combatant side).health = 20 := by
        intro side
        cases side <;> decide +kernel
      exact ⟨log, last, rfl, fun side => start side ▸ health side⟩

end Game

end CardBattle
