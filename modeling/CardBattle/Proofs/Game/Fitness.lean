/-
Module: CardBattle.Proofs.Game.Fitness
Purpose: A battle that is over is decided, and in a fair run both sides stand until then.
Main exports:
  Game.Settled, Game.Reachable.settled, Rules.Positive, Action.Fair, Game.Fit, Game.fit_kept,
  Game.Fit.endBattle_isOk_iff, Game.Fit.winner?_of_deckExhausted
-/
import CardBattle.Proofs.Game.Plays
import CardBattle.Proofs.Game.Stock

/-!
# Battles that are decided

A battle is over only when it has a winner; this is a law of all runs.

In a fair run all healths that are configured or loaded are positive, and no card overwrites the
health that a battle starts with.  Then both sides stand whenever no battle is over, so only a
battle that is over can be closed.
-/

namespace CardBattle

namespace Game

theorem health_of_standing {g h : Game} (same : h.standing = g.standing) (side : Side) :
    (h.combatant side).health = (g.combatant side).health :=
  congrArg Vitals.health (vitals_of_standing same side)

theorem phase_of_standing {g h : Game} (same : h.standing = g.standing) : h.phase = g.phase :=
  congrArg Stage.phase (stage_of_standing same)

/-- Whether a battle is over is decided by the health of the two sides, which is
part of the standing. -/
theorem isBattleOver_of_standing {g h : Game} (same : h.standing = g.standing) :
    h.isBattleOver = g.isBattleOver := by
  rw [isBattleOver, winner?, Combatant.isDefeated, Combatant.isDefeated, health_of_standing same,
    health_of_standing same]
  rfl

/-! ### Battles that are over -/

/-- A battle that is over is decided. -/
def Settled (g : Game) : Prop := g.phase = .over → g.isBattleOver = true

/-- Only plays end battles, and only decided ones.  Health does not come back
once a battle is over, since nothing may be played then. -/
theorem settled_keepsStanding : KeepsStanding (fun _ => True) (fun _ => True) Settled where
  congr same settled ended := by
    rw [isBattleOver_of_standing same]
    exact settled ((phase_of_standing same).symm.trans ended)
  startBattle _ _ ok ended := by
    cases ended.symm.trans (phase_startBattle ok)
  endBattle _ _ ok ended := by
    have phase := congrArg Stage.phase (of_endBattle_eq_ok ok).2.2.1
    cases ended.symm.trans phase
  startTurn _ _ ok ended := by
    cases ended.symm.trans (phase_startTurn ok)
  playCard _ _ ok ended := by
    obtain ⟨running, played⟩ := playCard_played ok
    rcases played.stage_eq with ⟨lost, -, -⟩ | ⟨stage, -⟩ | ⟨stage, -⟩
    · exact lost
    · cases ended.symm.trans ((congrArg Stage.phase stage).trans running)
    · cases ended.symm.trans ((congrArg Stage.phase stage).trans running)
  endTurn _ _ ok ended := by
    obtain ⟨running, rfl, -⟩ := of_endTurn_eq_ok ok
    cases ended.symm.trans running
  loadOpponent _ _ _ ok ended := by
    obtain ⟨waiting, same⟩ := standing_loadOpponent ok
    cases ended.symm.trans ((phase_of_standing same).trans waiting)
  resetRun _ _ ended := by cases ended

/-- In every record of a run a battle that is over has a side without health. -/
theorem Reachable.settled {g : Game} (reached : g.Reachable) : g.Settled :=
  settled_keepsStanding.reachable (fun _ _ ended => by cases ended) reached

/-- A decided battle can be closed, and its winner is reported, whatever phase
the record is in. -/
theorem endBattle_of_winner {g : Game} {winner : Side} (decided : g.winner? = some winner) :
    ∃ closed result, g.endBattle = .ok (closed, result) ∧ result.winner = winner := by
  rw [endBattle, decided]
  exact ⟨_, _, rfl, rfl⟩

/-- Closing a battle asks for a defeated side and for nothing else. -/
theorem endBattle_isOk_iff {g : Game} :
    (∃ outcome, g.endBattle = .ok outcome) ↔ g.isBattleOver = true := by
  constructor
  · rintro ⟨⟨closed, result⟩, ok⟩
    rw [isBattleOver, (of_endBattle_eq_ok ok).1]
    rfl
  · intro ended
    obtain ⟨winner, decided⟩ := Option.isSome_iff_exists.mp ended
    obtain ⟨closed, result, ok, -⟩ := endBattle_of_winner decided
    exact ⟨_, ok⟩

end Game

/-! ### Fair runs -/

/-- Rules under which both sides start with health. -/
def Rules.Positive (rules : Rules) : Prop := 0 < rules.startingHealth ∧ 0 < rules.opponentHealth

instance (rules : Rules) : Decidable rules.Positive := inferInstanceAs (Decidable (_ ∧ _))

/-- Cards that leave the health at the start of a battle alone. -/
def Card.SparesStart (card : Card) : Prop := ¬ card.Carries (.set .startingHealth)

/-- Requests that bring in only enemies with health, and only cards that leave
the health at the start of a battle alone. -/
def Action.Fair : Action → Prop
  | .addCard _ card => card.SparesStart
  | .loadOpponent enemy => 0 < enemy.health ∧ ∀ card ∈ enemy.cards, card.SparesStart
  | _ => True

namespace Game

/-- Both sides start every battle with health, and have health as long as no
battle is over. -/
structure Fit (g : Game) : Prop where
  rules : g.rules.Positive
  full : ∀ side, 0 < (g.combatant side).startingHealth
  alive : g.phase ≠ .over → ∀ side, 0 < (g.combatant side).health

theorem not_isBattleOver {g : Game} :
    g.isBattleOver = false ↔ ∀ side, 0 < (g.combatant side).health := by
  rw [← Bool.not_eq_true, isBattleOver_iff]
  simp

end Game

namespace Resolution

variable {may : EffectKind → Prop}

theorem startingHealth_assign {c written : Combatant} {field : Field} {value : Binary64}
    (other : field ≠ .startingHealth) (ok : c.assign field value = .ok written) :
    written.startingHealth = c.startingHealth := by
  unfold Combatant.assign at ok
  split at ok
  case h_2 => exact absurd rfl other
  case h_4 s =>
    rw [← Except.ok.inj ok]
    exact congrArg Vitals.startingHealth (Combatant.vitals_setStatus c s value)
  all_goals cases ok
  all_goals rfl

/-- Only an effect that says so overwrites the health at the start of a battle;
no hit and no heal comes near it. -/
theorem Changes.startingHealth_eq (spares : ¬ may (.set .startingHealth)) {r after : Resolution}
    (changes : Changes may r after) (side : Side) :
    (after.combatant side).startingHealth = (r.combatant side).startingHealth := by
  refine changes.view_eq Combatant.startingHealth ?_
  constructor
  case counter =>
    intro c s value _
    exact congrArg Vitals.startingHealth (Combatant.vitals_setStatus c s value)
  case overwritten =>
    intro c written field value cause ok
    refine startingHealth_assign ?_ ok
    rintro rfl
    exact spares cause
  case health => exact fun _ _ => rfl
  case dealt => exact fun _ _ _ => rfl

end Resolution

namespace Game

/-- Both sides start battles with the health that they had before. -/
def KeepsStart (g : Game) (_ : List BattleEvent) (h : Game) : Prop :=
  ∀ side, (h.combatant side).startingHealth = (g.combatant side).startingHealth

theorem KeepsStart.of_standing {g h : Game} {events : List BattleEvent}
    (same : h.standing = g.standing) : g.KeepsStart events h :=
  fun side => congrArg Vitals.startingHealth (vitals_of_standing same side)

/-- A card that spares the starting health leaves it on both sides when it is
played. -/
theorem resolveFromDeck_keepsStart {g after : Game} {id : CardId} {events : List BattleEvent}
    (spares : g.Spares (· = .startingHealth) events)
    (ok : g.resolveFromDeck id = .ok (after, events)) : g.KeepsStart events after := by
  obtain ⟨card, resolved, told, rest, trashed, found, settled, away, rfl, rfl⟩ :=
    of_resolveFromDeck_eq_ok ok
  obtain ⟨r, changes, rfl, -⟩ := resolveCard_changes settled
  have spared : ¬ card.MayChange (.set .startingHealth) := fun change =>
    spares g.active id card (by simp) found .startingHealth rfl change.carries
  intro side
  have put : rest.startingHealth = (r.game.combatant g.active).startingHealth :=
    Combatant.view_putAway (fun _ _ _ _ _ => rfl) away
  calc ((r.game.setCombatant g.active rest).combatant side).startingHealth
      = (r.game.combatant side).startingHealth :=
        view_updateCombatant Combatant.startingHealth put side
    _ = ((g.updateCombatant g.active fun c =>
          { c with cardsPlayedThisTurn := c.cardsPlayedThisTurn + 1 }).combatant
            side).startingHealth := changes.startingHealth_eq spared side
    _ = (g.combatant side).startingHealth :=
        view_updateCombatant Combatant.startingHealth rfl side

/-- Plays leave the health at the start of a battle alone if their cards do.
The rest of a play does not write it at all. -/
theorem keepsStart_law : PlayLaw (· = .startingHealth) KeepsStart where
  still _ _ := rfl
  andThen one two side := (two side).trans (one side)
  startTurn {g next events} ok side := by
    obtain ⟨-, -, other, gained, -, own⟩ := startTurn_standing ok
    rcases Side.eq_or_eq_other side g.active with rfl | rfl
    · exact congrArg Vitals.startingHealth own
    · rw [other]
  endTurn ok side := by
    obtain ⟨-, rfl, -⟩ := of_endTurn_eq_ok ok
    rfl
  stunned spent := .of_standing (standing_spend spent)
  consumeExtraPlay ok := .of_standing (standing_consumeExtraPlay ok)
  resolveFromDeck _ _ spares ok := resolveFromDeck_keepsStart spares ok
  exhaust {g} _ _ side :=
    view_updateCombatant Combatant.startingHealth (g := { g with phase := .over }) rfl side
  decide _ _ := rfl

/-! ### Both sides stand while no battle is over -/

/-- A turn that starts takes no health, so both sides are left standing. -/
theorem startTurn_alive {g next : Game} {events : List BattleEvent}
    (alive : ∀ side, 0 < (g.combatant side).health) (ok : g.startTurn = .ok (next, events)) :
    ∀ side, 0 < (next.combatant side).health := by
  obtain ⟨-, -, other, gained, counted, own⟩ := startTurn_standing ok
  intro side
  rcases Side.eq_or_eq_other side g.active with rfl | rfl
  · have health : (next.combatant g.active).health = (g.combatant g.active).health + gained :=
      congrArg Vitals.health own
    rw [health]
    exact Int.add_pos_of_pos_of_nonneg (alive _) counted
  · rw [other]
    exact alive _

/-- Opening a turn leaves both sides standing, whether it starts the turn or
finds it started. -/
theorem openTurn_alive {g opened : Game} {events : List BattleEvent}
    (alive : ∀ side, 0 < (g.combatant side).health) (ok : g.openTurn = .ok (opened, events)) :
    ∀ side, 0 < (opened.combatant side).health := by
  rcases of_openTurn_eq_ok ok with starts | ⟨rfl, -⟩
  · exact startTurn_alive alive starts
  · exact alive

/-- A play that does not end the battle leaves both sides standing, because a
side that fell would have ended it. -/
theorem Played.alive {g after : Game} {report : PlayReport} (played : g.Played after report)
    (alive : ∀ side, 0 < (g.combatant side).health) (goesOn : after.phase ≠ .over) :
    ∀ side, 0 < (after.combatant side).health := by
  cases played with
  | stunned opens spent ends =>
      obtain ⟨-, rfl, -⟩ := of_endTurn_eq_ok ends
      intro side
      have same := health_of_standing (standing_spend spent) side
      exact lt_of_lt_of_eq (openTurn_alive alive opens side) same.symm
  | exhausted => exact absurd rfl goesOn
  | decided => exact absurd rfl goesOn
  | again _ _ _ _ standing _ spends =>
      intro side
      rw [health_of_standing (standing_consumeExtraPlay spends)]
      exact not_isBattleOver.mp standing side
  | passed _ _ _ _ standing _ ends =>
      obtain ⟨-, rfl, -⟩ := of_endTurn_eq_ok ends
      exact not_isBattleOver.mp standing

namespace Fit

variable {g h next : Game}

/-- Where healths are the same, the records are as fit, provided that the battle
is not taken up again. -/
theorem of_vitals (fit : g.Fit) (rules : h.rules = g.rules)
    (same : ∀ side, (h.combatant side).vitals = (g.combatant side).vitals)
    (going : h.phase ≠ .over → g.phase ≠ .over) : h.Fit := by
  refine ⟨rules ▸ fit.rules, fun side => ?_, fun goesOn side => ?_⟩
  · have start : (h.combatant side).startingHealth = (g.combatant side).startingHealth :=
      congrArg Vitals.startingHealth (same side)
    rw [start]
    exact fit.full side
  · have health : (h.combatant side).health = (g.combatant side).health :=
      congrArg Vitals.health (same side)
    rw [health]
    exact fit.alive (going goesOn) side

theorem of_standing (fit : g.Fit) (same : h.standing = g.standing) : h.Fit := by
  refine fit.of_vitals (congrArg Stage.rules (stage_of_standing same)) (vitals_of_standing same) ?_
  rw [phase_of_standing same]
  exact id

/-- Regeneration only adds to health, so a turn that starts keeps both sides
fit. -/
theorem startTurn {events : List BattleEvent} (fit : g.Fit)
    (ok : g.startTurn = .ok (next, events)) : next.Fit := by
  obtain ⟨running, stage, -⟩ := startTurn_standing ok
  have standing : ∀ side, 0 < (g.combatant side).health := fit.alive (by simp [running])
  have rules : next.rules = g.rules := congrArg Stage.rules stage
  refine ⟨rules ▸ fit.rules, fun side => ?_, fun _ => startTurn_alive standing ok⟩
  rw [keepsStart_law.startTurn ok side]
  exact fit.full side

/-- A play keeps both sides fit: cards that spare the starting health leave it
positive, and a side that falls ends the battle. -/
theorem playCard {report : PlayReport} (stocks : g.Stocks Card.SparesStart) (fit : g.Fit)
    (ok : g.playCard = .ok (next, report)) : next.Fit := by
  obtain ⟨running, played⟩ := playCard_played ok
  have spares : g.Spares (· = .startingHealth) report.events := by
    rintro side id card - found field rfl
    exact stocks id card found
  have rules : next.rules = g.rules := by
    rcases played.stage_eq with ⟨-, stage, -⟩ | ⟨stage, -⟩ | ⟨stage, -⟩
    · exact congrArg Stage.rules stage
    · exact congrArg Stage.rules stage
    · exact congrArg Stage.rules stage
  refine ⟨rules ▸ fit.rules, fun side => ?_, fun goesOn => ?_⟩
  · rw [keepsStart_law.playCard ok spares side]
    exact fit.full side
  · exact played.alive (fit.alive (by simp [running])) goesOn

/-- A loaded enemy brings its health, and starts with it.  The request is fair
only if that health is positive. -/
theorem loadOpponent {enemy : Enemy} (healthy : 0 < enemy.health) (fit : g.Fit)
    (ok : g.loadOpponent enemy = .ok next) : next.Fit := by
  obtain ⟨waiting, same⟩ := standing_loadOpponent ok
  have replaced : (g.updateCombatant .opponent fun c => c.become enemy).Fit := by
    refine ⟨fit.rules, fun side => ?_, fun _ side => ?_⟩
    · cases side with
      | user => exact fit.full .user
      | opponent => exact healthy
    · cases side with
      | user => exact fit.alive (by simp [waiting]) .user
      | opponent => exact healthy
  exact replaced.of_standing same

/-- A reset sets both sides to the health of the rules, which are positive in a
fair run. -/
theorem resetRun (fit : g.Fit) : g.resetRun.Fit := by
  refine ⟨fit.rules, fun side => ?_, fun _ side => ?_⟩
  · cases side
    · exact fit.rules.1
    · exact fit.rules.2
  · cases side
    · exact fit.rules.1
    · exact fit.rules.2

theorem fresh {rules : Rules} (positive : rules.Positive) (seed : UInt64) :
    (Game.fresh rules seed).Fit := by
  refine ⟨positive, fun side => ?_, fun _ side => ?_⟩
  · cases side
    · exact positive.1
    · exact positive.2
  · cases side
    · exact positive.1
    · exact positive.2

end Fit

/-- Fitness is a law about the standing, so requests about cards, links, relics
and counters need no case of their own. -/
theorem fit_keepsStanding : KeepsStanding Action.Fair (Stocks Card.SparesStart) Fit where
  congr same fit := fit.of_standing same
  startBattle {g next events} _ fit ok := by
    have waiting := (of_startBattle_eq_ok ok).1
    have rules := congrArg (fun s => s.stage.rules) (standing_startBattle ok)
    exact fit.of_vitals rules (vitals_startBattle ok) fun _ => by simp [waiting]
  endBattle {g next result} _ fit ok := by
    obtain ⟨-, -, stage, -, rested⟩ := of_endBattle_eq_ok ok
    refine ⟨?_, fun side => ?_, fun _ side => ?_⟩
    · rw [show next.rules = g.rules from congrArg Stage.rules stage]
      exact fit.rules
    · rw [rested side]
      exact fit.full side
    · rw [rested side]
      exact fit.full side
  startTurn _ fit ok := fit.startTurn ok
  playCard stocks fit ok := fit.playCard stocks ok
  endTurn _ fit ok := by
    obtain ⟨-, rfl, -⟩ := of_endTurn_eq_ok ok
    exact ⟨fit.rules, fit.full, fit.alive⟩
  loadOpponent allowed _ fit ok := fit.loadOpponent allowed.1 ok
  resetRun _ fit := fit.resetRun

/-- Fair requests keep both sides fit, together with the law about cards that
fitness builds on. -/
theorem fit_kept : KeptBy Action.Fair fun g => g.Stocks Card.SparesStart ∧ g.Fit :=
  fit_keepsStanding.kept (stocks_kept (fun _ _ fair => fair) fun _ fair => fair.2)

/-- In a fair run no side goes into a battle without health. -/
theorem ReachableBy.fit {g : Game} (reached : g.ReachableBy Rules.Positive Action.Fair) :
    g.Stocks Card.SparesStart ∧ g.Fit := by
  refine fit_kept.reachable (fun rules seed positive => ⟨?_, .fresh positive seed⟩) reached
  intro id card found
  cases found

/-- In a fair run only a battle that is over can be closed, as no side is
without health in any other phase. -/
theorem Fit.endBattle_isOk_iff {g : Game} (fit : g.Fit) (settled : g.Settled) :
    (∃ outcome, g.endBattle = .ok outcome) ↔ g.phase = .over := by
  rw [Game.endBattle_isOk_iff]
  constructor
  · intro lost
    refine Classical.not_not.mp fun goesOn => ?_
    rw [not_isBattleOver.mpr (fit.alive goesOn)] at lost
    cases lost
  · exact settled

/-- A side that has lost all its health at once, while the other stands, has
lost the battle. -/
theorem winner?_exhaust {g : Game} (alive : ∀ side, 0 < (g.combatant side).health)
    (events : List BattleEvent) : (g.exhaust events).1.winner? = some g.active.other := by
  have lost : ((g.exhaust events).1.combatant g.active).isDefeated = true := by
    rw [exhaust, combatant_updateCombatant_self, Combatant.isDefeated, decide_eq_true_eq]
    show (g.combatant g.active).health - max (g.combatant g.active).health 0 ≤ 0
    omega
  have stands : ((g.exhaust events).1.combatant g.active.other).isDefeated = false := by
    rw [exhaust, combatant_updateCombatant_other, Combatant.isDefeated, decide_eq_false_iff_not]
    exact Int.not_le.mpr (alive _)
  unfold winner?
  cases side : g.active with
  | user =>
      rw [side] at lost
      rw [if_pos lost]
      rfl
  | opponent =>
      rw [side] at lost stands
      have user : ((g.exhaust events).1.combatant .user).isDefeated = false := stands
      rw [if_neg (by simp [user]), if_pos lost]
      rfl

/-- A side without a card to play loses to the other, which still stands. -/
theorem Fit.winner?_of_deckExhausted {g next : Game} {report : PlayReport} (fit : g.Fit)
    (ok : g.playCard = .ok (next, report)) (out : report.outcome = .deckExhausted) :
    next.winner? = some g.active.other := by
  obtain ⟨running, played⟩ := playCard_played ok
  cases played with
  | @exhausted opened opening opens =>
      have alive := openTurn_alive (fit.alive (by simp [running])) opens
      rw [← (openTurn_frame opens).2]
      exact winner?_exhaust alive opening
  | stunned => cases out
  | decided => cases out
  | again => cases out
  | passed => cases out

end Game

end CardBattle
