/-
Module: CardBattle.Proofs.Game.Standing
Purpose: The part of a record that requests about cards, links and relics leave alone.
Main exports:
  Combatant.vitals, Game.stage, Game.standing, Game.standing_updateCombatant,
  Game.Played.stage_eq, Game.phase_playCard_ne_idle, Game.KeepsStanding, Game.KeepsStanding.kept
-/
import CardBattle.Proofs.Game.DeckBuilding
import CardBattle.Proofs.Game.Requests

/-!
# Standing

The standing of a record is the stage of the run, with its turn and score, together with health and
tallies of both sides.  Only requests that take a battle on, or that exchange a combatant, change
it, so a law about the standing is one case for each of these.
-/

namespace CardBattle

/-- Health and tallies of a combatant. -/
structure Vitals where
  health : Int
  startingHealth : Int
  cardsPlayedThisTurn : Nat
  damageThisTurn : Int
  damageLastTurn : Int

namespace Combatant

/-- The vitals of a combatant. -/
def vitals (c : Combatant) : Vitals :=
  ⟨c.health, c.startingHealth, c.cardsPlayedThisTurn, c.damageThisTurn, c.damageLastTurn⟩

@[simp] theorem vitals_setStatus (c : Combatant) (s : Status) (value : Binary64) :
    (c.setStatus s value).vitals = c.vitals := by
  unfold setStatus
  dsimp only
  split <;> rfl

@[simp] theorem vitals_addStatus (c : Combatant) (s : Status) (addend : Binary64) :
    (c.addStatus s addend).vitals = c.vitals :=
  vitals_setStatus ..

theorem vitals_forget (c : Combatant) (id : CardId) : (c.forget id).vitals = c.vitals := by
  unfold forget
  split <;> rfl

end Combatant

/-- Where a run has got to: its rules, turn, phase and score. -/
structure Stage where
  rules : Rules
  turn : Nat
  active : Side
  phase : BattlePhase
  turnPhase : TurnPhase
  wins : Nat
  losses : Nat

/-- The stage of a run with the vitals of both sides. -/
structure Standing where
  stage : Stage
  vitals : Sides Vitals

namespace Game

/-- The stage of a record. -/
def stage (g : Game) : Stage :=
  ⟨g.rules, g.turn, g.active, g.phase, g.turnPhase, g.wins, g.losses⟩

/-- The standing of a record. -/
def standing (g : Game) : Standing := ⟨g.stage, g.combatants.map Combatant.vitals⟩

theorem stage_of_table {g h : Game} (same : h.table = g.table) : h.stage = g.stage :=
  congrArg (fun t : Table => (⟨t.rules, t.turn, t.active, t.phase, t.turnPhase, t.wins, t.losses⟩ :
    Stage)) same

@[simp] theorem stage_updateCombatant (g : Game) (side : Side)
    (change : Combatant → Combatant) : (g.updateCombatant side change).stage = g.stage :=
  rfl

theorem stage_of_standing {g h : Game} (same : h.standing = g.standing) : h.stage = g.stage :=
  congrArg Standing.stage same

theorem vitals_of_standing {g h : Game} (same : h.standing = g.standing) (side : Side) :
    (h.combatant side).vitals = (g.combatant side).vitals := by
  have both := congrArg (fun s => s.vitals.get side) same
  simpa [standing, combatant] using both

/-- A change of one combatant that keeps its vitals keeps the standing.  Most
requests about cards are changes of this kind. -/
theorem standing_updateCombatant {g : Game} {side : Side} {change : Combatant → Combatant}
    (kept : (change (g.combatant side)).vitals = (g.combatant side).vitals) :
    (g.updateCombatant side change).standing = g.standing := by
  have sides : (g.updateCombatant side change).combatants.map Combatant.vitals =
      g.combatants.map Combatant.vitals := Sides.map_update_of_eq kept
  rw [standing, sides]
  rfl

/-! ### Requests about cards, links and relics -/

/-- Cards come and go without an effect on turn, score or health. -/
theorem standing_addCard (g : Game) (side : Side) (card : Card) :
    (g.addCard side card).1.standing = g.standing :=
  standing_updateCombatant (g := { g with pool := (g.pool.insert card side).2 }) rfl

theorem standing_addCards (g : Game) (side : Side) (cards : List Card) :
    (g.addCards side cards).standing = g.standing := by
  induction cards generalizing g with
  | nil => rfl
  | cons card rest ih => exact (ih _).trans (standing_addCard ..)

/-- A card that leaves the run changes its owner's piles and nothing of the
standing. -/
theorem standing_removeCard {g next : Game} {id : CardId} {card : Card}
    (ok : g.removeCard id = .ok (next, card)) : next.standing = g.standing := by
  obtain ⟨owner, -, rfl⟩ := of_removeCard_eq_ok ok
  exact standing_updateCombatant (g := { g with pool := g.pool.erase id })
    (Combatant.vitals_forget ..)

theorem standing_chainCards {g next : Game} {first second : CardId}
    (ok : g.chainCards first second = .ok next) : next.standing = g.standing := by
  obtain ⟨owner, chains, -, -, -, rfl⟩ := chainCards_eq_ok_iff.mp ok
  exact standing_updateCombatant (g := { g with pool := { g.pool with chains := chains } }) rfl

theorem standing_unlinkCard {g next : Game} {id : CardId} (ok : g.unlinkCard id = .ok next) :
    next.standing = g.standing := by
  obtain rfl := of_unlinkCard_eq_ok ok
  rfl

/-- A new relic has no effect before it is used. -/
theorem standing_addRelic (g : Game) (side : Side) (relic : Relic) :
    (g.addRelic side relic).standing = g.standing :=
  standing_updateCombatant rfl

theorem standing_discardCurrent (g : Game) (side : Side) :
    (g.discardCurrent side).1.standing = g.standing := by
  unfold discardCurrent
  split
  · exact standing_updateCombatant rfl
  · rfl

/-- Trashing a card outside of a play is not counted as a play. -/
theorem standing_trashAt (g : Game) (side : Side) (index : Nat) :
    (g.trashAt side index).1.standing = g.standing := by
  unfold trashAt
  split
  · exact standing_updateCombatant rfl
  · rfl

/-- A shuffle moves cards and dice, neither of which is part of the standing. -/
theorem standing_shuffleDeck (g : Game) (side : Side) :
    (g.shuffleDeck side).1.standing = g.standing := by
  rw [fst_shuffleDeck]
  exact standing_updateCombatant
    (g := { g with dice := (g.dice.shuffle (g.combatant side).deck).2 }) rfl

/-- Spending a stack only moves a counter. -/
theorem standing_spend {g : Game} {side : Side} {s : Status} {rest : Combatant}
    (spent : (g.combatant side).spend? s = some rest) :
    (g.setCombatant side rest).standing = g.standing := by
  rw [Combatant.of_spend?_eq_some spent]
  exact standing_updateCombatant (Combatant.vitals_addStatus ..)

/-- A further play is spent as a stack of a counter; the tally of plays is
raised only when the card is played. -/
theorem standing_consumeExtraPlay {g next : Game} (ok : g.consumeExtraPlay = .ok next) :
    next.standing = g.standing := by
  unfold consumeExtraPlay at ok
  split at ok
  · rename_i spent
    cases ok
    exact standing_spend spent
  · cases ok

end Game

/-- The requests about cards, links, relics and counters. -/
def Action.keepsStanding : Action → Bool
  | .consumeExtraPlay | .addCard _ _ | .removeCard _ | .chainCards _ _ | .unlinkCard _
  | .addRelic _ _ | .discardCurrent _ | .trashCurrent _ | .trashNext _ | .shuffleDeck _ => true
  | _ => false

namespace Game

/-- Requests about cards, links, relics and counters keep the standing, each by
its own lemma above. -/
theorem standing_perform {g next : Game} {action : Action} {reply : Reply}
    (quiet : action.keepsStanding = true) (ok : g.perform action = .ok (next, reply)) :
    next.standing = g.standing := by
  cases action with
  | consumeExtraPlay =>
      -- Unfolding by evaluation would compute the counter that is spent.
      rw [Game.perform] at ok
      obtain ⟨_, done, same⟩ := of_map_eq_ok ok
      cases same
      exact standing_consumeExtraPlay done
  | addCard side card =>
      cases ok
      exact standing_addCard ..
  | removeCard id =>
      obtain ⟨_, done, same⟩ := of_map_eq_ok ok
      cases same
      exact standing_removeCard done
  | chainCards first second =>
      obtain ⟨_, done, same⟩ := of_map_eq_ok ok
      cases same
      exact standing_chainCards done
  | unlinkCard id =>
      obtain ⟨_, done, same⟩ := of_map_eq_ok ok
      cases same
      exact standing_unlinkCard done
  | addRelic side relic =>
      cases ok
      exact standing_addRelic ..
  | discardCurrent side =>
      cases ok
      exact standing_discardCurrent ..
  | trashCurrent side =>
      cases ok
      exact standing_trashAt ..
  | trashNext side =>
      have moved : (g.trashNext side).1.standing = g.standing := by
        unfold trashNext
        dsimp only
        split
        · rfl
        · exact standing_trashAt ..
      cases ok
      exact moved
  | shuffleDeck side =>
      cases ok
      exact standing_shuffleDeck ..
  | _ => cases quiet

/-! ### Battles and turns -/

/-- Being cut open is a counter; health goes only when a hit lands. -/
theorem standing_openWounds (g : Game) (side : Side) :
    (g.openWounds side).standing = g.standing := by
  unfold openWounds
  dsimp only
  split
  · exact standing_updateCombatant (Combatant.vitals_addStatus ..)
  · rfl

/-- A battle starts with the user's turn, and leaves the vitals as they were, as
relics only cut sides open. -/
theorem standing_startBattle {g next : Game} {events : List BattleEvent}
    (ok : g.startBattle = .ok (next, events)) :
    next.standing =
      ⟨{ g.stage with turn := 0, active := .user, phase := .active, turnPhase := .start },
        g.standing.vitals⟩ := by
  unfold startBattle at ok
  split at ok
  · cases ok
    exact (standing_openWounds ..).trans (standing_openWounds ..)
  · cases ok

theorem vitals_startBattle {g next : Game} {events : List BattleEvent}
    (ok : g.startBattle = .ok (next, events)) (side : Side) :
    (next.combatant side).vitals = (g.combatant side).vitals := by
  have both := congrArg (fun s => s.vitals.get side) (standing_startBattle ok)
  simpa [standing, combatant] using both

/-- No card comes or goes when a battle begins. -/
theorem pool_startBattle {g next : Game} {events : List BattleEvent}
    (ok : g.startBattle = .ok (next, events)) : next.pool = g.pool :=
  congrArg Table.pool (of_startBattle_eq_ok ok).2.1

/-- A battle that is closed has a winner, counts once, and leaves both sides
rested. -/
theorem of_endBattle_eq_ok {g next : Game} {result : BattleResult}
    (ok : g.endBattle = .ok (next, result)) :
    g.winner? = some result.winner ∧ next.pool = g.pool ∧
      next.stage = { g.stage with
        turn := 0, active := .user, phase := .idle, turnPhase := .start,
        wins := result.wins, losses := result.losses } ∧
      result.wins + result.losses = g.wins + g.losses + 1 ∧
      ∀ side, next.combatant side = (g.combatant side).resetForBattle := by
  unfold endBattle at ok
  split at ok
  · cases ok
  · rename_i winner decided
    cases ok
    refine ⟨decided, ?_, ?_, ?_, ?_⟩
    · cases winner <;> rfl
    · cases winner <;> rfl
    · cases winner
      · exact Nat.add_right_comm ..
      · exact (Nat.add_assoc ..).symm
    · intro side
      cases winner <;> cases side <;> rfl

/-- A turn that starts is being played; its side loses no health, and its
tallies roll over. -/
theorem startTurn_standing {g next : Game} {events : List BattleEvent}
    (ok : g.startTurn = .ok (next, events)) :
    g.phase = .active ∧ next.stage = { g.stage with turnPhase := .playing } ∧
      next.combatant g.active.other = g.combatant g.active.other ∧
      ∃ gained, 0 ≤ gained ∧ (next.combatant g.active).vitals =
        ⟨(g.combatant g.active).health + gained, (g.combatant g.active).startingHealth, 0, 0,
          (g.combatant g.active).damageThisTurn⟩ := by
  unfold startTurn at ok
  split at ok
  · rename_i running
    dsimp only at ok
    split at ok
    · rename_i positive
      cases ok
      refine ⟨running, rfl, combatant_updateCombatant_other .., _, Int.le_of_lt positive, ?_⟩
      rw [setCombatant, combatant_updateCombatant_self, Combatant.regenerate,
        Combatant.vitals_addStatus]
      rfl
    · cases ok
      refine ⟨running, rfl, combatant_updateCombatant_other .., 0, Int.le_refl 0, ?_⟩
      rw [setCombatant, combatant_updateCombatant_self, Int.add_zero]
      rfl
  · cases ok

/-- A loaded enemy takes the opponent's place; nothing else of the standing
moves. -/
theorem standing_loadOpponent {g next : Game} {enemy : Enemy}
    (ok : g.loadOpponent enemy = .ok next) :
    g.phase = .idle ∧
      next.standing = (g.updateCombatant .opponent fun c => c.become enemy).standing := by
  obtain ⟨waiting, rfl⟩ := of_loadOpponent_eq_ok ok
  exact ⟨waiting, standing_addCards ..⟩

/-! ### Stages of a play -/

/-- A battle is decided when a side has no health left, whichever side that is. -/
theorem isBattleOver_iff {g : Game} :
    g.isBattleOver = true ↔ ∃ side, (g.combatant side).health ≤ 0 := by
  have either : (∃ side, (g.combatant side).health ≤ 0) ↔
      (g.combatant .user).health ≤ 0 ∨ (g.combatant .opponent).health ≤ 0 := by
    constructor
    · rintro ⟨side, lost⟩
      cases side
      · exact .inl lost
      · exact .inr lost
    · rintro (lost | lost)
      · exact ⟨.user, lost⟩
      · exact ⟨.opponent, lost⟩
  rw [either, isBattleOver, winner?]
  by_cases user : (g.combatant .user).health ≤ 0
  · simp [Combatant.isDefeated, user]
  · by_cases opponent : (g.combatant .opponent).health ≤ 0
    · simp [Combatant.isDefeated, user, opponent]
    · simp [Combatant.isDefeated, user, opponent]

/-- An opened turn is being played. -/
theorem openTurn_stage {g opened : Game} {events : List BattleEvent}
    (ok : g.openTurn = .ok (opened, events)) :
    opened.stage = { g.stage with turnPhase := .playing } := by
  rcases begun : g.turnPhase with _ | _
  · rw [openTurn, if_pos begun] at ok
    obtain ⟨-, c, told, rfl, -, -⟩ := of_startTurn_eq_ok ok
    rfl
  · have playing : g.turnPhase ≠ .start := by simp [begun]
    rw [openTurn, if_neg playing] at ok
    cases ok
    rw [← begun]
    rfl

/-- A card can change neither turn nor phase nor score; what its damage decides
is noticed only after it. -/
theorem resolveFromDeck_stage {g after : Game} {id : CardId} {events : List BattleEvent}
    (ok : g.resolveFromDeck id = .ok (after, events)) : after.stage = g.stage := by
  obtain ⟨card, resolved, told, rest, trashed, -, settled, -, rfl, -⟩ :=
    of_resolveFromDeck_eq_ok ok
  have same := stage_of_table (resolveCard_table settled)
  rw [stage_updateCombatant] at same
  rw [setCombatant, stage_updateCombatant, same]

/-- A play decides the battle, goes on with the turn, or passes it. -/
theorem Played.stage_eq {g after : Game} {report : PlayReport} (played : g.Played after report) :
    (after.isBattleOver = true ∧
        after.stage = { g.stage with turnPhase := .playing, phase := .over } ∧
        (report.outcome = .deckExhausted ∨ report.outcome = .battleOver)) ∨
      (after.stage = { g.stage with turnPhase := .playing } ∧ report.outcome = .extraPlay) ∨
      (after.stage = { g.stage with
          turn := g.turn + 1, active := .forTurn (g.turn + 1), turnPhase := .start } ∧
        report.outcome = .turnEnded) := by
  cases played with
  | stunned opens _ ends =>
      obtain ⟨-, rfl, -⟩ := of_endTurn_eq_ok ends
      have opened := openTurn_stage opens
      refine .inr (.inr ⟨?_, rfl⟩)
      simp_all [stage, setTurn, setCombatant, updateCombatant]
  | @exhausted opened opening opens =>
      have started := openTurn_stage opens
      refine .inl ⟨?_, ?_, .inl rfl⟩
      · refine isBattleOver_iff.mpr ⟨opened.active, ?_⟩
        rw [exhaust, combatant_updateCombatant_self]
        show (opened.combatant opened.active).health -
          max (opened.combatant opened.active).health 0 ≤ 0
        omega
      · simp_all [stage, exhaust, updateCombatant]
  | decided opens _ _ resolves lost =>
      have opened := openTurn_stage opens
      have resolved := resolveFromDeck_stage resolves
      refine .inl ⟨lost, ?_, .inr rfl⟩
      simp_all [stage]
  | again opens _ _ resolves _ _ spends =>
      have opened := openTurn_stage opens
      have resolved := resolveFromDeck_stage resolves
      have spent := stage_of_standing (standing_consumeExtraPlay spends)
      exact .inr (.inl ⟨spent.trans (resolved.trans opened), rfl⟩)
  | passed opens _ _ resolves _ _ ends =>
      obtain ⟨-, rfl, -⟩ := of_endTurn_eq_ok ends
      have opened := openTurn_stage opens
      have resolved := resolveFromDeck_stage resolves
      refine .inr (.inr ⟨?_, rfl⟩)
      simp_all [stage, setTurn]

/-! ### Phases -/

theorem phase_startBattle {g next : Game} {events : List BattleEvent}
    (ok : g.startBattle = .ok (next, events)) : next.phase = .active :=
  congrArg (fun standing => standing.stage.phase) (standing_startBattle ok)

/-- A turn can only start in a battle, and the battle goes on. -/
theorem phase_startTurn {g next : Game} {events : List BattleEvent}
    (ok : g.startTurn = .ok (next, events)) : next.phase = .active := by
  obtain ⟨running, stage, -⟩ := startTurn_standing ok
  exact (congrArg Stage.phase stage).trans running

/-- No play closes a battle. -/
theorem phase_playCard_ne_idle {g next : Game} {report : PlayReport}
    (ok : g.playCard = .ok (next, report)) : next.phase ≠ .idle := by
  obtain ⟨running, played⟩ := playCard_played ok
  have phases : next.phase = .over ∨ next.phase = g.phase := by
    rcases played.stage_eq with ⟨-, stage, -⟩ | ⟨stage, -⟩ | ⟨stage, -⟩
    · exact .inl (congrArg Stage.phase stage)
    · exact .inr (congrArg Stage.phase stage)
    · exact .inr (congrArg Stage.phase stage)
  rcases phases with phase | phase
  · simp [phase]
  · simp [phase, running]

/-- A side plays again only in a battle that goes on. -/
theorem phase_of_extraPlay {g next : Game} {report : PlayReport}
    (ok : g.playCard = .ok (next, report)) (again : report.outcome = .extraPlay) :
    next.phase = .active := by
  obtain ⟨running, played⟩ := playCard_played ok
  rcases played.stage_eq with ⟨-, -, lost | lost⟩ | ⟨stage, -⟩ | ⟨-, passed⟩
  · cases again.symm.trans lost
  · cases again.symm.trans lost
  · exact (congrArg Stage.phase stage).trans running
  · cases again.symm.trans passed

/-! ### Laws about the standing -/

/-- A law about the standing of records that have another law already, with one
case for each request that can change the standing. -/
structure KeepsStanding (fair : Action → Prop) (Q S : Game → Prop) : Prop where
  congr : ∀ {g h : Game}, h.standing = g.standing → S g → S h
  startBattle : ∀ {g next : Game} {events : List BattleEvent},
    Q g → S g → g.startBattle = .ok (next, events) → S next
  endBattle : ∀ {g next : Game} {result : BattleResult},
    Q g → S g → g.endBattle = .ok (next, result) → S next
  startTurn : ∀ {g next : Game} {events : List BattleEvent},
    Q g → S g → g.startTurn = .ok (next, events) → S next
  playCard : ∀ {g next : Game} {report : PlayReport},
    Q g → S g → g.playCard = .ok (next, report) → S next
  endTurn : ∀ {g next : Game} {events : List BattleEvent},
    Q g → S g → g.endTurn = .ok (next, events) → S next
  loadOpponent : ∀ {g next : Game} {enemy : Enemy}, fair (.loadOpponent enemy) →
    Q g → S g → g.loadOpponent enemy = .ok next → S next
  resetRun : ∀ {g : Game}, Q g → S g → S g.resetRun

/-- A law about the standing is kept together with the one that it builds on. -/
theorem KeepsStanding.kept {fair : Action → Prop} {Q S : Game → Prop}
    (law : KeepsStanding fair Q S) (base : KeptBy fair Q) : KeptBy fair fun g => Q g ∧ S g where
  startBattle start ok := ⟨base.startBattle start.1 ok, law.startBattle start.1 start.2 ok⟩
  endBattle start ok := ⟨base.endBattle start.1 ok, law.endBattle start.1 start.2 ok⟩
  startTurn start ok := ⟨base.startTurn start.1 ok, law.startTurn start.1 start.2 ok⟩
  playCard start ok := ⟨base.playCard start.1 ok, law.playCard start.1 start.2 ok⟩
  consumeExtraPlay start ok :=
    ⟨base.consumeExtraPlay start.1 ok, law.congr (standing_consumeExtraPlay ok) start.2⟩
  endTurn start ok := ⟨base.endTurn start.1 ok, law.endTurn start.1 start.2 ok⟩
  addCard allowed start :=
    ⟨base.addCard allowed start.1, law.congr (standing_addCard ..) start.2⟩
  removeCard start ok := ⟨base.removeCard start.1 ok, law.congr (standing_removeCard ok) start.2⟩
  chainCards start ok := ⟨base.chainCards start.1 ok, law.congr (standing_chainCards ok) start.2⟩
  unlinkCard start ok := ⟨base.unlinkCard start.1 ok, law.congr (standing_unlinkCard ok) start.2⟩
  addRelic allowed start :=
    ⟨base.addRelic allowed start.1, law.congr (standing_addRelic ..) start.2⟩
  loadOpponent allowed start ok :=
    ⟨base.loadOpponent allowed start.1 ok, law.loadOpponent allowed start.1 start.2 ok⟩
  discardCurrent side start :=
    ⟨base.discardCurrent side start.1, law.congr (standing_discardCurrent ..) start.2⟩
  trashAt side index start :=
    ⟨base.trashAt side index start.1, law.congr (standing_trashAt ..) start.2⟩
  shuffleDeck side start :=
    ⟨base.shuffleDeck side start.1, law.congr (standing_shuffleDeck ..) start.2⟩
  resetRun start := ⟨base.resetRun start.1, law.resetRun start.1 start.2⟩

/-- A law about the standing that builds on no other holds of every record. -/
theorem KeepsStanding.reachable {S : Game → Prop}
    (law : KeepsStanding (fun _ => True) (fun _ => True) S)
    (fresh : ∀ rules seed, S (.fresh rules seed)) {g : Game} (reached : g.Reachable) : S g :=
  ((law.kept (.of_true _)).reachable (fun rules seed _ => ⟨trivial, fresh rules seed⟩)
    reached.reachableBy).2

end Game

end CardBattle
