/-
Module: CardBattle.Proofs.Game.Progress
Purpose: Plays, whole turns and whole battles are not refused where they belong.
Main exports:
  Game.consumeExtraPlay_isOk_iff, Game.resolveFromDeck_isOk, Game.playCard_isOk, Game.Playable,
  Game.Playable.runBattle_isOk, Game.plays_turns_and_battles_never_refused
-/
import CardBattle.Proofs.Game.Cards
import CardBattle.Proofs.Game.Fitness
import CardBattle.Proofs.Resolution.Progress

/-!
# Battles that run to their end

A play can be refused in many places: the card under the cursor might be unknown, a line of it
might be stopped, a further play might be spent that is not there, a turn might be passed in a battle
that is over.  In a record of a run with sound cards and fair coins none of this happens, and the
record after the play is one of the same kind; so turns and battles, which only repeat plays, are
carried out as well, and a battle that is over can be closed.
-/

namespace CardBattle

/-- The two tests for a whole stack agree: rounding down to a positive integer,
and being at least one. -/
theorem Combatant.wholeStacks_pos_iff {c : Combatant} {s : Status} :
    0 < c.wholeStacks s ↔ (c.spend? s).isSome = true := by
  rw [wholeStacks, Binary64.floorWord_pos_iff, spend?]
  by_cases whole : 1 ≤ c.status s
  · simp [whole]
  · simp [whole]

namespace Game

variable {g : Game}

/-! ### Relics in battle -/

/-- Both sides keep their relics. -/
def KeepsRelics (g : Game) (_ : List BattleEvent) (h : Game) : Prop :=
  ∀ side, (h.combatant side).relics = (g.combatant side).relics

theorem KeepsRelics.of_table {h : Game} {events : List BattleEvent} (same : h.table = g.table) :
    g.KeepsRelics events h :=
  fun side => congrArg Belongings.relics (belongings_of_table same side)

theorem resolveFromDeck_keepsRelics {after : Game} {id : CardId} {events : List BattleEvent}
    (ok : g.resolveFromDeck id = .ok (after, events)) : g.KeepsRelics events after := by
  obtain ⟨card, resolved, told, rest, trashed, -, settled, away, rfl, -⟩ :=
    of_resolveFromDeck_eq_ok ok
  have table : resolved.table = g.table :=
    (resolveCard_table settled).trans (table_updateCombatant rfl)
  have put : rest.relics = (resolved.combatant g.active).relics :=
    Combatant.view_putAway (fun _ _ _ _ _ => rfl) away
  intro side
  exact (view_updateCombatant Combatant.relics put side).trans
    (congrArg Belongings.relics (belongings_of_table table side))

/-- Plays neither give nor take relics, so coins that are fair at the start of a
battle are fair at its end. -/
theorem keepsRelics_law : PlayLaw (fun _ => False) KeepsRelics where
  still _ _ := rfl
  andThen one two side := (two side).trans (one side)
  startTurn ok side := congrArg Belongings.relics (belongings_of_table (table_startTurn ok) side)
  endTurn ok := by
    obtain ⟨-, rfl, -⟩ := of_endTurn_eq_ok ok
    exact fun _ => rfl
  stunned spent := by
    rw [Combatant.of_spend?_eq_some spent]
    exact .of_table (table_updateCombatant (Combatant.belongings_addStatus ..))
  consumeExtraPlay ok := by
    rw [of_consumeExtraPlay_eq_ok ok]
    exact .of_table (table_updateCombatant (Combatant.belongings_addStatus ..))
  resolveFromDeck _ _ _ ok := resolveFromDeck_keepsRelics ok
  exhaust {g} _ _ :=
    view_updateCombatant Combatant.relics (g := { g with phase := .over }) rfl
  decide _ _ := rfl

/-! ### The steps of a play -/

theorem openTurn_isOk (running : g.phase = .active) :
    ∃ opened events, g.openTurn = .ok (opened, events) := by
  unfold openTurn startTurn
  rw [if_pos running]
  dsimp only
  split
  · split
    · exact ⟨_, _, rfl⟩
    · exact ⟨_, _, rfl⟩
  · exact ⟨_, _, rfl⟩

theorem finishTurn_isOk (running : g.phase = .active) (events : List BattleEvent) :
    ∃ outcome, g.finishTurn events = .ok outcome := by
  rw [finishTurn, endTurn, if_pos running]
  exact ⟨_, rfl⟩

/-- A further play is there to be spent exactly when whole stacks of it are
left. -/
theorem consumeExtraPlay_isOk_iff :
    (∃ spent, g.consumeExtraPlay = .ok spent) ↔
      0 < (g.combatant g.active).wholeStacks .extraPlays := by
  rw [Combatant.wholeStacks_pos_iff]
  unfold consumeExtraPlay
  cases (g.combatant g.active).spend? .extraPlays with
  | none => simp
  | some rest => simp

/-- What follows a resolved card is not refused: a further play is only spent
where there is one. -/
theorem afterCard_isOk (running : g.phase = .active) (events : List BattleEvent) :
    ∃ outcome, g.afterCard events = .ok outcome := by
  unfold afterCard
  split
  · exact ⟨_, rfl⟩
  · split
    · rename_i left
      obtain ⟨spent, spends⟩ := consumeExtraPlay_isOk_iff.mpr left
      rw [spends]
      exact ⟨_, rfl⟩
    · exact finishTurn_isOk running events

/-- The card under the cursor is stored, because the deck lists only cards of
the pool. -/
theorem Tidy.card?_current (tidy : g.Tidy) {side : Side} {id : CardId}
    (current : (g.combatant side).currentCard? = some id) :
    ∃ card, g.pool.card? id = some card := by
  have owned := (tidy.held side).owner?_of_mem_deck (List.mem_of_getElem? current)
  obtain ⟨entry, found, -⟩ := Option.map_eq_some_iff.mp owned
  exact ⟨entry.card, by rw [CardPool.card?, found]; rfl⟩

/-- The card under the cursor is found, resolves and is put away. -/
theorem resolveFromDeck_isOk (tidy : g.Tidy) (stored : g.Stocks Card.WritesStored)
    (fair : g.FairCoins) {side : Side} {id : CardId}
    (current : (g.combatant side).currentCard? = some id) :
    ∃ resolved events, g.resolveFromDeck id = .ok (resolved, events) := by
  obtain ⟨card, found⟩ := tidy.card?_current current
  have counted : (g.updateCombatant g.active fun c =>
      { c with cardsPlayedThisTurn := c.cardsPlayedThisTurn + 1 }).FairCoins :=
    fair.of_table (table_updateCombatant rfl)
  obtain ⟨resolved, events, resolves⟩ := resolveCard_isOk (stored id card found) counted
  rw [resolveFromDeck, CardPool.get, found]
  dsimp only
  rw [resolves]
  exact ⟨_, _, rfl⟩

/-- A play in a running battle is carried out, if the cards overwrite only
stored fields and the coins are fair. -/
theorem playCard_isOk (running : g.phase = .active) (tidy : g.Tidy)
    (stored : g.Stocks Card.WritesStored) (fair : g.FairCoins) :
    ∃ outcome, g.playCard = .ok outcome := by
  obtain ⟨opened, opening, opens⟩ := openTurn_isOk running
  have stage := openTurn_stage opens
  have goesOn : opened.phase = .active := (congrArg Stage.phase stage).trans running
  rw [playCard, if_pos running, opens]
  dsimp only
  split
  · exact finishTurn_isOk (g := opened.setCombatant g.active _) goesOn _
  · split
    · exact ⟨_, rfl⟩
    · rename_i id current
      have openedStored : opened.Stocks Card.WritesStored := by
        rw [Stocks, (openTurn_frame opens).1]
        exact stored
      have openedFair := fair.of_relics (keepsRelics_law.openTurn opens)
      obtain ⟨resolved, happened, resolves⟩ :=
        resolveFromDeck_isOk (tidy.openTurn opens) openedStored openedFair current
      have after : resolved.phase = .active :=
        (congrArg Stage.phase (resolveFromDeck_stage resolves)).trans goesOn
      rw [resolves]
      exact afterCard_isOk after _

/-! ### Turns and battles -/

/-- A record of a run with sound cards and fair coins. -/
structure Playable (g : Game) : Prop where
  reached : g.Reachable
  stored : g.Stocks Card.WritesStored
  fair : g.FairCoins

namespace Playable

variable {next : Game}

theorem startBattle {events : List BattleEvent} (playable : g.Playable)
    (ok : g.startBattle = .ok (next, events)) : next.Playable where
  reached := playable.reached.startBattle ok
  stored := by
    rw [Stocks, pool_startBattle ok]
    exact playable.stored
  fair := playable.fair.of_relics fun side =>
    congrArg Belongings.relics (belongings_of_table (of_startBattle_eq_ok ok).2.1 side)

theorem playCard {report : PlayReport} (playable : g.Playable)
    (ok : g.playCard = .ok (next, report)) : next.Playable where
  reached := playable.reached.playCard ok
  stored := by
    rw [Stocks, (playCard_played ok).2.frame.1]
    exact playable.stored
  fair := playable.fair.of_relics (keepsRelics_law.playCard ok (.of_none _ _))

theorem playCard_isOk (playable : g.Playable) (running : g.phase = .active) :
    ∃ next report, g.playCard = .ok (next, report) := by
  obtain ⟨⟨next, report⟩, ok⟩ :=
    Game.playCard_isOk running playable.reached.tidy playable.stored playable.fair
  exact ⟨next, report, ok⟩

end Playable

/-- In a battle that is over no more is played, whatever the number of plays
allowed. -/
theorem runPlays_of_over {next : Game} {plays : Nat} {before events : List BattleEvent}
    (running : g.phase = .active) (ok : runPlays plays g before = .ok (next, events))
    (ended : next.phase = .over) (more : Nat) :
    runPlays (plays + more) g before = .ok (next, events) := by
  induction plays generalizing g before with
  | zero =>
      cases ok
      cases running.symm.trans ended
  | succ plays ih =>
      rw [Nat.succ_add]
      unfold runPlays at ok ⊢
      cases played : g.playCard with
      | error fault =>
          rw [played] at ok
          cases ok
      | ok outcome =>
          obtain ⟨between, report⟩ := outcome
          rw [played] at ok
          dsimp only at ok ⊢
          split at ok
          · rename_i again
            rw [if_pos again]
            exact ih (phase_of_extraPlay played again) ok
          · rename_i last
            rw [if_neg last]
            exact ok

namespace Playable

/-- Plays in a row are carried out up to any number of them, by induction on how
many may still be made. -/
theorem runPlays_isOk (playable : g.Playable) (running : g.phase = .active) (plays : Nat)
    (before : List BattleEvent) : ∃ outcome, runPlays plays g before = .ok outcome := by
  induction plays generalizing g before with
  | zero => exact ⟨_, rfl⟩
  | succ plays ih =>
      obtain ⟨next, report, ok⟩ := playable.playCard_isOk running
      rw [runPlays, ok]
      dsimp only
      split
      · rename_i again
        exact ih (playable.playCard ok) (phase_of_extraPlay ok again) _
      · exact ⟨_, rfl⟩

/-- A whole turn is carried out in a running battle, whatever number of plays
the rules allow. -/
theorem runTurn_isOk (playable : g.Playable) (running : g.phase = .active) :
    ∃ next events, g.runTurn = .ok (next, events) := by
  obtain ⟨⟨next, events⟩, ok⟩ := playable.runPlays_isOk running g.rules.maxPlaysPerTurn []
  exact ⟨next, events, ok⟩

/-- Turns in a row are carried out, and stop early only because the battle is
over. -/
theorem runTurns_isOk (playable : g.Playable) (begun : g.phase ≠ .idle) (turns : Nat) :
    ∃ played, runTurns turns g = .ok played := by
  induction turns generalizing g with
  | zero => exact ⟨_, rfl⟩
  | succ turns ih =>
      unfold runTurns
      split
      · exact ⟨_, rfl⟩
      · rename_i goesOn
        have running : g.phase = .active := by
          revert begun goesOn
          cases g.phase <;> simp
        obtain ⟨next, events, ok⟩ := playable.runTurn_isOk running
        rw [ok]
        have kept := runTurn_preserves (P := fun h => h.Playable ∧ h.phase ≠ .idle)
          (fun before ok => ⟨before.1.playCard ok, phase_playCard_ne_idle ok⟩)
          ⟨playable, begun⟩ ok
        exact ih kept.1 kept.2

/-- Entering a battle leaves one that has begun, whether it was entered now or
before. -/
theorem enterBattle_isOk (playable : g.Playable) :
    ∃ started, g.enterBattle = .ok started ∧ started.Playable ∧ started.phase ≠ .idle := by
  by_cases waiting : g.phase = .idle
  · obtain ⟨started, starts, -⟩ := exists_plays_of_idle waiting (List.forall_mem_nil _)
    refine ⟨started, ?_, playable.startBattle starts, by simp [phase_startBattle starts]⟩
    rw [enterBattle, if_pos waiting, starts]
  · exact ⟨g, if_neg waiting, playable, waiting⟩

theorem runTurns {played : Game} {turns : Nat} (playable : g.Playable)
    (ok : runTurns turns g = .ok played) : played.Playable :=
  runTurns_preserves playCard playable ok

/-- A whole battle is carried out from any playable record, in whatever phase
that is.  It may end undecided, and is then not closed. -/
theorem runBattle_isOk (playable : g.Playable) (maxTurns : Nat) :
    ∃ next result, g.runBattle maxTurns = .ok (next, result) := by
  obtain ⟨started, enters, ready, begun⟩ := playable.enterBattle_isOk
  obtain ⟨played, runs⟩ := ready.runTurns_isOk begun maxTurns
  rw [runBattle, enters]
  dsimp only
  rw [runs]
  dsimp only
  split
  · rename_i ended
    have decided := (ready.runTurns runs).reached.settled ended
    obtain ⟨⟨closed, result⟩, closes⟩ := endBattle_isOk_iff.mpr decided
    rw [closes]
    exact ⟨_, _, rfl⟩
  · exact ⟨_, _, rfl⟩

end Playable

/-- Where all cards overwrite only stored fields and all coins have a chance
that is a number, plays and turns of a running battle and whole battles are
never refused: the card under the cursor is stored, a further play is spent only
where one is left, nothing is played in a battle that is over, and a battle that
is over after its turns has a winner. -/
theorem plays_turns_and_battles_never_refused (reached : g.Reachable)
    (stored : g.Stocks Card.WritesStored) (fair : g.FairCoins) :
    (g.phase = .active →
      (∃ next report, g.playCard = .ok (next, report)) ∧
        ∃ next events, g.runTurn = .ok (next, events)) ∧
    (∀ maxTurns, ∃ next result, g.runBattle maxTurns = .ok (next, result)) ∧
    (∀ side id, (g.combatant side).currentCard? = some id → ∃ card, g.pool.get id = .ok card) ∧
    (∀ h : Game, 0 < (h.combatant h.active).wholeStacks .extraPlays ↔
      ∃ spent, h.consumeExtraPlay = .ok spent) ∧
    (∀ plays more next events, g.phase = .active → runPlays plays g [] = .ok (next, events) →
      next.phase = .over → runPlays (plays + more) g [] = .ok (next, events)) ∧
    ∀ maxTurns started played, g.enterBattle = .ok started →
      Game.runTurns maxTurns started = .ok played → played.phase = .over →
      ∃ winner, played.winner? = some winner := by
  have playable : g.Playable := ⟨reached, stored, fair⟩
  refine ⟨fun running => ⟨playable.playCard_isOk running, playable.runTurn_isOk running⟩,
    playable.runBattle_isOk, ?_, fun h => consumeExtraPlay_isOk_iff.symm, ?_, ?_⟩
  · intro side id current
    obtain ⟨card, found⟩ := reached.tidy.card?_current current
    exact ⟨card, by rw [CardPool.get, found]⟩
  · intro plays more next events running ok ended
    exact runPlays_of_over running ok ended more
  · intro maxTurns started played enters runs ended
    have ready : started.Playable := by
      rcases of_enterBattle_eq_ok enters with ⟨events, starts⟩ | ⟨-, rfl⟩
      · exact playable.startBattle starts
      · exact playable
    exact Option.isSome_iff_exists.mp ((ready.runTurns runs).reached.settled ended)

/-- A card that brings its owner to twelve health. -/
def secondWind : Card := { name := "Second Wind", effects := [.assign .health 12] }

/-- A user with such a card, and with a coin that makes every other hit
critical. -/
def coinToss : Game :=
  [.addCard .user secondWind, .addCard .opponent (.plain "Block"),
    .addRelic .user { kind := .luckyCoin, value := 50 }].foldl after (.fresh .standard 7)

/-- The example is a fair run, with one coin of a real chance and cards that
overwrite stored fields only. -/
theorem coinToss_playable : coinToss.Playable where
  reached := (Reachable.fresh .standard 7).foldl (by simp)
  stored := by
    have none : (Game.fresh .standard 7).Stocks Card.WritesStored := CardPool.All.clear .empty
    have wind : secondWind.WritesStored := by
      rintro field ⟨effect, line, kind⟩
      obtain rfl : effect = .assign .health 12 := List.mem_singleton.mp line
      cases kind
      rfl
    have plain : (Card.plain "Block").WritesStored := by
      rintro field ⟨effect, line, -⟩
      cases line
    exact (none.addCard wind .user).addCard plain .opponent
  fair := by
    intro side
    have numbers : ∀ relic ∈ (coinToss.combatant side).relics, relic.value.isNaN = false := by
      cases side
      · decide +kernel
      · decide +kernel
    exact fun relic mem _ => numbers relic mem

/-- In the example the battle starts, a card is played, and the whole battle can
be run, with a coin that any hit would throw. -/
theorem coinToss_played :
    ∃ started, coinToss.startBattle = .ok (started, [.battleStarted]) ∧
      (∃ next report, started.playCard = .ok (next, report)) ∧
      ∃ next result, coinToss.runBattle 40 = .ok (next, result) := by
  obtain ⟨started, starts, -⟩ :=
    exists_plays_of_idle (g := coinToss) (by decide +kernel) (List.forall_mem_nil _)
  have playable := coinToss_playable.startBattle starts
  obtain ⟨plays, -⟩ :=
    plays_turns_and_battles_never_refused playable.reached playable.stored playable.fair
  obtain ⟨-, battles, -⟩ := plays_turns_and_battles_never_refused coinToss_playable.reached
    coinToss_playable.stored coinToss_playable.fair
  exact ⟨started, starts, (plays (phase_startBattle starts)).1, battles 40⟩

end Game

end CardBattle
