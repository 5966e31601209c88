/-
Module: CardBattle.Proofs.Game.Turns
Purpose: What a turn's steps come down to when they are not refused.
Main exports:
  Combatant.view_putAway, Game.of_startTurn_eq_ok, Game.of_resolveFromDeck_eq_ok, Game.Played,
  Game.playCard_played, Game.runPlays_induction, Game.runTurns_preserves, Game.of_runBattle_eq_ok
-/
import CardBattle.Game.Turn
import CardBattle.Proofs.Resolution.Changes

/-!
# Turns taken apart

`Played` lists the five ways in which playing a card can end, each with the steps before it, so a
law about plays is one case for each.  Whole turns and battles only repeat plays.
-/

namespace CardBattle

namespace Combatant

theorem belongings_regenerate (c : Combatant) : c.regenerate.belongings = c.belongings :=
  belongings_addStatus ..

/-- A side gains as much health as it has whole stacks of regeneration at that
moment. -/
theorem health_regenerate (c : Combatant) :
    c.regenerate.health = c.health + c.wholeStacks .regen :=
  health_setStatus ..

/-- Putting a card away can be seen only in the piles, at the cursor and in the
card played before. -/
theorem view_putAway {α : Type} {view : Combatant → α}
    (blind : ∀ (c : Combatant) deck trashed cursor previous,
      view { c with deck := deck, trashed := trashed, cursor := cursor, previousCard := previous } =
        view c)
    {c rest : Combatant} {previous : Option CardId} {id : CardId} {trash trashed : Bool}
    (away : { c with previousCard := previous }.putAway id trash = (rest, trashed)) :
    view rest = view c := by
  unfold putAway at away
  split at away
  · cases away
    exact blind c _ _ _ _
  · cases away
    exact blind c _ _ _ _

end Combatant

namespace Game

/-! ### How a battle starts -/

/-- Relics that act at the start of a battle only move a counter, and counters
are not on the table. -/
theorem table_openWounds (g : Game) (side : Side) : (g.openWounds side).table = g.table := by
  unfold openWounds
  dsimp only
  split
  · exact table_updateCombatant (Combatant.belongings_addStatus ..)
  · rfl

/-- What has to hold for a battle to begin, and what comes of it. -/
theorem of_startBattle_eq_ok {g after : Game} {events : List BattleEvent}
    (ok : g.startBattle = .ok (after, events)) :
    g.phase = .idle ∧
      after.table = ({ g with phase := .active, turnPhase := .start }.setTurn 0).table ∧
      events = [.battleStarted] := by
  unfold startBattle at ok
  split at ok
  · rename_i waiting
    cases ok
    exact ⟨waiting, (table_openWounds ..).trans (table_openWounds ..), rfl⟩
  · cases ok

/-! ### How a turn starts and ends -/

/-- What has to hold for a turn to start, and what comes of it: one combatant is
replaced, with its belongings as they were. -/
theorem of_startTurn_eq_ok {g after : Game} {events : List BattleEvent}
    (ok : g.startTurn = .ok (after, events)) :
    g.phase = .active ∧ ∃ c told,
      after = { g with turnPhase := .playing }.setCombatant g.active c ∧
      events = .turnStarted g.active g.turn :: told ∧
      (c = (g.combatant g.active).beginTurn ∧ told = [] ∨
        c = (g.combatant g.active).beginTurn.regenerate ∧
          told = [.heal g.active ((g.combatant g.active).beginTurn.wholeStacks .regen)]) := by
  unfold startTurn at ok
  split at ok
  · rename_i running
    refine ⟨running, ?_⟩
    dsimp only at ok
    split at ok
    · cases ok
      exact ⟨_, _, rfl, rfl, .inr ⟨rfl, rfl⟩⟩
    · cases ok
      exact ⟨_, _, rfl, rfl, .inl ⟨rfl, rfl⟩⟩
  · cases ok

/-- A turn that starts leaves the table alone, but for its phase, which says
that cards can be played now. -/
theorem table_startTurn {g after : Game} {events : List BattleEvent}
    (ok : g.startTurn = .ok (after, events)) :
    after.table = { g with turnPhase := .playing }.table := by
  obtain ⟨-, c, told, rfl, -, begun⟩ := of_startTurn_eq_ok ok
  refine table_updateCombatant (g := { g with turnPhase := .playing }) ?_
  rcases begun with ⟨rfl, -⟩ | ⟨rfl, -⟩
  · rfl
  · exact Combatant.belongings_regenerate _

/-- What has to hold for a turn to end, and what comes of it: the counter of
turns goes up, and with it the other side is active. -/
theorem of_endTurn_eq_ok {g after : Game} {events : List BattleEvent}
    (ok : g.endTurn = .ok (after, events)) :
    g.phase = .active ∧ after = { g with turnPhase := .start }.setTurn (g.turn + 1) ∧
      events = [.turnEnded g.active] := by
  unfold endTurn at ok
  split at ok
  · rename_i running
    cases ok
    exact ⟨running, rfl, rfl⟩
  · cases ok

/-- Opening a turn starts it or does nothing. -/
theorem of_openTurn_eq_ok {g after : Game} {events : List BattleEvent}
    (ok : g.openTurn = .ok (after, events)) :
    g.startTurn = .ok (after, events) ∨ after = g ∧ events = [] := by
  unfold openTurn at ok
  split at ok
  · exact .inl ok
  · cases ok
    exact .inr ⟨rfl, rfl⟩

theorem of_consumeExtraPlay_eq_ok {g after : Game} (ok : g.consumeExtraPlay = .ok after) :
    after = g.setCombatant g.active ((g.combatant g.active).addStatus .extraPlays (-1)) := by
  unfold consumeExtraPlay at ok
  split at ok
  · rename_i spent
    cases ok
    rw [Combatant.of_spend?_eq_some spent]
  · cases ok

/-! ### Playing a card -/

/-- A card from the deck resolves after it is counted, and is put away
afterwards. -/
theorem of_resolveFromDeck_eq_ok {g after : Game} {id : CardId} {happened : List BattleEvent}
    (ok : g.resolveFromDeck id = .ok (after, happened)) :
    ∃ card resolved told rest trashed, g.pool.card? id = some card ∧
      (g.updateCombatant g.active fun c =>
        { c with cardsPlayedThisTurn := c.cardsPlayedThisTurn + 1 }).resolveCard card =
          .ok (resolved, told) ∧
      { resolved.combatant g.active with previousCard := some id }.putAway id card.trashOnPlay =
        (rest, trashed) ∧
      after = resolved.setCombatant g.active rest ∧
      happened = .cardPlayed g.active id :: told ++
        if trashed then [.cardTrashed g.active id] else [] := by
  unfold resolveFromDeck CardPool.get at ok
  cases found : g.pool.card? id with
  | none => simp [found] at ok
  | some card =>
      simp only [found] at ok
      split at ok
      · cases ok
      · rename_i resolved told settled
        cases ok
        exact ⟨card, resolved, told, _, _, rfl, settled, rfl, rfl, rfl⟩

/-- How playing a card went. -/
inductive Played (g : Game) : Game → PlayReport → Prop where
  /-- The active side was stunned and lost its play. -/
  | stunned {opened ended : Game} {opening last : List BattleEvent} {rest : Combatant}
      (opens : g.openTurn = .ok (opened, opening))
      (spent : (opened.combatant g.active).spend? .stun = some rest)
      (ends : (opened.setCombatant g.active rest).endTurn = .ok (ended, last)) :
      Played g ended ⟨.turnEnded, opening ++ [.stunned g.active] ++ last⟩
  /-- The active side had no card to play. -/
  | exhausted {opened : Game} {opening : List BattleEvent}
      (opens : g.openTurn = .ok (opened, opening))
      (awake : (opened.combatant g.active).spend? .stun = none)
      (bare : (opened.combatant g.active).currentCard? = none) :
      Played g (opened.exhaust opening).1 (opened.exhaust opening).2
  /-- A card resolved, and a side has no health left. -/
  | decided {opened resolved : Game} {opening happened : List BattleEvent} {id : CardId}
      (opens : g.openTurn = .ok (opened, opening))
      (awake : (opened.combatant g.active).spend? .stun = none)
      (current : (opened.combatant g.active).currentCard? = some id)
      (resolves : opened.resolveFromDeck id = .ok (resolved, happened))
      (lost : resolved.isBattleOver = true) :
      Played g { resolved with phase := .over } ⟨.battleOver, opening ++ happened⟩
  /-- A card resolved, and the active side plays again. -/
  | again {opened resolved spent : Game} {opening happened : List BattleEvent} {id : CardId}
      (opens : g.openTurn = .ok (opened, opening))
      (awake : (opened.combatant g.active).spend? .stun = none)
      (current : (opened.combatant g.active).currentCard? = some id)
      (resolves : opened.resolveFromDeck id = .ok (resolved, happened))
      (goesOn : resolved.isBattleOver = false)
      (left : 0 < (resolved.combatant resolved.active).wholeStacks .extraPlays)
      (spends : resolved.consumeExtraPlay = .ok spent) :
      Played g spent ⟨.extraPlay, opening ++ happened⟩
  /-- A card resolved, and the turn passed. -/
  | passed {opened resolved ended : Game} {opening happened last : List BattleEvent} {id : CardId}
      (opens : g.openTurn = .ok (opened, opening))
      (awake : (opened.combatant g.active).spend? .stun = none)
      (current : (opened.combatant g.active).currentCard? = some id)
      (resolves : opened.resolveFromDeck id = .ok (resolved, happened))
      (goesOn : resolved.isBattleOver = false)
      (none : ¬ 0 < (resolved.combatant resolved.active).wholeStacks .extraPlays)
      (ends : resolved.endTurn = .ok (ended, last)) :
      Played g ended ⟨.turnEnded, opening ++ happened ++ last⟩

/-- Opening a turn changes neither cards nor whose turn it is, so the card that
is played belongs to the same side. -/
theorem openTurn_frame {g after : Game} {events : List BattleEvent}
    (ok : g.openTurn = .ok (after, events)) : after.pool = g.pool ∧ after.active = g.active := by
  rcases of_openTurn_eq_ok ok with starts | ⟨rfl, -⟩
  · obtain ⟨-, c, told, rfl, -, -⟩ := of_startTurn_eq_ok starts
    exact ⟨rfl, rfl⟩
  · exact ⟨rfl, rfl⟩

theorem resolveFromDeck_frame {g after : Game} {id : CardId} {events : List BattleEvent}
    (ok : g.resolveFromDeck id = .ok (after, events)) :
    after.pool = g.pool ∧ after.active = g.active := by
  obtain ⟨card, resolved, told, rest, trashed, -, settled, -, rfl, -⟩ :=
    of_resolveFromDeck_eq_ok ok
  have same := resolveCard_table settled
  exact ⟨congrArg Table.pool same, congrArg Table.active same⟩

/-- A play changes no card and no link, and the side that plays again is the
same. -/
theorem Played.frame {g after : Game} {report : PlayReport} (played : g.Played after report) :
    after.pool = g.pool ∧ (report.outcome = .extraPlay → after.active = g.active) := by
  cases played with
  | stunned opens _ ends =>
      obtain ⟨-, rfl, -⟩ := of_endTurn_eq_ok ends
      exact ⟨(openTurn_frame opens).1, nofun⟩
  | exhausted opens => exact ⟨(openTurn_frame opens).1, nofun⟩
  | decided opens _ _ resolves =>
      exact ⟨(resolveFromDeck_frame resolves).1.trans (openTurn_frame opens).1, nofun⟩
  | again opens _ _ resolves _ _ spends =>
      obtain ⟨pool, active⟩ := resolveFromDeck_frame resolves
      obtain ⟨samePool, sameActive⟩ := openTurn_frame opens
      rw [of_consumeExtraPlay_eq_ok spends]
      exact ⟨pool.trans samePool, fun _ => active.trans sameActive⟩
  | passed opens _ _ resolves _ _ ends =>
      obtain ⟨-, rfl, -⟩ := of_endTurn_eq_ok ends
      exact ⟨(resolveFromDeck_frame resolves).1.trans (openTurn_frame opens).1, nofun⟩

/-- Ending the turn after a play puts the last event behind what the play has
told. -/
theorem of_finishTurn_eq_ok {g after : Game} {events : List BattleEvent} {report : PlayReport}
    (ok : g.finishTurn events = .ok (after, report)) :
    ∃ last, g.endTurn = .ok (after, last) ∧ report = ⟨.turnEnded, events ++ last⟩ := by
  unfold finishTurn at ok
  split at ok
  · rename_i ends
    cases ok
    exact ⟨_, ends, rfl⟩
  · cases ok

/-- Playing a card goes in one of the five ways.  Laws about plays are shown for
these and never for the code of a play itself. -/
theorem playCard_played {g after : Game} {report : PlayReport}
    (ok : g.playCard = .ok (after, report)) : g.phase = .active ∧ g.Played after report := by
  unfold playCard at ok
  split at ok
  · rename_i running
    refine ⟨running, ?_⟩
    split at ok
    · cases ok
    · rename_i opened opening opens
      split at ok
      · rename_i rest spent
        obtain ⟨last, ends, rfl⟩ := of_finishTurn_eq_ok ok
        exact .stunned opens spent ends
      · rename_i awake
        split at ok
        · rename_i bare
          cases ok
          exact .exhausted opens awake bare
        · rename_i id current
          split at ok
          · cases ok
          · rename_i resolved happened resolves
            unfold afterCard at ok
            split at ok
            · rename_i lost
              cases ok
              exact .decided opens awake current resolves lost
            · rename_i goesOn
              rw [Bool.not_eq_true] at goesOn
              split at ok
              · rename_i left
                split at ok
                · rename_i spent spends
                  cases ok
                  exact .again opens awake current resolves goesOn left spends
                · cases ok
              · rename_i none
                obtain ⟨last, ends, rfl⟩ := of_finishTurn_eq_ok ok
                exact .passed opens awake current resolves goesOn none ends
  · cases ok

/-! ### Whole turns and battles -/

/-- A run of plays stops at once, ends with a play that is not followed by
another of the same side, or goes on after one that is. -/
theorem runPlays_induction {R : Game → List BattleEvent → Game → Prop}
    (stop : ∀ g, R g [] g)
    (last : ∀ {g after : Game} {report : PlayReport}, g.playCard = .ok (after, report) →
      report.outcome ≠ .extraPlay → R g report.events after)
    (again : ∀ {g between after : Game} {report : PlayReport} {told : List BattleEvent},
      g.playCard = .ok (between, report) →
      report.outcome = .extraPlay → R between told after → R g (report.events ++ told) after)
    {plays : Nat} {g after : Game} {before events : List BattleEvent}
    (ok : runPlays plays g before = .ok (after, events)) :
    ∃ told, events = before ++ told ∧ R g told after := by
  induction plays generalizing g before with
  | zero =>
      cases ok
      exact ⟨[], (List.append_nil _).symm, stop _⟩
  | succ plays ih =>
      unfold runPlays at ok
      split at ok
      · cases ok
      · rename_i between report played
        split at ok
        · rename_i more
          obtain ⟨told, rfl, rest⟩ := ih ok
          exact ⟨report.events ++ told, List.append_assoc .., again played more rest⟩
        · rename_i done
          cases ok
          exact ⟨report.events, rfl, last played done⟩

theorem runTurn_preserves {P : Game → Prop}
    (play : ∀ {g after : Game} {report : PlayReport},
      P g → g.playCard = .ok (after, report) → P after)
    {g after : Game} {events : List BattleEvent} (start : P g)
    (ok : g.runTurn = .ok (after, events)) : P after := by
  have kept := runPlays_induction (R := fun g _ after => P g → P after)
    (fun _ start => start) (fun played _ start => play start played)
    (fun played _ rest start => rest (play start played)) ok
  obtain ⟨_, -, kept⟩ := kept
  exact kept start

theorem runTurns_preserves {P : Game → Prop}
    (play : ∀ {g after : Game} {report : PlayReport},
      P g → g.playCard = .ok (after, report) → P after)
    {turns : Nat} {g after : Game} (start : P g) (ok : runTurns turns g = .ok after) :
    P after := by
  induction turns generalizing g with
  | zero =>
      cases ok
      exact start
  | succ turns ih =>
      unfold runTurns at ok
      split at ok
      · cases ok
        exact start
      · split at ok
        · cases ok
        · rename_i turned
          exact ih (runTurn_preserves play start turned) ok

theorem of_enterBattle_eq_ok {g started : Game} (ok : g.enterBattle = .ok started) :
    (∃ events, g.startBattle = .ok (started, events)) ∨ g.phase ≠ .idle ∧ started = g := by
  unfold enterBattle at ok
  split at ok
  · split at ok
    · rename_i starts
      cases ok
      exact .inl ⟨_, starts⟩
    · cases ok
  · rename_i running
    cases ok
    exact .inr ⟨running, rfl⟩

/-- A battle run as a whole is a start if need be, some turns, and a close if it
is decided. -/
theorem of_runBattle_eq_ok {g after : Game} {maxTurns : Nat} {result : Option BattleResult}
    (ok : g.runBattle maxTurns = .ok (after, result)) :
    ∃ started played, g.enterBattle = .ok started ∧ runTurns maxTurns started = .ok played ∧
      (played.phase = .over ∧ (∃ closed, played.endBattle = .ok (after, closed)) ∨
        played.phase ≠ .over ∧ after = played) := by
  unfold runBattle at ok
  split at ok
  · cases ok
  · rename_i started enters
    split at ok
    · cases ok
    · rename_i played runs
      refine ⟨started, played, enters, runs, ?_⟩
      split at ok
      · rename_i ended
        split at ok
        · rename_i closes
          cases ok
          exact .inl ⟨ended, _, closes⟩
        · cases ok
      · rename_i goesOn
        cases ok
        exact .inr ⟨goesOn, rfl⟩

/-- What the beginning, each play and the closing preserve a whole battle
preserves. -/
theorem runBattle_preserves {P : Game → Prop}
    (enter : ∀ {g after : Game} {events : List BattleEvent},
      P g → g.startBattle = .ok (after, events) → P after)
    (play : ∀ {g after : Game} {report : PlayReport},
      P g → g.playCard = .ok (after, report) → P after)
    (close : ∀ {g after : Game} {result : BattleResult},
      P g → g.endBattle = .ok (after, result) → P after)
    {maxTurns : Nat} {g after : Game} {result : Option BattleResult} (start : P g)
    (ok : g.runBattle maxTurns = .ok (after, result)) : P after := by
  obtain ⟨started, played, enters, runs, last⟩ := of_runBattle_eq_ok ok
  have begun : P started := by
    rcases of_enterBattle_eq_ok enters with ⟨events, starts⟩ | ⟨-, rfl⟩
    · exact enter start starts
    · exact start
  have kept := runTurns_preserves play begun runs
  rcases last with ⟨-, closed, closes⟩ | ⟨-, rfl⟩
  · exact close kept closes
  · exact kept

end Game

end CardBattle
