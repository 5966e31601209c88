/-
Module: CardBattle.Proofs.Game.BattleLog
Purpose: What is told in a battle is a sequence of turns, each with the events of one side.
Main exports:
  BattleEvent.DoneBy, TurnSoFar, WholeTurn, WholeTurns, Game.Logged, Game.Played.inTurn,
  Game.Logged.playCard, PlayOutcome.Fits, Game.battle_log_wellFormed
-/
import CardBattle.Proofs.Game.Plays
import CardBattle.Proofs.Resolution.Tally

/-!
# The log of a battle

A battle tells of its start and then of its turns, numbered from zero without gaps.  A turn opens
once, tells of what the side whose turn it is does, and is closed once, by passing or by a stun that
lets it pass; only the turn that is going on, or in which the battle was decided, has no end.

One play adds the opening if the turn has not started, then what the side does, then the end if
the turn passes (`Played.inTurn`).  So the log of a record can be told from its turn and the phase
of its turn (`Logged`), and a play keeps that.
-/

namespace CardBattle

/-! ### Turns in a log -/

/-- What a side does and brings about in its own turn, and what is told of that. -/
def BattleEvent.DoneBy (side : Side) : BattleEvent → Prop
  | .cardPlayed owner _ | .cardTrashed owner _ => owner = side
  | .damage source .. => source = side
  | .heal .. | .miss _ => True
  | _ => False

theorem BattleEvent.ByCard.doneBy {side : Side} {event : BattleEvent} (byCard : event.ByCard side) :
    event.DoneBy side := by
  cases event with
  | damage source target amount => exact byCard
  | heal side amount => trivial
  | miss target => trivial
  | _ => exact byCard.elim

/-- The events of a turn without its end: its number and side, and what the side
did. -/
def TurnSoFar (turn : Nat) (events : List BattleEvent) : Prop :=
  ∃ acts, events = .turnStarted (.forTurn turn) turn :: acts ∧
    ∀ event ∈ acts, event.DoneBy (.forTurn turn)

/-- How the turn of a side ends.  A stun costs the side the rest of its turn. -/
inductive TurnEnding (side : Side) : List BattleEvent → Prop where
  | passed : TurnEnding side [.turnEnded side]
  | stunned : TurnEnding side [.stunned side, .turnEnded side]

/-- The events of a turn from its start to its end. -/
def WholeTurn (turn : Nat) (events : List BattleEvent) : Prop :=
  ∃ soFar ending, TurnSoFar turn soFar ∧ TurnEnding (.forTurn turn) ending ∧
    events = soFar ++ ending

/-- The events of a number of turns, from the first. -/
inductive WholeTurns : Nat → List BattleEvent → Prop where
  | none : WholeTurns 0 []
  | next {turns : Nat} {events told : List BattleEvent} (before : WholeTurns turns events)
      (whole : WholeTurn turns told) : WholeTurns (turns + 1) (events ++ told)

theorem TurnSoFar.append {turn : Nat} {events acts : List BattleEvent}
    (soFar : TurnSoFar turn events)
    (done : ∀ event ∈ acts, event.DoneBy (.forTurn turn)) : TurnSoFar turn (events ++ acts) := by
  obtain ⟨earlier, rfl, before⟩ := soFar
  refine ⟨earlier ++ acts, rfl, fun event mem => ?_⟩
  rcases List.mem_append.mp mem with mem | mem
  · exact before event mem
  · exact done event mem

/-- How the record after a play tells of its outcome. -/
structure PlayOutcome.Fits (outcome : PlayOutcome) (before after : Game) : Prop where
  passed : outcome = .turnEnded ↔ after.turn = before.turn + 1
  waits : outcome = .turnEnded → after.phase = .active ∧ after.turnPhase = .start
  again : outcome = .extraPlay ↔
    after.turn = before.turn ∧ after.phase = .active ∧ after.turnPhase = .playing
  ended : outcome = .battleOver ∨ outcome = .deckExhausted ↔ after.phase = .over

namespace Game

/-- The log of a battle that has got to a record. -/
inductive Logged (g : Game) : List BattleEvent → Prop where
  /-- The turns before the one that comes next are whole. -/
  | between {whole : List BattleEvent} (turns : WholeTurns g.turn whole)
      (running : g.phase = .active) (waits : g.turnPhase = .start) :
      Logged g (.battleStarted :: whole)
  /-- The last turn has no end: it is going on, or the battle was decided in it. -/
  | within {whole last : List BattleEvent} (turns : WholeTurns g.turn whole)
      (begun : TurnSoFar g.turn last) (playing : g.turnPhase = .playing) :
      Logged g (.battleStarted :: whole ++ last)

/-! ### One play -/

/-- What a play tells of the start of the turn. -/
def turnOpening (g : Game) : List BattleEvent :=
  if g.turnPhase = .start then [.turnStarted g.active g.turn] else []

/-- Opening a turn announces it if it has not begun, and may tell of
regeneration. -/
theorem openTurn_told {g opened : Game} {events : List BattleEvent}
    (ok : g.openTurn = .ok (opened, events)) :
    ∃ acts, events = g.turnOpening ++ acts ∧ ∀ event ∈ acts, event.DoneBy g.active := by
  unfold openTurn at ok
  rw [turnOpening]
  split at ok
  · rename_i waits
    obtain ⟨-, c, told, -, rfl, begun⟩ := of_startTurn_eq_ok ok
    rw [if_pos waits]
    refine ⟨told, rfl, ?_⟩
    rcases begun with ⟨-, rfl⟩ | ⟨-, rfl⟩
    · exact nofun
    · simp [BattleEvent.DoneBy]
  · rename_i started
    cases ok
    rw [if_neg started]
    exact ⟨[], rfl, nofun⟩

/-- All that is told of a card is done by the active side: the play, what comes
of it, and where the card goes. -/
theorem resolveFromDeck_told {g after : Game} {id : CardId} {events : List BattleEvent}
    (ok : g.resolveFromDeck id = .ok (after, events)) :
    ∀ event ∈ events, event.DoneBy g.active := by
  obtain ⟨card, resolved, told, rest, trashed, -, settled, -, -, rfl⟩ :=
    of_resolveFromDeck_eq_ok ok
  intro event mem
  rcases List.mem_append.mp mem with mem | mem
  · rcases List.mem_cons.mp mem with rfl | mem
    · rfl
    · exact (resolveCard_byCard settled event mem).doneBy
  · split at mem
    · rw [List.mem_singleton.mp mem]
      rfl
    · cases mem

/-- The start of a turn and a card that resolves in it tell of the turn first
and of what its side does after that. -/
theorem opened_told {g opened resolved : Game} {id : CardId} {opening happened : List BattleEvent}
    (opens : g.openTurn = .ok (opened, opening))
    (resolves : opened.resolveFromDeck id = .ok (resolved, happened)) :
    ∃ acts, opening ++ happened = g.turnOpening ++ acts ∧
      ∀ event ∈ acts, event.DoneBy g.active := by
  obtain ⟨acts, rfl, done⟩ := openTurn_told opens
  have more := resolveFromDeck_told resolves
  rw [(openTurn_frame opens).2] at more
  refine ⟨acts ++ happened, List.append_assoc .., fun event mem => ?_⟩
  rcases List.mem_append.mp mem with mem | mem
  · exact done event mem
  · exact more event mem

/-- A play tells of the start of the turn if it starts it, of what the side
does, and of the end of the turn if it passes. -/
theorem Played.inTurn {g after : Game} {report : PlayReport} (played : g.Played after report) :
    ∃ acts, (∀ event ∈ acts, event.DoneBy g.active) ∧
      (report.outcome ≠ .turnEnded ∧ report.events = g.turnOpening ++ acts ∨
        report.outcome = .turnEnded ∧ ∃ ending, TurnEnding g.active ending ∧
          report.events = g.turnOpening ++ acts ++ ending) := by
  cases played with
  | @stunned opened _ _ _ rest opens _ ends =>
      obtain ⟨acts, rfl, done⟩ := openTurn_told opens
      obtain ⟨-, -, rfl⟩ := of_endTurn_eq_ok ends
      have active : (opened.setCombatant g.active rest).active = g.active :=
        (openTurn_frame opens).2
      rw [active]
      exact ⟨acts, done, .inr ⟨rfl, _, .stunned, List.append_assoc ..⟩⟩
  | exhausted opens =>
      obtain ⟨acts, rfl, done⟩ := openTurn_told opens
      refine ⟨acts ++ [_], fun event mem => ?_, .inl ⟨nofun, List.append_assoc ..⟩⟩
      rcases List.mem_append.mp mem with mem | mem
      · exact done event mem
      · rw [List.mem_singleton.mp mem]
        exact (openTurn_frame opens).2
  | decided opens _ _ resolves =>
      obtain ⟨acts, told, done⟩ := opened_told opens resolves
      exact ⟨acts, done, .inl ⟨nofun, told⟩⟩
  | again opens _ _ resolves =>
      obtain ⟨acts, told, done⟩ := opened_told opens resolves
      exact ⟨acts, done, .inl ⟨nofun, told⟩⟩
  | passed opens _ _ resolves _ _ ends =>
      obtain ⟨acts, told, done⟩ := opened_told opens resolves
      obtain ⟨-, -, rfl⟩ := of_endTurn_eq_ok ends
      refine ⟨acts, done, .inr ⟨rfl, _, .passed, ?_⟩⟩
      rw [told, (resolveFromDeck_frame resolves).2, (openTurn_frame opens).2]

/-- The record after a play is one that its outcome tells of: the turn has
passed, goes on, or the battle is over. -/
theorem Played.fits {g after : Game} {report : PlayReport} (running : g.phase = .active)
    (played : g.Played after report) : report.outcome.Fits g after := by
  rcases played.stage_eq with ⟨-, stage, outcome⟩ | ⟨stage, outcome⟩ | ⟨stage, outcome⟩
  · have turn : after.turn = g.turn := congrArg Stage.turn stage
    have phase : after.phase = .over := congrArg Stage.phase stage
    rcases outcome with outcome | outcome
    · constructor <;> simp [outcome, turn, phase]
    · constructor <;> simp [outcome, turn, phase]
  · have turn : after.turn = g.turn := congrArg Stage.turn stage
    have phase : after.phase = .active := (congrArg Stage.phase stage).trans running
    have turnPhase : after.turnPhase = .playing := congrArg Stage.turnPhase stage
    constructor <;> simp [outcome, turn, phase, turnPhase]
  · have turn : after.turn = g.turn + 1 := congrArg Stage.turn stage
    have phase : after.phase = .active := (congrArg Stage.phase stage).trans running
    have turnPhase : after.turnPhase = .start := congrArg Stage.turnPhase stage
    constructor <;> simp [outcome, turn, phase, turnPhase]

/-- No play lets the counter of turns and the side whose turn it is come apart,
since both are set together. -/
theorem Played.active_eq {g after : Game} {report : PlayReport}
    (parity : g.active = .forTurn g.turn) (played : g.Played after report) :
    after.active = .forTurn after.turn := by
  rcases played.stage_eq with ⟨-, stage, -⟩ | ⟨stage, -⟩ | ⟨stage, -⟩
  · have turn : after.turn = g.turn := congrArg Stage.turn stage
    rw [turn, ← parity]
    exact congrArg Stage.active stage
  · have turn : after.turn = g.turn := congrArg Stage.turn stage
    rw [turn, ← parity]
    exact congrArg Stage.active stage
  · have turn : after.turn = g.turn + 1 := congrArg Stage.turn stage
    rw [turn]
    exact congrArg Stage.active stage

/-! ### Plays in a row -/

namespace Logged

variable {g next : Game} {log : List BattleEvent} {report : PlayReport}

/-- With the opening of a play, the last turn of the log is one that is going
on. -/
theorem opened (logged : g.Logged log) (parity : g.active = .forTurn g.turn) :
    ∃ whole last, log ++ g.turnOpening = .battleStarted :: whole ++ last ∧
      WholeTurns g.turn whole ∧ TurnSoFar g.turn last := by
  cases logged with
  | @between whole turns _ waits =>
      rw [turnOpening, if_pos waits, parity]
      exact ⟨whole, _, rfl, turns, [], rfl, nofun⟩
  | @within whole last turns begun playing =>
      have started : g.turnPhase ≠ .start := by simp [playing]
      rw [turnOpening, if_neg started, List.append_nil]
      exact ⟨whole, last, rfl, turns, begun⟩

/-- A play takes the log on from one well-formed stage to the next.  This is the
step of the induction over a battle. -/
theorem playCard (logged : g.Logged log) (parity : g.active = .forTurn g.turn)
    (ok : g.playCard = .ok (next, report)) : next.Logged (log ++ report.events) := by
  obtain ⟨running, played⟩ := playCard_played ok
  obtain ⟨whole, last, opened, turns, begun⟩ := logged.opened parity
  obtain ⟨acts, done, told⟩ := played.inTurn
  rw [parity] at done
  have soFar := begun.append done
  rcases told with ⟨goesOn, told⟩ | ⟨passes, ending, ends, told⟩
  · -- The turn stays the last one, whether the side plays again or the battle is decided.
    obtain ⟨turn, playing⟩ : next.turn = g.turn ∧ next.turnPhase = .playing := by
      rcases played.stage_eq with ⟨-, stage, -⟩ | ⟨stage, -⟩ | ⟨-, outcome⟩
      · exact ⟨congrArg Stage.turn stage, congrArg Stage.turnPhase stage⟩
      · exact ⟨congrArg Stage.turn stage, congrArg Stage.turnPhase stage⟩
      · exact absurd outcome goesOn
    rw [told, ← List.append_assoc, opened, List.append_assoc]
    rw [← turn] at turns soFar
    exact .within turns soFar playing
  · have fits := played.fits running
    have turn := fits.passed.mp passes
    obtain ⟨phase, waits⟩ := fits.waits passes
    rw [parity] at ends
    have moreTurns := turns.next ⟨_, _, soFar, ends, rfl⟩
    rw [← turn] at moreTurns
    have split : log ++ report.events =
        .battleStarted :: (whole ++ (last ++ acts ++ ending)) := by
      rw [told, ← List.append_assoc, ← List.append_assoc, opened]
      simp
    rw [split]
    exact .between moreTurns phase waits

end Logged

/-- A battle that has just begun has no turns behind it, and the user's turn
comes next. -/
theorem logged_startBattle {g started : Game} {events : List BattleEvent}
    (ok : g.startBattle = .ok (started, events)) :
    started.Logged [.battleStarted] ∧ started.active = .forTurn started.turn := by
  have stage := congrArg Standing.stage (standing_startBattle ok)
  have turn : started.turn = 0 := congrArg Stage.turn stage
  have active : started.active = .user := congrArg Stage.active stage
  constructor
  · refine .between ?_ (congrArg Stage.phase stage) (congrArg Stage.turnPhase stage)
    rw [turn]
    exact .none
  · rw [turn, active]
    rfl

/-- Plays in a row leave a well-formed log, by induction on how many there were. -/
theorem Plays.logged {started g : Game} {told before : List BattleEvent}
    (plays : started.Plays told g) (logged : started.Logged before)
    (parity : started.active = .forTurn started.turn) :
    g.Logged (before ++ told) ∧ g.active = .forTurn g.turn := by
  induction plays with
  | none =>
      rw [List.append_nil]
      exact ⟨logged, parity⟩
  | play _ ok ih =>
      rw [← List.append_assoc]
      exact ⟨ih.1.playCard ih.2 ok, (playCard_played ok).2.active_eq ih.2⟩

/-- Between battles one can be started, and however many cards are then played,
the log is made of whole turns, numbered from zero, and at most one turn without
an end; a battle that is over stands in that one.  The side whose turn it is
goes by the number of the turn, and each play leaves a record that its outcome
tells of. -/
theorem battle_log_wellFormed {g : Game} (waiting : g.phase = .idle) :
    ∃ started, g.startBattle = .ok (started, [.battleStarted]) ∧
      ∀ told h, started.Plays told h →
        h.Logged (.battleStarted :: told) ∧ h.active = .forTurn h.turn ∧
        ∀ next report, h.playCard = .ok (next, report) →
          next.Logged (.battleStarted :: told ++ report.events) ∧
          next.active = .forTurn next.turn ∧ report.outcome.Fits h next := by
  obtain ⟨started, starts, -⟩ := exists_plays_of_idle waiting (List.forall_mem_nil _)
  refine ⟨started, starts, fun told h plays => ?_⟩
  obtain ⟨logged, parity⟩ := logged_startBattle starts
  obtain ⟨now, turn⟩ := plays.logged logged parity
  refine ⟨now, turn, fun next report ok => ?_⟩
  obtain ⟨running, played⟩ := playCard_played ok
  exact ⟨now.playCard turn ok, played.active_eq turn, played.fits running⟩

/-- A card that lets its owner play again, but stuns it. -/
def headlong : Card :=
  { name := "Headlong", effects := [.giveStatus .extraPlays 1, .giveStatus .stun 1] }

/-- A user that plays such a card stumbles over it in the same turn. -/
def stumble : Game :=
  [.addCard .user headlong, .addCard .opponent { name := "Block", effects := [] }].foldl after
    (.fresh .standard 7)

/-- In the example the user plays once more, is stunned by its own card, and
loses the rest of its turn. -/
theorem stumble_logged :
    ∃ started h : Game, stumble.startBattle = .ok (started, [.battleStarted]) ∧ h.turn = 1 ∧
      h.Logged [.battleStarted, .turnStarted .user 0, .cardPlayed .user ⟨0⟩, .stunned .user,
        .turnEnded .user] := by
  obtain ⟨started, starts, logs⟩ := battle_log_wellFormed (g := stumble) (by decide +kernel)
  have start : stumble.perform .startBattle = .ok (started, .happened [.battleStarted]) := by
    rw [perform, starts]
    rfl
  have told : (stumble.after .startBattle).history [.playCard, .playCard] =
      [.turnStarted .user 0, .cardPlayed .user ⟨0⟩, .stunned .user, .turnEnded .user] := by
    decide +kernel
  have turn : (([.playCard, .playCard] : List Action).foldl after
      (stumble.after .startBattle)).turn = 1 := by
    decide +kernel
  rw [after_of_perform start] at told turn
  have plays : started.Plays (started.history [.playCard, .playCard]) _ :=
    .of_history (by decide)
  rw [told] at plays
  exact ⟨started, _, starts, turn, (logs _ _ plays).1⟩

end Game

end CardBattle
