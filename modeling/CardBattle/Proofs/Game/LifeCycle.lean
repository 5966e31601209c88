/-
Module: CardBattle.Proofs.Game.LifeCycle
Purpose: Every battle of a run is decided before it is closed, and counted once.
Main exports:
  Game.begunBy, Game.Begins, Game.fought, Game.fought_perform,
  Game.battles_have_winners_and_count_once
-/
import CardBattle.Proofs.Game.Fitness

/-!
# The life of a battle

A battle that has begun is going on until it is closed, and closing it adds it to the score.  In a
fair run only battles that are over are closed, so the battles begun are those won, those lost and
the one going on.
-/

namespace CardBattle.Game

/-! ### Battles begun -/

/-- Battles that a request begins: one if it starts a battle, by itself or to
run it as a whole, and none if it is refused. -/
def begunBy (g : Game) (action : Action) : Nat :=
  match action, g.perform action with
  | .startBattle, .ok _ => 1
  | .runBattle _, .ok _ => if g.phase = .idle then 1 else 0
  | _, _ => 0

/-- The records of lawful and fair runs that neither go back nor start anew,
each with the number of battles begun on the way. -/
inductive Begins (lawful : Rules → Prop) (fair : Action → Prop) : Nat → Game → Prop where
  | fresh {rules : Rules} (allowed : lawful rules) (seed : UInt64) :
      Begins lawful fair 0 (.fresh rules seed)
  | step {count : Nat} {g : Game} (before : Begins lawful fair count g) (action : Action)
      (allowed : ∀ outcome, g.perform action = .ok outcome → fair action)
      (anew : action ≠ .resetRun) (back : ∀ snapshot, action ≠ .rewind snapshot) :
      Begins lawful fair (count + g.begunBy action) (g.after action)

/-- Counting the battles on the way does not change which records a run comes
to. -/
theorem Begins.reachableBy {lawful : Rules → Prop} {fair : Action → Prop} {count : Nat} {g : Game}
    (begins : Begins lawful fair count g) : g.ReachableBy lawful fair := by
  induction begins with
  | fresh allowed seed => exact .fresh allowed seed
  | step before action allowed anew back reached =>
      exact reached.step action allowed fun snapshot same => absurd same (back snapshot)

/-- Battles won and lost, and the one that is going on. -/
def fought (g : Game) : Nat := g.wins + g.losses + if g.phase = .idle then 0 else 1

theorem fought_of_stage {g h : Game} (same : h.stage = g.stage) : h.fought = g.fought := by
  have wins : h.wins = g.wins := congrArg Stage.wins same
  have losses : h.losses = g.losses := congrArg Stage.losses same
  have phase : h.phase = g.phase := congrArg Stage.phase same
  rw [fought, wins, losses, phase, fought]

theorem fought_of_standing {g h : Game} (same : h.standing = g.standing) : h.fought = g.fought :=
  fought_of_stage (stage_of_standing same)

/-- A battle counts from when it begins. -/
theorem fought_startBattle {g next : Game} {events : List BattleEvent}
    (ok : g.startBattle = .ok (next, events)) : next.fought = g.fought + 1 := by
  have waiting := (of_startBattle_eq_ok ok).1
  have stage := congrArg Standing.stage (standing_startBattle ok)
  have wins : next.wins = g.wins := congrArg Stage.wins stage
  have losses : next.losses = g.losses := congrArg Stage.losses stage
  simp [fought, wins, losses, phase_startBattle ok, waiting]

/-- Closing a battle that is over moves it to the score, where it counts the
same. -/
theorem fought_endBattle {g next : Game} {result : BattleResult} (ended : g.phase = .over)
    (ok : g.endBattle = .ok (next, result)) : next.fought = g.fought := by
  obtain ⟨-, -, stage, score, -⟩ := of_endBattle_eq_ok ok
  have wins : next.wins = result.wins := congrArg Stage.wins stage
  have losses : next.losses = result.losses := congrArg Stage.losses stage
  have phase : next.phase = .idle := congrArg Stage.phase stage
  simp [fought, wins, losses, phase, ended, score]

/-- Steps of a battle that is going on leave the score, and do not bring the
battle to an end without it being closed. -/
theorem fought_of_running {g next : Game} (wins : next.wins = g.wins)
    (losses : next.losses = g.losses) (running : g.phase ≠ .idle) (still : next.phase ≠ .idle) :
    next.fought = g.fought := by
  simp [fought, wins, losses, running, still]

theorem fought_startTurn {g next : Game} {events : List BattleEvent}
    (ok : g.startTurn = .ok (next, events)) : next.fought = g.fought := by
  obtain ⟨running, stage, -⟩ := startTurn_standing ok
  exact fought_of_running (congrArg Stage.wins stage) (congrArg Stage.losses stage)
    (by simp [running]) (by simp [phase_startTurn ok])

theorem fought_endTurn {g next : Game} {events : List BattleEvent}
    (ok : g.endTurn = .ok (next, events)) : next.fought = g.fought := by
  obtain ⟨running, rfl, -⟩ := of_endTurn_eq_ok ok
  exact fought_of_running rfl rfl (by simp [running]) (by simp [setTurn, running])

/-- A play may decide the battle, which then waits to be closed and is still
counted once. -/
theorem fought_playCard {g next : Game} {report : PlayReport}
    (ok : g.playCard = .ok (next, report)) : next.fought = g.fought := by
  obtain ⟨running, played⟩ := playCard_played ok
  have score : next.wins = g.wins ∧ next.losses = g.losses := by
    rcases played.stage_eq with ⟨-, stage, -⟩ | ⟨stage, -⟩ | ⟨stage, -⟩
    · exact ⟨congrArg Stage.wins stage, congrArg Stage.losses stage⟩
    · exact ⟨congrArg Stage.wins stage, congrArg Stage.losses stage⟩
    · exact ⟨congrArg Stage.wins stage, congrArg Stage.losses stage⟩
  exact fought_of_running score.1 score.2 (by simp [running]) (phase_playCard_ne_idle ok)

/-- A whole battle adds one if it begins one, and none if it goes on with the
one before.  Closing it adds nothing. -/
theorem fought_runBattle {g next : Game} {maxTurns : Nat} {result : Option BattleResult}
    (ok : g.runBattle maxTurns = .ok (next, result)) :
    next.fought = g.fought + if g.phase = .idle then 1 else 0 := by
  obtain ⟨started, played, enters, runs, last⟩ := of_runBattle_eq_ok ok
  have begun : started.fought = g.fought + if g.phase = .idle then 1 else 0 := by
    rcases of_enterBattle_eq_ok enters with ⟨events, starts⟩ | ⟨running, rfl⟩
    · rw [fought_startBattle starts, if_pos (of_startBattle_eq_ok starts).1]
    · rw [if_neg running, Nat.add_zero]
  have same : played.fought = started.fought :=
    runTurns_preserves (P := fun h => h.fought = started.fought)
      (fun before ok => (fought_playCard ok).trans before) rfl runs
  rcases last with ⟨ended, closed, closes⟩ | ⟨-, rfl⟩
  · rw [fought_endBattle ended closes, same, begun]
  · rw [same, begun]

/-- A request adds the battles that it begins, if battles can only be closed
when they are over. -/
theorem fought_perform {g next : Game} {action : Action} {reply : Reply}
    (closes : ∀ outcome, g.endBattle = .ok outcome → g.phase = .over) (anew : action ≠ .resetRun)
    (back : ∀ snapshot, action ≠ .rewind snapshot) (ok : g.perform action = .ok (next, reply)) :
    next.fought = g.fought + g.begunBy action := by
  cases action with
  | startBattle =>
      have one : g.begunBy .startBattle = 1 := by simp only [begunBy, ok]
      obtain ⟨_, done, same⟩ := of_map_eq_ok ok
      cases same
      exact (fought_startBattle done).trans (by rw [one])
  | endBattle =>
      obtain ⟨_, done, same⟩ := of_map_eq_ok ok
      cases same
      exact fought_endBattle (closes _ done) done
  | startTurn =>
      obtain ⟨_, done, same⟩ := of_map_eq_ok ok
      cases same
      exact fought_startTurn done
  | playCard =>
      obtain ⟨_, done, same⟩ := of_map_eq_ok ok
      cases same
      exact fought_playCard done
  | endTurn =>
      obtain ⟨_, done, same⟩ := of_map_eq_ok ok
      cases same
      exact fought_endTurn done
  | runTurn =>
      obtain ⟨_, done, same⟩ := of_map_eq_ok ok
      cases same
      exact runTurn_preserves (P := fun h => h.fought = g.fought)
        (fun before ok => (fought_playCard ok).trans before) rfl done
  | runBattle maxTurns =>
      have begun : g.begunBy (.runBattle maxTurns) = if g.phase = .idle then 1 else 0 := by
        simp only [begunBy, ok]
      obtain ⟨_, done, same⟩ := of_map_eq_ok ok
      cases same
      exact (fought_runBattle done).trans (by rw [begun])
  | loadOpponent enemy =>
      obtain ⟨_, done, same⟩ := of_map_eq_ok ok
      cases same
      have stage := stage_of_standing (standing_loadOpponent done).2
      rw [stage_updateCombatant] at stage
      exact fought_of_stage stage
  | rewind snapshot => exact absurd rfl (back snapshot)
  | resetRun => exact absurd rfl anew
  | _ => exact fought_of_standing (standing_perform rfl ok)

/-- In every run a battle that is over has a winner, and can be closed.  In a
fair run both sides stand as long as no battle is over, only a battle that is
over can be closed, and a side that runs out of cards loses to the other; and
unless the run goes back or starts anew, the battles won and lost and the one
going on are all that have been begun. -/
theorem battles_have_winners_and_count_once :
    (∀ g : Game, g.Reachable → g.phase = .over →
      ∃ winner closed result, g.winner? = some winner ∧ g.endBattle = .ok (closed, result) ∧
        result.winner = winner) ∧
    (∀ g : Game, g.ReachableBy Rules.Positive Action.Fair →
      (g.phase ≠ .over → ∀ side, 0 < (g.combatant side).health) ∧
      ((∃ outcome, g.endBattle = .ok outcome) ↔ g.phase = .over) ∧
      ∀ next report, g.playCard = .ok (next, report) → report.outcome = .deckExhausted →
        ∃ closed result, next.endBattle = .ok (closed, result) ∧
          result.winner = g.active.other) ∧
    ∀ (count : Nat) (g : Game), Begins Rules.Positive Action.Fair count g →
      g.wins + g.losses + (if g.phase = .idle then 0 else 1) = count := by
  refine ⟨?_, ?_, ?_⟩
  · intro g reached ended
    obtain ⟨winner, decided⟩ := Option.isSome_iff_exists.mp (reached.settled ended)
    obtain ⟨closed, result, ok, same⟩ := endBattle_of_winner decided
    exact ⟨winner, closed, result, decided, ok, same⟩
  · intro g reached
    obtain ⟨-, fit⟩ := reached.fit
    refine ⟨fit.alive, fit.endBattle_isOk_iff reached.reachable.settled, ?_⟩
    intro next report ok out
    exact endBattle_of_winner (fit.winner?_of_deckExhausted ok out)
  · intro count g begins
    show g.fought = count
    induction begins with
    | fresh allowed seed => rfl
    | @step count g before action allowed anew back ih =>
        have reached := before.reachableBy
        have closes := fun outcome ok =>
          (reached.fit.2.endBattle_isOk_iff reached.reachable.settled).mp ⟨outcome, ok⟩
        cases done : g.perform action with
        | error fault =>
            -- A refused request leaves the record alone and begins no battle.
            have none : g.begunBy action = 0 := by
              cases action <;> simp [begunBy, done]
            rw [after, done, none]
            exact ih
        | ok outcome =>
            rw [after_of_perform done, fought_perform closes anew back done, ih]

/-- A battle that the user enters without a card. -/
def emptyHanded : Game := (Game.fresh .standard 7).after .startBattle

/-- The battle after the user should have played. -/
def forfeit : Game := emptyHanded.after .playCard

/-- The example is a run in which one battle begins: the user has no card to
play in it. -/
theorem forfeit_begins :
    Begins Rules.Positive Action.Fair
      (0 + (Game.fresh .standard 7).begunBy .startBattle + emptyHanded.begunBy .playCard)
      forfeit := by
  have fresh : Begins Rules.Positive Action.Fair 0 (.fresh .standard 7) := .fresh (by decide) 7
  have started := fresh.step .startBattle (fun _ _ => trivial) nofun fun _ => nofun
  exact started.step .playCard (fun _ _ => trivial) nofun fun _ => nofun

/-- In the example the battle has a winner as soon as the user should have
played, and it is in the score only once it is closed. -/
theorem forfeit_lost :
    (∃ winner, forfeit.winner? = some winner) ∧
      (∃ next closed result, emptyHanded.after .playCard = next ∧
        next.endBattle = .ok (closed, result) ∧ result.winner = .opponent) ∧
      forfeit.wins + forfeit.losses = 0 := by
  obtain ⟨overs, fair, counts⟩ := battles_have_winners_and_count_once
  have reached : forfeit.Reachable := forfeit_begins.reachableBy.reachable
  have begun : emptyHanded.ReachableBy Rules.Positive Action.Fair :=
    (ReachableBy.fresh (by decide) 7).step .startBattle (fun _ _ => trivial)
      fun _ => nofun
  have ended : forfeit.phase = .over := by decide +kernel
  refine ⟨?_, ?_, ?_⟩
  · obtain ⟨winner, _, _, decided, -⟩ := overs forfeit reached ended
    exact ⟨winner, decided⟩
  · have out : (emptyHanded.playCard.map fun outcome => outcome.2.outcome) =
        .ok .deckExhausted := by decide +kernel
    obtain ⟨⟨next, report⟩, played, exhausted⟩ := of_map_eq_ok out
    obtain ⟨closed, result, closes, winner⟩ :=
      (fair emptyHanded begun).2.2 next report played exhausted
    have done : emptyHanded.perform .playCard = .ok (next, .played report) := by
      rw [perform, played]
      rfl
    exact ⟨next, closed, result, after_of_perform done, closes, winner⟩
  · have one : 0 + (Game.fresh .standard 7).begunBy .startBattle + emptyHanded.begunBy .playCard =
        1 := by decide +kernel
    have count := counts _ forfeit forfeit_begins
    rw [ended, one, if_neg (by decide)] at count
    omega

end CardBattle.Game
