/-
Module: CardBattle.Proofs.Game.Requests
Purpose: Runs as sequences of requests: the records they reach, and what holds of all of them.
Main exports:
  Reply.events, Game.after, Game.Reachable, Game.ReachableBy, Game.Kept, Game.KeptBy,
  Game.Kept.reachable, Game.KeptBy.reachable, Game.callAll
-/
import CardBattle.Game.Action
import CardBattle.Proofs.Game.Turns

/-!
# Runs

A run starts from a fresh record and answers requests in any order.  A refused request leaves the
record as it is, and a snapshot is a record that was reached before.  `Kept` asks for one proof for
each elementary request; turns and battles run as a whole, and the two ways of trashing by the
cursor, follow from these.

Some laws hold only of runs that bring nothing odd into the game.  `KeptBy` asks its proofs only for
the cards, relics and enemies that are fair, and `ReachableBy` has the runs that bring in no others.
-/

namespace CardBattle

/-- The events that a reply tells of. -/
def Reply.events : Reply → List BattleEvent
  | .happened events => events
  | .played report => report.events
  | .fought result => (result.map BattleResult.events).getD []
  | .done | .acquired _ | .removed _ => []

namespace Game

/-- The record that stands after a request. -/
def after (g : Game) (action : Action) : Game :=
  match g.perform action with
  | .ok (next, _) => next
  | .error _ => g

/-- The records that runs get to.  A run can only go back to a record that has
been reached. -/
inductive Reachable : Game → Prop where
  | fresh (rules : Rules) (seed : UInt64) : Reachable (.fresh rules seed)
  | step {g : Game} (reached : Reachable g) (action : Action)
      (taken : ∀ snapshot, action = .rewind snapshot → Reachable snapshot) :
      Reachable (g.after action)

/-- The records of the runs that start from lawful rules and in which all
requests that are not refused are fair. -/
inductive ReachableBy (lawful : Rules → Prop) (fair : Action → Prop) : Game → Prop where
  | fresh {rules : Rules} (allowed : lawful rules) (seed : UInt64) :
      ReachableBy lawful fair (.fresh rules seed)
  | step {g : Game} (reached : ReachableBy lawful fair g) (action : Action)
      (allowed : ∀ outcome, g.perform action = .ok outcome → fair action)
      (taken : ∀ snapshot, action = .rewind snapshot → ReachableBy lawful fair snapshot) :
      ReachableBy lawful fair (g.after action)

theorem ReachableBy.reachable {lawful : Rules → Prop} {fair : Action → Prop} {g : Game}
    (reached : g.ReachableBy lawful fair) : g.Reachable := by
  induction reached with
  | fresh allowed seed => exact .fresh _ seed
  | step reached action allowed taken before snapshots => exact before.step action snapshots

/-- Every run is lawful and fair where nothing is asked for, so laws about fair
runs include those about all runs. -/
theorem Reachable.reachableBy {g : Game} (reached : g.Reachable) :
    g.ReachableBy (fun _ => True) fun _ => True := by
  induction reached with
  | fresh rules seed => exact .fresh trivial seed
  | step reached action taken before snapshots =>
      exact before.step action (fun _ _ => trivial) snapshots

/-- The record that stands after a request that is granted is the one it leads
to. -/
theorem after_of_perform {g next : Game} {action : Action} {reply : Reply}
    (ok : g.perform action = .ok (next, reply)) : g.after action = next := by
  rw [after, ok]

/-- What a request other than going back leads to belongs to the run.  Going
back has to name a record that was reached. -/
theorem Reachable.perform {g next : Game} {action : Action} {reply : Reply} (reached : g.Reachable)
    (ok : g.perform action = .ok (next, reply))
    (onward : ∀ snapshot, action ≠ .rewind snapshot) : next.Reachable := by
  have stepped := reached.step action fun snapshot same => absurd same (onward snapshot)
  rwa [after_of_perform ok] at stepped

theorem Reachable.startBattle {g next : Game} {events : List BattleEvent} (reached : g.Reachable)
    (ok : g.startBattle = .ok (next, events)) : next.Reachable := by
  have done : g.perform .startBattle = .ok (next, .happened events) := by
    rw [Game.perform, ok]
    rfl
  exact reached.perform done fun _ => nofun

theorem Reachable.endBattle {g next : Game} {result : BattleResult} (reached : g.Reachable)
    (ok : g.endBattle = .ok (next, result)) : next.Reachable := by
  have done : g.perform .endBattle = .ok (next, .fought (some result)) := by
    rw [Game.perform, ok]
    rfl
  exact reached.perform done fun _ => nofun

theorem Reachable.playCard {g next : Game} {report : PlayReport} (reached : g.Reachable)
    (ok : g.playCard = .ok (next, report)) : next.Reachable := by
  have done : g.perform .playCard = .ok (next, .played report) := by
    rw [Game.perform, ok]
    rfl
  exact reached.perform done fun _ => nofun

theorem Reachable.chainCards {g next : Game} {first second : CardId} (reached : g.Reachable)
    (ok : g.chainCards first second = .ok next) : next.Reachable := by
  have done : g.perform (.chainCards first second) = .ok (next, .done) := by
    rw [Game.perform, ok]
    rfl
  exact reached.perform done fun _ => nofun

/-- Requests other than going back can be made in any order, refused ones among
them.  Examples of runs are built with this. -/
theorem Reachable.foldl {g : Game} (reached : g.Reachable) {actions : List Action}
    (onward : ∀ action ∈ actions, ∀ snapshot, action ≠ .rewind snapshot) :
    (actions.foldl after g).Reachable := by
  induction actions generalizing g with
  | nil => exact reached
  | cons action rest ih =>
      have first : (g.after action).Reachable :=
        reached.step action fun snapshot same =>
          absurd same (onward action (List.mem_cons_self ..) snapshot)
      exact ih first fun other mem => onward other (List.mem_cons_of_mem _ mem)

/-! ### Laws that all requests keep -/

/-- A law of records that each request keeps, if it is not refused. -/
structure Kept (P : Game → Prop) : Prop where
  startBattle : ∀ {g next : Game} {events : List BattleEvent},
    P g → g.startBattle = .ok (next, events) → P next
  endBattle : ∀ {g next : Game} {result : BattleResult},
    P g → g.endBattle = .ok (next, result) → P next
  startTurn : ∀ {g next : Game} {events : List BattleEvent},
    P g → g.startTurn = .ok (next, events) → P next
  playCard : ∀ {g next : Game} {report : PlayReport},
    P g → g.playCard = .ok (next, report) → P next
  consumeExtraPlay : ∀ {g next : Game}, P g → g.consumeExtraPlay = .ok next → P next
  endTurn : ∀ {g next : Game} {events : List BattleEvent},
    P g → g.endTurn = .ok (next, events) → P next
  addCard : ∀ {g : Game} (side : Side) (card : Card), P g → P (g.addCard side card).1
  removeCard : ∀ {g next : Game} {id : CardId} {card : Card},
    P g → g.removeCard id = .ok (next, card) → P next
  chainCards : ∀ {g next : Game} {first second : CardId},
    P g → g.chainCards first second = .ok next → P next
  unlinkCard : ∀ {g next : Game} {id : CardId}, P g → g.unlinkCard id = .ok next → P next
  addRelic : ∀ {g : Game} (side : Side) (relic : Relic), P g → P (g.addRelic side relic)
  loadOpponent : ∀ {g next : Game} {enemy : Enemy}, P g → g.loadOpponent enemy = .ok next → P next
  discardCurrent : ∀ {g : Game} (side : Side), P g → P (g.discardCurrent side).1
  trashAt : ∀ {g : Game} (side : Side) (index : Nat), P g → P (g.trashAt side index).1
  shuffleDeck : ∀ {g : Game} (side : Side), P g → P (g.shuffleDeck side).1
  resetRun : ∀ {g : Game}, P g → P g.resetRun

/-- A law of records that each request keeps, if it is not refused and brings
only fair cards, relics and enemies into the game. -/
structure KeptBy (fair : Action → Prop) (P : Game → Prop) : Prop where
  startBattle : ∀ {g next : Game} {events : List BattleEvent},
    P g → g.startBattle = .ok (next, events) → P next
  endBattle : ∀ {g next : Game} {result : BattleResult},
    P g → g.endBattle = .ok (next, result) → P next
  startTurn : ∀ {g next : Game} {events : List BattleEvent},
    P g → g.startTurn = .ok (next, events) → P next
  playCard : ∀ {g next : Game} {report : PlayReport},
    P g → g.playCard = .ok (next, report) → P next
  consumeExtraPlay : ∀ {g next : Game}, P g → g.consumeExtraPlay = .ok next → P next
  endTurn : ∀ {g next : Game} {events : List BattleEvent},
    P g → g.endTurn = .ok (next, events) → P next
  addCard : ∀ {g : Game} {side : Side} {card : Card},
    fair (.addCard side card) → P g → P (g.addCard side card).1
  removeCard : ∀ {g next : Game} {id : CardId} {card : Card},
    P g → g.removeCard id = .ok (next, card) → P next
  chainCards : ∀ {g next : Game} {first second : CardId},
    P g → g.chainCards first second = .ok next → P next
  unlinkCard : ∀ {g next : Game} {id : CardId}, P g → g.unlinkCard id = .ok next → P next
  addRelic : ∀ {g : Game} {side : Side} {relic : Relic},
    fair (.addRelic side relic) → P g → P (g.addRelic side relic)
  loadOpponent : ∀ {g next : Game} {enemy : Enemy},
    fair (.loadOpponent enemy) → P g → g.loadOpponent enemy = .ok next → P next
  discardCurrent : ∀ {g : Game} (side : Side), P g → P (g.discardCurrent side).1
  trashAt : ∀ {g : Game} (side : Side) (index : Nat), P g → P (g.trashAt side index).1
  shuffleDeck : ∀ {g : Game} (side : Side), P g → P (g.shuffleDeck side).1
  resetRun : ∀ {g : Game}, P g → P g.resetRun

theorem of_map_eq_ok {α β : Type} {f : α → β} {result : Except Fault α} {value : β}
    (ok : result.map f = .ok value) : ∃ inner, result = .ok inner ∧ f inner = value := by
  cases result with
  | error fault => cases ok
  | ok inner => exact ⟨inner, rfl, Except.ok.inj ok⟩

namespace KeptBy

variable {fair : Action → Prop} {P : Game → Prop}

/-- One fair request, carried out on a record with the law, leaves one with the
law. -/
theorem perform (kept : KeptBy fair P) {g next : Game} {action : Action} {reply : Reply}
    (start : P g) (allowed : fair action)
    (taken : ∀ snapshot, action = .rewind snapshot → P snapshot)
    (ok : g.perform action = .ok (next, reply)) : P next := by
  cases action with
  | startBattle =>
      obtain ⟨_, done, same⟩ := of_map_eq_ok ok
      cases same
      exact kept.startBattle start done
  | endBattle =>
      obtain ⟨_, done, same⟩ := of_map_eq_ok ok
      cases same
      exact kept.endBattle start done
  | startTurn =>
      obtain ⟨_, done, same⟩ := of_map_eq_ok ok
      cases same
      exact kept.startTurn start done
  | playCard =>
      obtain ⟨_, done, same⟩ := of_map_eq_ok ok
      cases same
      exact kept.playCard start done
  | consumeExtraPlay =>
      -- Unfolding by evaluation would compute the counter that is spent.
      rw [Game.perform] at ok
      obtain ⟨_, done, same⟩ := of_map_eq_ok ok
      cases same
      exact kept.consumeExtraPlay start done
  | endTurn =>
      obtain ⟨_, done, same⟩ := of_map_eq_ok ok
      cases same
      exact kept.endTurn start done
  | runTurn =>
      obtain ⟨_, done, same⟩ := of_map_eq_ok ok
      cases same
      exact runTurn_preserves kept.playCard start done
  | runBattle maxTurns =>
      obtain ⟨_, done, same⟩ := of_map_eq_ok ok
      cases same
      exact runBattle_preserves kept.startBattle kept.playCard kept.endBattle start done
  | addCard side card =>
      cases ok
      exact kept.addCard allowed start
  | removeCard id =>
      obtain ⟨_, done, same⟩ := of_map_eq_ok ok
      cases same
      exact kept.removeCard start done
  | chainCards first second =>
      obtain ⟨_, done, same⟩ := of_map_eq_ok ok
      cases same
      exact kept.chainCards start done
  | unlinkCard id =>
      obtain ⟨_, done, same⟩ := of_map_eq_ok ok
      cases same
      exact kept.unlinkCard start done
  | addRelic side relic =>
      cases ok
      exact kept.addRelic allowed start
  | loadOpponent enemy =>
      obtain ⟨_, done, same⟩ := of_map_eq_ok ok
      cases same
      exact kept.loadOpponent allowed start done
  | discardCurrent side =>
      cases ok
      exact kept.discardCurrent side start
  | trashCurrent side =>
      cases ok
      exact kept.trashAt side _ start
  | trashNext side =>
      have moved : P (g.trashNext side).1 := by
        unfold trashNext
        dsimp only
        split
        · exact start
        · exact kept.trashAt side _ start
      cases ok
      exact moved
  | shuffleDeck side =>
      cases ok
      exact kept.shuffleDeck side start
  | rewind snapshot =>
      cases ok
      exact taken _ rfl
  | resetRun =>
      cases ok
      exact kept.resetRun start

/-- A law that holds at the start of lawful runs, and that fair requests keep,
holds of all their records. -/
theorem reachable (kept : KeptBy fair P) {lawful : Rules → Prop}
    (fresh : ∀ rules seed, lawful rules → P (.fresh rules seed)) {g : Game}
    (reached : g.ReachableBy lawful fair) : P g := by
  induction reached with
  | fresh allowed seed => exact fresh _ seed allowed
  | @step g reached action allowed taken start snapshots =>
      unfold after
      split
      · rename_i done
        exact kept.perform start (allowed _ done) snapshots done
      · exact start

theorem of_true (fair : Action → Prop) : KeptBy fair fun _ => True := by
  constructor <;> intros <;> trivial

end KeptBy

namespace Kept

variable {P : Game → Prop}

/-- What every request keeps, fair requests keep.  The law then serves as a base
for laws about fair runs. -/
theorem keptBy (kept : Kept P) (fair : Action → Prop) : KeptBy fair P where
  startBattle := kept.startBattle
  endBattle := kept.endBattle
  startTurn := kept.startTurn
  playCard := kept.playCard
  consumeExtraPlay := kept.consumeExtraPlay
  endTurn := kept.endTurn
  addCard _ := kept.addCard _ _
  removeCard := kept.removeCard
  chainCards := kept.chainCards
  unlinkCard := kept.unlinkCard
  addRelic _ := kept.addRelic _ _
  loadOpponent _ := kept.loadOpponent
  discardCurrent := kept.discardCurrent
  trashAt := kept.trashAt
  shuffleDeck := kept.shuffleDeck
  resetRun := kept.resetRun

/-- One request, carried out on a record with the law, leaves one with the law.
A snapshot brings its own. -/
theorem perform (kept : Kept P) {g next : Game} {action : Action} {reply : Reply} (start : P g)
    (taken : ∀ snapshot, action = .rewind snapshot → P snapshot)
    (ok : g.perform action = .ok (next, reply)) : P next :=
  (kept.keptBy fun _ => True).perform start trivial taken ok

/-- A law that holds at the start of a run, and that requests keep, holds of
every record. -/
theorem reachable (kept : Kept P) (fresh : ∀ rules seed, P (.fresh rules seed)) {g : Game}
    (reached : g.Reachable) : P g := by
  induction reached with
  | fresh rules seed => exact fresh rules seed
  | @step g reached action taken start snapshots =>
      unfold after
      split
      · rename_i done
        exact kept.perform start snapshots done
      · exact start

end Kept

/-! ### Requests in a row -/

/-- What the log of a run has for a request: whose turn it was, and what was
told. -/
structure LogEntry where
  side : Side
  events : List BattleEvent

/-- Make requests in a row, with the log of what they tell.  A refused one ends
it. -/
def callAll (g : Game) : List Action → Except Fault (List LogEntry × Game)
  | [] => .ok ([], g)
  | action :: rest =>
      match g.perform action with
      | .error fault => .error fault
      | .ok (next, reply) =>
          match next.callAll rest with
          | .error fault => .error fault
          | .ok (log, last) => .ok (⟨g.active, reply.events⟩ :: log, last)

/-- Calls in a row are granted when the first is, and the others from the record
that it leaves; its events come first in the log. -/
theorem of_callAll_cons_eq_ok {g last : Game} {action : Action} {rest : List Action}
    {log : List LogEntry} (ok : g.callAll (action :: rest) = .ok (log, last)) :
    ∃ next reply later, g.perform action = .ok (next, reply) ∧
      next.callAll rest = .ok (later, last) ∧ log = ⟨g.active, reply.events⟩ :: later := by
  unfold callAll at ok
  split at ok
  · cases ok
  · rename_i next reply done
    split at ok
    · cases ok
    · rename_i later _ others
      cases ok
      exact ⟨next, reply, later, done, others, rfl⟩

end Game

end CardBattle
