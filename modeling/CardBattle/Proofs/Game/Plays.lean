/-
Module: CardBattle.Proofs.Game.Plays
Purpose: Plays in a row with the events they tell, and laws about them made of their single steps.
Main exports:
  Game.told, Game.history, Game.Plays, Game.Plays.of_history, Game.Plays.playedAt, Game.Spares,
  Game.PlayLaw, Game.PlayLaw.played, Game.PlayLaw.plays
-/
import CardBattle.Proofs.Game.Standing

/-!
# Plays in a row

What is told in a battle is told by plays, whether they are asked for one by one or a turn at a
time.  `Plays` has the records that plays get to, each with all that has been told on the way.

A play is made of a few steps: the turn starts, a stunned side loses its play, a card resolves, a
further play is spent, the turn passes, the battle is lost or decided.  A law that relates the
records before and after such a step to what it tells, and that adds up, holds of whole plays and of
plays in a row (`PlayLaw`), at least where the cards played leave the fields it is about alone.
-/

namespace CardBattle

/-- The requests that build decks: cards come and go, are linked, unlinked and
shuffled. -/
def Action.buildsDecks : Action → Bool
  | .addCard .. | .removeCard _ | .chainCards .. | .unlinkCard _ | .shuffleDeck _
  | .loadOpponent _ => true
  | _ => false

/-- The requests that only play cards. -/
def Action.plays : Action → Bool
  | .playCard | .runTurn => true
  | _ => false

/-- The card, if this is a card that `side` played. -/
def BattleEvent.playedBy? (side : Side) : BattleEvent → Option CardId
  | cardPlayed owner id => if owner = side then some id else none
  | _ => none

/-- The cards that a side played, by events, in order. -/
def playedCards (side : Side) (events : List BattleEvent) : List CardId :=
  events.filterMap (BattleEvent.playedBy? side)

theorem mem_playedCards {side : Side} {id : CardId} {events : List BattleEvent} :
    id ∈ playedCards side events ↔ .cardPlayed side id ∈ events := by
  rw [playedCards, List.mem_filterMap]
  constructor
  · rintro ⟨event, mem, played⟩
    cases event with
    | cardPlayed owner other =>
        simp only [BattleEvent.playedBy?, Option.ite_none_right_eq_some, Option.some.injEq] at played
        obtain ⟨rfl, rfl⟩ := played
        exact mem
    | _ => cases played
  · intro mem
    exact ⟨_, mem, if_pos rfl⟩

/-- Cards played are listed over logs that follow one another, in the same
order. -/
theorem playedCards_append (side : Side) (first second : List BattleEvent) :
    playedCards side (first ++ second) = playedCards side first ++ playedCards side second :=
  List.filterMap_append ..

namespace Game

/-! ### What is told -/

/-- The events that a request is answered with; a refused one tells of nothing. -/
def told (g : Game) (action : Action) : List BattleEvent :=
  match g.perform action with
  | .ok (_, reply) => reply.events
  | .error _ => []

/-- The events that requests in a row are answered with. -/
def history (g : Game) : List Action → List BattleEvent
  | [] => []
  | action :: rest => g.told action ++ (g.after action).history rest

theorem told_of_perform {g next : Game} {action : Action} {reply : Reply}
    (ok : g.perform action = .ok (next, reply)) : g.told action = reply.events := by
  rw [told, ok]

/-- The records that plays get to from a start, each with all that has been told
on the way. -/
inductive Plays (start : Game) : List BattleEvent → Game → Prop where
  | none : Plays start [] start
  | play {g next : Game} {told : List BattleEvent} {report : PlayReport}
      (before : Plays start told g) (ok : g.playCard = .ok (next, report)) :
      Plays start (told ++ report.events) next

namespace Plays

variable {start g h : Game} {first second : List BattleEvent}

theorem single {next : Game} {report : PlayReport} (ok : g.playCard = .ok (next, report)) :
    g.Plays report.events next :=
  .play .none ok

theorem trans (one : start.Plays first g) (two : g.Plays second h) :
    start.Plays (first ++ second) h := by
  induction two with
  | none =>
      rw [List.append_nil]
      exact one
  | play _ ok ih =>
      rw [← List.append_assoc]
      exact ih.play ok

/-- Running a turn only plays cards, and tells what these plays tell. -/
theorem of_runTurn {events : List BattleEvent} (ok : g.runTurn = .ok (h, events)) :
    g.Plays events h := by
  have law : ∃ told, events = [] ++ told ∧ g.Plays told h := by
    refine runPlays_induction ?stop ?last ?again ok
    case stop =>
      intro g
      exact .none
    case last =>
      intro g after report played _
      exact .single played
    case again =>
      intro g between after report told played _ rest
      exact (Plays.single played).trans rest
  obtain ⟨told, rfl, plays⟩ := law
  exact plays

/-- A request that only plays cards is carried out by plays, unless it is
refused. -/
theorem of_after {action : Action} (playing : action.plays = true) :
    g.Plays (g.told action) (g.after action) := by
  cases done : g.perform action with
  | error fault =>
      rw [told, after, done]
      exact .none
  | ok outcome =>
      obtain ⟨next, reply⟩ := outcome
      rw [told_of_perform done, after_of_perform done]
      cases action with
      | playCard =>
          obtain ⟨_, ok, same⟩ := of_map_eq_ok done
          cases same
          exact .single ok
      | runTurn =>
          obtain ⟨_, ok, same⟩ := of_map_eq_ok done
          cases same
          exact .of_runTurn ok
      | _ => cases playing

/-- Requests that only play cards tell what plays tell, whether they are granted
or not. -/
theorem of_history {calls : List Action} (playing : ∀ action ∈ calls, action.plays = true) :
    g.Plays (g.history calls) (calls.foldl after g) := by
  induction calls generalizing g with
  | nil => exact .none
  | cons action rest ih =>
      have now := playing action (List.mem_cons_self ..)
      have later := fun other mem => playing other (List.mem_cons_of_mem _ mem)
      exact (of_after now).trans (ih later)

end Plays

/-- Between battles one can be started, and requests that only play cards then
tell what its plays tell. -/
theorem exists_plays_of_idle {g : Game} (waiting : g.phase = .idle) {calls : List Action}
    (playing : ∀ action ∈ calls, action.plays = true) :
    ∃ started, g.startBattle = .ok (started, [.battleStarted]) ∧
      g.history (.startBattle :: calls) = .battleStarted :: started.history calls ∧
      started.Plays (started.history calls) ((Action.startBattle :: calls).foldl after g) := by
  obtain ⟨started, starts⟩ : ∃ started, g.startBattle = .ok (started, [.battleStarted]) := by
    rw [startBattle, if_pos waiting]
    exact ⟨_, rfl⟩
  have start : g.perform .startBattle = .ok (started, .happened [.battleStarted]) := by
    rw [perform, starts]
    rfl
  refine ⟨started, starts, ?_, ?_⟩
  · rw [history, told_of_perform start, after_of_perform start]
    rfl
  · rw [List.foldl_cons, after_of_perform start]
    exact .of_history playing

/-- Cards and links stay as they are in battle, so a number stands for the same
card through all plays. -/
theorem Plays.pool_eq {start g : Game} {events : List BattleEvent} (plays : start.Plays events g) :
    g.pool = start.pool := by
  induction plays with
  | none => rfl
  | play _ ok ih => exact (playCard_played ok).2.frame.1.trans ih

/-- A play of `g`, a record that plays have got to, tells of a card, and
`before` is all that had been told until then. -/
def PlayedAt (start : Game) (before : List BattleEvent) (side : Side) (id : CardId) (g : Game) :
    Prop :=
  ∃ told opening next report later, start.Plays told g ∧ g.playCard = .ok (next, report) ∧
    before = told ++ opening ∧ report.events = opening ++ .cardPlayed side id :: later

/-- Each card that plays tell of was played from one of their records, with what
was told before it. -/
theorem Plays.playedAt {start g : Game} {events before later : List BattleEvent} {side : Side}
    {id : CardId} (plays : start.Plays events g)
    (split : events = before ++ .cardPlayed side id :: later) :
    ∃ moment, start.PlayedAt before side id moment := by
  induction plays generalizing later with
  | none => simp at split
  | @play g next told report earlier ok ih =>
      rcases List.append_eq_append_iff.mp split with ⟨opening, same, rest⟩ | ⟨tail, same, rest⟩
      · exact ⟨g, told, opening, next, report, later, earlier, ok, same, rest⟩
      · cases tail with
        | nil =>
            rw [List.append_nil] at same
            exact ⟨g, told, [], next, report, later, earlier, ok, by simp [same], rest.symm⟩
        | cons event others =>
            obtain ⟨rfl, -⟩ := List.cons.inj rest
            exact ih same

/-! ### Cards that leave fields alone -/

/-- None of the cards that events say were played has a line that overwrites one
of the fields. -/
def Spares (g : Game) (fields : Field → Prop) (events : List BattleEvent) : Prop :=
  ∀ side id card, .cardPlayed side id ∈ events → g.pool.card? id = some card →
    ∀ field, fields field → ¬ card.Carries (.set field)

namespace Spares

variable {g h : Game} {fields : Field → Prop} {events fewer : List BattleEvent}

/-- If no card of some events writes a field, none of fewer events does, as long
as the numbers stand for the same cards. -/
theorem of_subset (spares : g.Spares fields events) (pool : h.pool = g.pool)
    (sub : fewer ⊆ events) : h.Spares fields fewer := by
  intro side id card played found
  rw [pool] at found
  exact spares side id card (sub played) found

/-- There is nothing to spare where no field counts. -/
theorem of_none (g : Game) (events : List BattleEvent) : g.Spares (fun _ => False) events :=
  fun _ _ _ _ _ _ => False.elim

theorem append (spares : g.Spares fields (events ++ fewer)) (pool : h.pool = g.pool) :
    g.Spares fields events ∧ h.Spares fields fewer :=
  ⟨spares.of_subset rfl (List.subset_append_left ..),
    spares.of_subset pool (List.subset_append_right ..)⟩

end Spares

/-! ### Laws about plays -/

/-- A law between two records and what was told from one to the other, kept by
each step of a play whose cards spare some fields, that adds up. -/
structure PlayLaw (spared : Field → Prop) (R : Game → List BattleEvent → Game → Prop) : Prop where
  still : ∀ g, R g [] g
  andThen : ∀ {g h k : Game} {first second : List BattleEvent},
    R g first h → R h second k → R g (first ++ second) k
  startTurn : ∀ {g next : Game} {events : List BattleEvent},
    g.startTurn = .ok (next, events) → R g events next
  endTurn : ∀ {g next : Game} {events : List BattleEvent},
    g.endTurn = .ok (next, events) → R g events next
  stunned : ∀ {g : Game} {rest : Combatant}, (g.combatant g.active).spend? .stun = some rest →
    R g [.stunned g.active] (g.setCombatant g.active rest)
  consumeExtraPlay : ∀ {g next : Game}, g.consumeExtraPlay = .ok next → R g [] next
  resolveFromDeck : ∀ {g next : Game} {id : CardId} {events : List BattleEvent},
    g.turnPhase = .playing → (g.combatant g.active).currentCard? = some id →
    g.Spares spared events → g.resolveFromDeck id = .ok (next, events) → R g events next
  exhaust : ∀ {g : Game}, g.turnPhase = .playing → (g.combatant g.active).currentCard? = none →
    R g (g.exhaust []).2.events (g.exhaust []).1
  decide : ∀ {g : Game}, g.isBattleOver = true → R g [] { g with phase := .over }

namespace PlayLaw

variable {spared : Field → Prop} {R : Game → List BattleEvent → Game → Prop}

theorem openTurn (law : PlayLaw spared R) {g opened : Game} {events : List BattleEvent}
    (ok : g.openTurn = .ok (opened, events)) : R g events opened := by
  rcases of_openTurn_eq_ok ok with starts | ⟨rfl, rfl⟩
  · exact law.startTurn starts
  · exact law.still _

/-- A card resolves in a turn that has been opened for it, so both steps
together obey the law. -/
theorem opened (law : PlayLaw spared R) {g opened resolved : Game} {id : CardId}
    {opening happened : List BattleEvent} (opens : g.openTurn = .ok (opened, opening))
    (current : (opened.combatant g.active).currentCard? = some id)
    (resolves : opened.resolveFromDeck id = .ok (resolved, happened))
    (spares : g.Spares spared (opening ++ happened)) : R g (opening ++ happened) resolved := by
  obtain ⟨pool, active⟩ := openTurn_frame opens
  rw [← active] at current
  have playing : opened.turnPhase = .playing := congrArg Stage.turnPhase (openTurn_stage opens)
  exact law.andThen (law.openTurn opens)
    (law.resolveFromDeck playing current (spares.append pool).2 resolves)

/-- The law holds of each way in which a play can go, put together from the
steps of that way. -/
theorem played (law : PlayLaw spared R) {g after : Game} {report : PlayReport}
    (played : g.Played after report) (spares : g.Spares spared report.events) :
    R g report.events after := by
  cases played with
  | stunned opens spent ends =>
      have opening := law.openTurn opens
      rw [← (openTurn_frame opens).2] at spent ends ⊢
      exact law.andThen (law.andThen opening (law.stunned spent)) (law.endTurn ends)
  | exhausted opens _ bare =>
      rw [← (openTurn_frame opens).2] at bare
      have playing := congrArg Stage.turnPhase (openTurn_stage opens)
      exact law.andThen (law.openTurn opens) (law.exhaust playing bare)
  | decided opens _ current resolves lost =>
      have happened := law.andThen (law.opened opens current resolves spares) (law.decide lost)
      rwa [List.append_nil] at happened
  | again opens _ current resolves _ _ spends =>
      have happened := law.andThen (law.opened opens current resolves spares)
        (law.consumeExtraPlay spends)
      rwa [List.append_nil] at happened
  | passed opens _ current resolves _ _ ends =>
      exact law.andThen (law.opened opens current resolves (spares.append rfl).1)
        (law.endTurn ends)

theorem playCard (law : PlayLaw spared R) {g next : Game} {report : PlayReport}
    (ok : g.playCard = .ok (next, report)) (spares : g.Spares spared report.events) :
    R g report.events next :=
  law.played (playCard_played ok).2 spares

/-- The law holds of plays in a row, by induction on how many there were. -/
theorem plays (law : PlayLaw spared R) {g after : Game} {events : List BattleEvent}
    (plays : g.Plays events after) (spares : g.Spares spared events) : R g events after := by
  induction plays with
  | none => exact law.still g
  | play before ok ih =>
      obtain ⟨earlier, now⟩ := spares.append before.pool_eq
      exact law.andThen (ih earlier) (law.playCard ok now)

end PlayLaw

end Game

end CardBattle
