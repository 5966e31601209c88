/-
Module: CardBattle.Proofs.Game.Succession
Purpose: In battle the card that follows another is the next one that its side plays.
Main exports:
  Game.Waits, Game.playCard_waits, Game.history_waits,
  Game.Reachable.successor_is_played_next
-/
import CardBattle.Proofs.Game.HealthLedger
import CardBattle.Proofs.Game.Rotation

/-!
# Succession

When a card has been played and put away, the cursor is at the card that follows it, if that is in
the deck.  Whatever goes on in the battle then, with turns lost to a stun, further plays and cards
of the other side, the cursor of a side moves only when the side plays the card under it.  So that
card waits for its turn, and no other card of its side comes before it.
-/

namespace CardBattle.Game

/-- From one record to the other a side plays no card and keeps the one under
its cursor, or the card under its cursor is the first that it plays. -/
inductive Waits (g : Game) (side : Side) (events : List BattleEvent) (h : Game) : Prop where
  | still (quiet : playedCards side events = [])
      (same : (h.combatant side).currentCard? = (g.combatant side).currentCard?)
  | first {id : CardId} {later : List CardId} (current : (g.combatant side).currentCard? = some id)
      (played : playedCards side events = id :: later)

namespace Waits

variable {g h k : Game} {side : Side} {first second events : List BattleEvent}

theorem refl (g : Game) (side : Side) : g.Waits side [] g := .still rfl rfl

/-- If a card waits through both of two stretches it waits through them
together; if it is played first in either, it is the first card played. -/
theorem trans (one : g.Waits side first h) (two : h.Waits side second k) :
    g.Waits side (first ++ second) k := by
  cases one with
  | first current played =>
      apply Waits.first current
      rw [playedCards_append, played]
      rfl
  | still quiet same =>
      cases two with
      | still later still =>
          apply Waits.still
          · rw [playedCards_append, quiet, later]
            rfl
          · exact still.trans same
      | first current played =>
          apply Waits.first (same ▸ current)
          rw [playedCards_append, quiet, List.nil_append, played]

/-- Steps that play no card and leave all belongings alone let the card under
the cursor wait. -/
theorem of_belongings (quiet : playedCards side events = [])
    (same : (h.combatant side).belongings = (g.combatant side).belongings) :
    g.Waits side events h :=
  .still quiet (currentCard?_of_belongings same)

end Waits

theorem startTurn_waits {g next : Game} {events : List BattleEvent}
    (ok : g.startTurn = .ok (next, events)) (side : Side) : g.Waits side events next := by
  obtain ⟨-, same, silent⟩ := startTurn_quiet ok
  apply Waits.of_belongings
  · exact List.filterMap_eq_nil_iff.mpr fun event mem => silent event mem side
  · exact same side

theorem endTurn_waits {g next : Game} {events : List BattleEvent}
    (ok : g.endTurn = .ok (next, events)) (side : Side) : g.Waits side events next := by
  have quiet := endTurn_quiet ok side
  obtain ⟨-, rfl, -⟩ := of_endTurn_eq_ok ok
  exact .still quiet rfl

/-- A play moves the cursor of no side but the one whose card it tells of, and
that card was under the cursor. -/
theorem playCard_waits {g next : Game} {report : PlayReport}
    (ok : g.playCard = .ok (next, report)) (side : Side) : g.Waits side report.events next := by
  cases playCard_movesCards ok with
  | none same silent =>
      exact .still (silent side) (Combatant.currentCard?_of_piles (same side))
  | @one id card current stored away other told =>
      rcases Side.eq_or_eq_other side g.active with rfl | rfl
      · apply Waits.first current
        rw [told, if_pos rfl]
      · apply Waits.still
        · rw [told, if_neg (Side.ne_other g.active)]
        · exact Combatant.currentCard?_of_piles other

/-- Through any number of plays a side goes on with the card that was under its
cursor. -/
theorem Plays.waits {start g : Game} {events : List BattleEvent} (plays : start.Plays events g)
    (side : Side) : start.Waits side events g := by
  induction plays with
  | none => exact .refl start side
  | play before ok ih => exact ih.trans (playCard_waits ok side)

/-- A request that takes a battle on lets the card under a cursor wait, whether
it is granted or refused. -/
theorem after_waits {g : Game} {action : Action} (playing : action.playsOn = true) (side : Side) :
    g.Waits side (g.told action) (g.after action) := by
  cases done : g.perform action with
  | error fault =>
      rw [told, after, done]
      exact .refl g side
  | ok outcome =>
      obtain ⟨next, reply⟩ := outcome
      cases action with
      | startTurn =>
          rw [told_of_perform done, after_of_perform done]
          obtain ⟨_, ok, same⟩ := of_map_eq_ok done
          cases same
          exact startTurn_waits ok side
      | endTurn =>
          rw [told_of_perform done, after_of_perform done]
          obtain ⟨_, ok, same⟩ := of_map_eq_ok done
          cases same
          exact endTurn_waits ok side
      | playCard =>
          have plays : g.Plays (g.told .playCard) (g.after .playCard) := .of_after rfl
          exact plays.waits side
      | runTurn =>
          have plays : g.Plays (g.told .runTurn) (g.after .runTurn) := .of_after rfl
          exact plays.waits side
      | _ => cases playing

/-- However a battle is taken on, the card under the cursor of a side is the
first that it plays. -/
theorem history_waits {g : Game} {calls : List Action}
    (playing : ∀ action ∈ calls, action.playsOn = true) (side : Side) :
    g.Waits side (g.history calls) (calls.foldl after g) := by
  induction calls generalizing g with
  | nil => exact .refl g side
  | cons action rest ih =>
      have now := after_waits (g := g) (playing action (List.mem_cons_self ..)) side
      exact now.trans (ih fun other mem => playing other (List.mem_cons_of_mem _ mem))

/-- A card that a play tells of leaves the cursor at the card that follows it,
if that is in the deck. -/
theorem currentCard?_of_played {g next : Game} {report : PlayReport} {side : Side}
    {id follower : CardId} (tidy : g.Tidy) (fit : g.CursorsFit)
    (ok : g.playCard = .ok (next, report)) (played : .cardPlayed side id ∈ report.events)
    (step : g.pool.chains.Follows id follower) (inside : follower ∈ (g.combatant side).deck) :
    playedCards side report.events = [id] ∧
      (next.combatant side).currentCard? = some follower := by
  have mem : id ∈ playedCards side report.events := mem_playedCards.mpr played
  cases playCard_movesCards ok with
  | none _ silent =>
      rw [silent] at mem
      cases mem
  | @one current card here stored away other told =>
      have cards := told side
      by_cases own : g.active = side
      · rw [if_pos own] at cards
        rw [cards] at mem
        obtain rfl := List.mem_singleton.mp mem
        subst own
        have held := tidy.held g.active
        refine ⟨cards, (Combatant.currentCard?_of_piles away).trans ?_⟩
        exact Combatant.currentCard?_putAway (fit g.active) held.deck_nodup held.contiguous here
          step inside card.trashOnPlay
      · rw [if_neg own] at cards
        rw [cards] at mem
        cases mem

/-- When a side plays a card whose successor is in its deck, the next card that
it plays in the battle is this successor, whatever the two sides do until then. -/
theorem Reachable.successor_is_played_next {g next : Game} {report : PlayReport} {side : Side}
    {id follower : CardId} (reached : g.Reachable) (ok : g.playCard = .ok (next, report))
    (played : .cardPlayed side id ∈ report.events)
    (step : g.pool.chains.successor? id = some follower)
    (inside : follower ∈ (g.combatant side).deck) {calls : List Action}
    (playing : ∀ action ∈ calls, action.playsOn = true) :
    playedCards side (report.events ++ next.history calls) = [id] ∨
      ∃ later, playedCards side (report.events ++ next.history calls) =
        id :: follower :: later := by
  obtain ⟨one, current⟩ :=
    currentCard?_of_played reached.tidy reached.cursorsFit ok played step inside
  rw [playedCards_append, one]
  cases history_waits playing side (g := next) with
  | still quiet _ =>
      apply Or.inl
      rw [quiet]
      rfl
  | first upper cards =>
      rename_i first later
      obtain rfl : follower = first := Option.some.inj (current.symm.trans upper)
      apply Or.inr
      exact ⟨later, congrArg (List.cons id) cards⟩

/-- A battle in which the user is about to play a card that goes out of play,
and that another card of its deck follows. -/
def relay : Game :=
  [.addCard .user (.plain "Spark"), .addCard .user { Card.plain "Flame" with trashOnPlay := true },
    .addCard .user (.plain "Block"), .addCard .opponent (.plain "Guard"), .chainCards ⟨1⟩ ⟨0⟩,
    .startBattle, .playCard, .playCard, .playCard, .playCard].foldl after (.fresh .standard 7)

theorem relay_reachable : relay.Reachable :=
  (Reachable.fresh .standard 7).foldl (by simp)

/-- After a turn of the opponent the user goes on with the card that follows,
although its own card has gone out of play. -/
theorem relay_handed_over :
    ∃ later, playedCards .user (relay.history [.playCard, .runTurn, .startTurn, .runTurn]) =
      ⟨1⟩ :: ⟨0⟩ :: later := by
  have events : (relay.playCard.map fun outcome => outcome.2.events) =
      .ok [.turnStarted .user 4, .cardPlayed .user ⟨1⟩, .cardTrashed .user ⟨1⟩,
        .turnEnded .user] := by
    decide +kernel
  obtain ⟨⟨next, report⟩, ok, told⟩ := of_map_eq_ok events
  have done : relay.perform .playCard = .ok (next, .played report) := by
    rw [perform, ok]
    rfl
  have split : relay.history [.playCard, .runTurn, .startTurn, .runTurn] =
      report.events ++ next.history [.runTurn, .startTurn, .runTurn] := by
    rw [history, told_of_perform done, after_of_perform done]
    rfl
  have several : playedCards .user
      (relay.history [.playCard, .runTurn, .startTurn, .runTurn]) ≠ [⟨1⟩] := by
    decide +kernel
  have played : .cardPlayed .user ⟨1⟩ ∈ report.events := by
    rw [show report.events = _ from told]
    decide
  have step : relay.pool.chains.successor? ⟨1⟩ = some ⟨0⟩ := by decide +kernel
  have inside : ⟨0⟩ ∈ (relay.combatant .user).deck := by decide +kernel
  have playing : ∀ action ∈ [Action.runTurn, .startTurn, .runTurn], action.playsOn = true := by
    decide
  rw [split] at several ⊢
  rcases relay_reachable.successor_is_played_next ok played step inside playing with alone | goesOn
  · exact absurd alone several
  · exact goesOn

end CardBattle.Game
