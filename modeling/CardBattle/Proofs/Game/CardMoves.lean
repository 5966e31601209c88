/-
Module: CardBattle.Proofs.Game.CardMoves
Purpose: What a play does to the piles of both sides, and the cards that it tells of.
Main exports:
  Game.openTurn_quiet, Game.endTurn_quiet, Game.playedCards_resolveFromDeck, Game.MovesCards,
  Game.Played.movesCards, Game.playCard_movesCards
-/
import CardBattle.Proofs.Cards.Rotation
import CardBattle.Proofs.Game.Plays
import CardBattle.Proofs.Resolution.Tally

/-!
# Cards that move in a play

Only a card that resolves moves, and only it is told of as played.  All else that belongs to a play,
such as turns that start and end or stacks that are spent, leaves the belongings of both sides alone.
So a play either moves no card, or puts away the card under the cursor of the active side.
-/

namespace CardBattle

theorem Combatant.piles_of_belongings {c d : Combatant} (same : d.belongings = c.belongings) :
    d.piles = c.piles :=
  congrArg (fun b : Belongings => (⟨b.deck, b.trashed, b.cursor⟩ : Piles)) same

namespace Game

theorem currentCard?_of_belongings {c d : Combatant} (same : d.belongings = c.belongings) :
    d.currentCard? = c.currentCard? := by
  have deck : d.deck = c.deck := congrArg Belongings.deck same
  have cursor : d.cursor = c.cursor := congrArg Belongings.cursor same
  rw [Combatant.currentCard?, deck, cursor, Combatant.currentCard?]

/-! ### Steps that tell of no card -/

/-- A turn that starts moves no card and tells of none, so the card that is
played in it was under the cursor before. -/
theorem startTurn_quiet {g next : Game} {events : List BattleEvent}
    (ok : g.startTurn = .ok (next, events)) :
    next.pool = g.pool ∧ (∀ side, (next.combatant side).belongings = (g.combatant side).belongings) ∧
      ∀ event ∈ events, ∀ side, event.playedBy? side = none := by
  obtain ⟨-, c, told, -, rfl, begun⟩ := of_startTurn_eq_ok ok
  have table := table_startTurn ok
  refine ⟨congrArg Table.pool table,
    belongings_of_table (g := { g with turnPhase := .playing }) table, ?_⟩
  rcases begun with ⟨-, rfl⟩ | ⟨-, rfl⟩
  · simp [BattleEvent.playedBy?]
  · simp [BattleEvent.playedBy?]

theorem openTurn_quiet {g opened : Game} {events : List BattleEvent}
    (ok : g.openTurn = .ok (opened, events)) :
    (∀ side, (opened.combatant side).belongings = (g.combatant side).belongings) ∧
      ∀ side, playedCards side events = [] := by
  rcases of_openTurn_eq_ok ok with starts | ⟨rfl, rfl⟩
  · obtain ⟨-, same, silent⟩ := startTurn_quiet starts
    exact ⟨same, fun side => List.filterMap_eq_nil_iff.mpr fun event mem => silent event mem side⟩
  · exact ⟨fun _ => rfl, fun _ => rfl⟩

theorem endTurn_quiet {g next : Game} {events : List BattleEvent}
    (ok : g.endTurn = .ok (next, events)) (side : Side) : playedCards side events = [] := by
  obtain ⟨-, -, rfl⟩ := of_endTurn_eq_ok ok
  rfl

/-- A card that resolves tells of no other card: it is the one play of the
active side, and the other side plays nothing. -/
theorem playedCards_resolveFromDeck {g after : Game} {id : CardId} {events : List BattleEvent}
    (ok : g.resolveFromDeck id = .ok (after, events)) (side : Side) :
    playedCards side events = if g.active = side then [id] else [] := by
  obtain ⟨card, resolved, told, rest, trashed, -, settled, -, -, rfl⟩ :=
    of_resolveFromDeck_eq_ok ok
  have quiet : playedCards side told = [] := by
    refine List.filterMap_eq_nil_iff.mpr fun event mem => ?_
    have byCard := resolveCard_byCard settled event mem
    cases event with
    | cardPlayed => exact byCard.elim
    | _ => rfl
  have last : playedCards side (if trashed then [.cardTrashed g.active id] else []) = [] := by
    split <;> rfl
  rw [List.cons_append, ← List.singleton_append, playedCards_append, playedCards_append, quiet,
    last, List.append_nil, List.append_nil]
  by_cases own : g.active = side
  · simp [playedCards, BattleEvent.playedBy?, own]
  · simp [playedCards, BattleEvent.playedBy?, own]

/-! ### Cards that move -/

/-- What a play does to the piles of both sides, and the cards that it tells of. -/
inductive MovesCards (g after : Game) (events : List BattleEvent) : Prop where
  /-- No card moves. -/
  | none (same : ∀ side, (after.combatant side).piles = (g.combatant side).piles)
      (silent : ∀ side, playedCards side events = [])
  /-- The card under the cursor of the active side is played and put away. -/
  | one {id : CardId} {card : Card} (current : (g.combatant g.active).currentCard? = some id)
      (stored : g.pool.card? id = some card)
      (away : (after.combatant g.active).piles =
        ((g.combatant g.active).putAway id card.trashOnPlay).1.piles)
      (other : (after.combatant g.active.other).piles = (g.combatant g.active.other).piles)
      (told : ∀ side, playedCards side events = if g.active = side then [id] else [])

/-- The active side puts the card away, as its text says, and the piles of the
other side stay. -/
theorem resolveFromDeck_piles {g after : Game} {id : CardId} {events : List BattleEvent}
    (ok : g.resolveFromDeck id = .ok (after, events)) :
    ∃ card, g.pool.card? id = some card ∧
      (after.combatant g.active).piles =
        ((g.combatant g.active).putAway id card.trashOnPlay).1.piles ∧
      (after.combatant g.active.other).piles = (g.combatant g.active.other).piles := by
  obtain ⟨card, resolved, told, rest, trashed, stored, settled, away, rfl, -⟩ :=
    of_resolveFromDeck_eq_ok ok
  have table : resolved.table = g.table :=
    (resolveCard_table settled).trans (table_updateCombatant rfl)
  have same : ∀ side, (resolved.combatant side).piles = (g.combatant side).piles :=
    fun side => Combatant.piles_of_belongings (belongings_of_table table side)
  have put := Combatant.piles_putAway (d := { resolved.combatant g.active with
    previousCard := some id }) (same g.active) id card.trashOnPlay
  refine ⟨card, stored, ?_, ?_⟩
  · rw [setCombatant, combatant_updateCombatant_self, ← put, away]
  · rw [setCombatant, combatant_updateCombatant_other]
    exact same _

/-- A card that resolves in an opened turn moves as told, and what comes after
it moves nothing. -/
theorem movesCards_of_resolves {g opened resolved after : Game} {id : CardId}
    {opening happened events : List BattleEvent} (opens : g.openTurn = .ok (opened, opening))
    (current : (opened.combatant g.active).currentCard? = some id)
    (resolves : opened.resolveFromDeck id = .ok (resolved, happened))
    (last : ∀ side, (after.combatant side).piles = (resolved.combatant side).piles)
    (told : ∀ side, playedCards side events = playedCards side (opening ++ happened)) :
    g.MovesCards after events := by
  obtain ⟨same, quiet⟩ := openTurn_quiet opens
  obtain ⟨pool, active⟩ := openTurn_frame opens
  obtain ⟨card, stored, away, other⟩ := resolveFromDeck_piles resolves
  have kept : ∀ side, (opened.combatant side).piles = (g.combatant side).piles :=
    fun side => Combatant.piles_of_belongings (same side)
  rw [active] at away other
  rw [pool] at stored
  rw [currentCard?_of_belongings (same g.active)] at current
  apply MovesCards.one current stored
  · rw [last, away]
    exact Combatant.piles_putAway (kept g.active) id card.trashOnPlay
  · rw [last, other]
    exact kept g.active.other
  · intro side
    rw [told, playedCards_append, quiet, List.nil_append, playedCards_resolveFromDeck resolves,
      active]

theorem piles_addStatus (g : Game) (side : Side) (s : Status) (addend : Binary64) (party : Side) :
    ((g.setCombatant side ((g.combatant side).addStatus s addend)).combatant party).piles =
      (g.combatant party).piles :=
  view_updateCombatant Combatant.piles
    (Combatant.piles_of_belongings (Combatant.belongings_addStatus ..)) party

theorem piles_consumeExtraPlay {g next : Game} (ok : g.consumeExtraPlay = .ok next)
    (party : Side) : (next.combatant party).piles = (g.combatant party).piles := by
  rw [of_consumeExtraPlay_eq_ok ok]
  exact piles_addStatus ..

theorem piles_endTurn {g next : Game} {events : List BattleEvent}
    (ok : g.endTurn = .ok (next, events)) (party : Side) :
    (next.combatant party).piles = (g.combatant party).piles := by
  obtain ⟨-, rfl, -⟩ := of_endTurn_eq_ok ok
  rfl

/-- Each way in which a play can go moves one card or none. -/
theorem Played.movesCards {g after : Game} {report : PlayReport} (played : g.Played after report) :
    g.MovesCards after report.events := by
  cases played with
  | stunned opens spent ends =>
      obtain ⟨same, quiet⟩ := openTurn_quiet opens
      rw [Combatant.of_spend?_eq_some spent] at ends
      apply MovesCards.none
      · intro side
        rw [piles_endTurn ends, piles_addStatus]
        exact Combatant.piles_of_belongings (same side)
      · intro side
        rw [playedCards_append, playedCards_append, quiet, endTurn_quiet ends]
        rfl
  | @exhausted opened _ opens =>
      obtain ⟨same, quiet⟩ := openTurn_quiet opens
      apply MovesCards.none
      · intro side
        rw [← Combatant.piles_of_belongings (same side)]
        exact view_updateCombatant Combatant.piles (g := { opened with phase := .over }) rfl side
      · intro side
        rw [exhaust, playedCards_append, quiet]
        rfl
  | decided opens _ current resolves =>
      exact movesCards_of_resolves opens current resolves (fun _ => rfl) fun _ => rfl
  | again opens _ current resolves _ _ spends =>
      exact movesCards_of_resolves opens current resolves (piles_consumeExtraPlay spends)
        fun _ => rfl
  | passed opens _ current resolves _ _ ends =>
      apply movesCards_of_resolves opens current resolves (piles_endTurn ends)
      intro side
      rw [playedCards_append, endTurn_quiet ends, List.append_nil]

/-- A play moves the card that it tells of and no other one. -/
theorem playCard_movesCards {g next : Game} {report : PlayReport}
    (ok : g.playCard = .ok (next, report)) : g.MovesCards next report.events :=
  (playCard_played ok).2.movesCards

end Game

end CardBattle
