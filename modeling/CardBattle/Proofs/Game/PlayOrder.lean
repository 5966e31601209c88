/-
Module: CardBattle.Proofs.Game.PlayOrder
Purpose: In battle a card that follows another is played right after it.
Main exports:
  Chains.Contiguous.place_of_follows, Combatant.eq_of_follows_current, lastPlayed?,
  Game.InOrder, Game.inOrder_law, Game.linked_card_played_after_its_predecessor,
  Game.crossedDeck_plays_follower_first
-/
import CardBattle.Proofs.Game.CardMoves
import CardBattle.Proofs.Game.Cards

/-!
# The order of play

A deck keeps linked cards side by side, and putting a card away moves the cursor to the card behind
it, or around to the first one.  So a card under the cursor whose predecessor is in the deck comes
right after that predecessor has been played.

The first card that a side plays in a battle is another matter.  It is the card on which the cursor
stood before, and linking cards between two battles leaves the cursor on its card.
-/

namespace CardBattle

/-- In a deck that respects the links a card stands right behind the one that it
follows. -/
theorem Chains.Contiguous.place_of_follows {chains : Chains} {deck : List CardId}
    (contiguous : chains.Contiguous deck) (distinct : deck.Nodup) {first second : CardId}
    (step : chains.Follows first second) (inside : first ∈ deck) {place : Nat}
    (here : deck[place]? = some second) :
    ∃ before, place = before + 1 ∧ deck[before]? = some first := by
  obtain ⟨before, found⟩ := List.mem_iff_getElem?.mp inside
  have next := contiguous.getElem?_succ distinct step (List.mem_of_getElem? here) found
  obtain ⟨fits, -⟩ := List.getElem?_eq_some_iff.mp here
  exact ⟨before, (List.getElem?_inj fits distinct).mp (here.trans next.symm), found⟩

namespace Combatant

/-- After a card has been passed over, only it can be the predecessor in the
deck of the card under the cursor. -/
theorem eq_of_follows_advanced {c : Combatant} {chains : Chains}
    (contiguous : chains.Contiguous c.deck) (distinct : c.deck.Nodup) {id leading next : CardId}
    (current : c.currentCard? = some id) (later : c.advanceCursor.currentCard? = some next)
    (step : chains.Follows leading next) (inside : leading ∈ c.deck) : leading = id := by
  have here : c.deck[c.advanceCursor.cursor]? = some next := later
  obtain ⟨before, place, found⟩ := contiguous.place_of_follows distinct step inside here
  have some_card : c.deck.isEmpty = false := by
    rw [List.isEmpty_eq_false_iff]
    exact List.ne_nil_of_mem inside
  have moved : c.advanceCursor.cursor = (c.cursor + 1) % c.deck.length := by
    simp [advanceCursor, some_card]
  obtain ⟨fits, -⟩ := List.getElem?_eq_some_iff.mp (show c.deck[c.cursor]? = some id from current)
  have behind : before = c.cursor := by
    rw [moved] at place
    by_cases last : c.cursor + 1 = c.deck.length
    · -- The cursor has gone around to the first card, and no card is before it.
      rw [last, Nat.mod_self] at place
      omega
    · rw [Nat.mod_eq_of_lt (by omega)] at place
      omega
  rw [behind] at found
  exact Option.some.inj (found.symm.trans current)

/-- After a card has been trashed, the card under the cursor has no predecessor
in the deck. -/
theorem eq_of_follows_trashed {c : Combatant} {chains : Chains}
    (contiguous : chains.Contiguous c.deck) (distinct : c.deck.Nodup) {id leading next : CardId}
    (current : c.currentCard? = some id) (later : (c.trashAt c.cursor id).currentCard? = some next)
    (step : chains.Follows leading next) (inside : leading ∈ (c.trashAt c.cursor id).deck) :
    leading = id := by
  have kept : leading ∈ c.deck := List.mem_of_mem_eraseIdx inside
  obtain ⟨fits, -⟩ := List.getElem?_eq_some_iff.mp (show c.deck[c.cursor]? = some id from current)
  have size : (c.deck.eraseIdx c.cursor).length = c.deck.length - 1 :=
    List.length_eraseIdx_of_lt fits
  have moved : (c.trashAt c.cursor id).cursor =
      if c.deck.length - 1 ≤ c.cursor then 0 else c.cursor := by
    simp [trashAt, dropAt, fixCursor, size]
  have here : (c.deck.eraseIdx c.cursor)[(c.trashAt c.cursor id).cursor]? = some next := later
  rw [moved, List.getElem?_eraseIdx] at here
  by_cases last : c.deck.length - 1 ≤ c.cursor
  · -- The cursor has gone around to the first card, which follows none.
    rw [if_pos last] at here
    by_cases first : 0 < c.cursor
    · rw [if_pos first] at here
      obtain ⟨before, place, -⟩ := contiguous.place_of_follows distinct step kept here
      omega
    · rw [if_neg first] at here
      obtain ⟨single, -⟩ := List.getElem?_eq_some_iff.mp here
      omega
  · rw [if_neg last, if_neg (Nat.lt_irrefl _)] at here
    obtain ⟨before, place, found⟩ := contiguous.place_of_follows distinct step kept here
    rw [← Nat.succ.inj place] at found
    exact Option.some.inj (found.symm.trans current)

/-- A card that has been played is trashed from where it is in the deck, or the
cursor passes over it. -/
theorem putAway_eq (c : Combatant) (id : CardId) (trash : Bool) :
    (∃ index, c.deckPosition? id = some index ∧ (c.putAway id trash).1 = c.trashAt index id) ∨
      (c.putAway id trash).1 = c.advanceCursor := by
  unfold putAway
  split
  · rename_i index found
    exact .inl ⟨index, found, rfl⟩
  · exact .inr rfl

/-- After a card has been put away, only it can be the predecessor in the deck
of the card under the cursor. -/
theorem eq_of_follows_current {c : Combatant} {chains : Chains}
    (contiguous : chains.Contiguous c.deck) (distinct : c.deck.Nodup) {id leading next : CardId}
    {trash : Bool} (current : c.currentCard? = some id)
    (later : (c.putAway id trash).1.currentCard? = some next)
    (step : chains.Follows leading next) (inside : leading ∈ (c.putAway id trash).1.deck) :
    leading = id := by
  rcases putAway_eq c id trash with ⟨index, found, away⟩ | away
  · rw [away] at later inside
    obtain rfl := deckPosition?_current distinct current found
    exact eq_of_follows_trashed contiguous distinct current later step inside
  · rw [away] at later inside
    exact eq_of_follows_advanced contiguous distinct current later step inside

end Combatant

/-- The card that a side played last, by events. -/
def lastPlayed? (side : Side) (events : List BattleEvent) : Option CardId :=
  (playedCards side events).getLast?

/-- The last card that two logs tell of is that of the second, or that of the
first if the second tells of none. -/
theorem lastPlayed?_append (side : Side) (first second : List BattleEvent) :
    lastPlayed? side (first ++ second) =
      (lastPlayed? side second).or (lastPlayed? side first) := by
  rw [lastPlayed?, playedCards_append, List.getLast?_append]
  rfl

namespace Game

/-- Of the cards in the deck only `id` can be one that the card under the cursor
follows. -/
def GoesOnFrom (g : Game) (side : Side) (id : CardId) : Prop :=
  ∀ leading next, (g.combatant side).currentCard? = some next →
    g.pool.chains.Follows leading next → leading ∈ (g.combatant side).deck → leading = id

/-- From one record to the other a side that played no card still has the same
one under its cursor, and one that did goes on in the order of its links. -/
structure InOrder (g : Game) (events : List BattleEvent) (h : Game) : Prop where
  tidy : h.Tidy
  pool : h.pool = g.pool
  still : ∀ side, lastPlayed? side events = none →
    (h.combatant side).deck = (g.combatant side).deck ∧
      (h.combatant side).cursor = (g.combatant side).cursor
  next : ∀ side id, lastPlayed? side events = some id → h.GoesOnFrom side id

namespace InOrder

variable {g h k : Game} {first second events : List BattleEvent}

/-- Plays that are in order one after the other are in order together.  What was
played last is handed on from the first to the second. -/
theorem trans (one : g.InOrder first h) (two : h.InOrder second k) :
    g.InOrder (first ++ second) k := by
  refine ⟨two.tidy, two.pool.trans one.pool, fun side none => ?_, fun side id last => ?_⟩
  · rw [lastPlayed?_append, Option.or_eq_none_iff] at none
    obtain ⟨deck, cursor⟩ := one.still side none.2
    obtain ⟨laterDeck, laterCursor⟩ := two.still side none.1
    exact ⟨laterDeck.trans deck, laterCursor.trans cursor⟩
  · rw [lastPlayed?_append] at last
    cases later : lastPlayed? side second with
    | some other =>
        rw [later, Option.some_or] at last
        exact two.next side id (later.trans last)
    | none =>
        rw [later, Option.none_or] at last
        obtain ⟨deck, cursor⟩ := two.still side later
        intro leading following current step inside
        rw [Combatant.currentCard?, deck, cursor] at current
        rw [two.pool] at step
        rw [deck] at inside
        exact one.next side id last leading following current step inside

/-- Steps that play no card and leave all belongings alone keep what has been
played last where it was. -/
theorem of_belongings (tidy : g.Tidy) (pool : h.pool = g.pool)
    (same : ∀ side, (h.combatant side).belongings = (g.combatant side).belongings)
    (silent : ∀ event ∈ events, ∀ side, event.playedBy? side = none) : g.InOrder events h := by
  refine ⟨tidy.congr pool same, pool, fun side _ => ⟨congrArg Belongings.deck (same side),
    congrArg Belongings.cursor (same side)⟩, fun side id last => ?_⟩
  have none : playedCards side events = [] :=
    List.filterMap_eq_nil_iff.mpr fun event mem => silent event mem side
  rw [lastPlayed?, none] at last
  cases last

theorem of_table (tidy : g.Tidy) (same : h.table = g.table)
    (silent : ∀ event ∈ events, ∀ side, event.playedBy? side = none) : g.InOrder events h :=
  .of_belongings tidy (congrArg Table.pool same) (belongings_of_table same) silent

end InOrder

theorem endTurn_inOrder {g next : Game} {events : List BattleEvent} (tidy : g.Tidy)
    (ok : g.endTurn = .ok (next, events)) : g.InOrder events next := by
  obtain ⟨-, rfl, rfl⟩ := of_endTurn_eq_ok ok
  exact .of_belongings tidy rfl (fun _ => rfl) (by simp [BattleEvent.playedBy?])

/-- A card that is played under the cursor follows its predecessor, if that was
played before it, and hands the turn of play on to its successor. -/
theorem resolveFromDeck_inOrder {g after : Game} {id : CardId} {events : List BattleEvent}
    (tidy : g.Tidy) (current : (g.combatant g.active).currentCard? = some id)
    (ok : g.resolveFromDeck id = .ok (after, events)) : g.InOrder events after := by
  have played := playedCards_resolveFromDeck ok
  have later := tidy.resolveFromDeck ok
  obtain ⟨card, resolved, told, rest, trashed, -, settled, away, rfl, -⟩ :=
    of_resolveFromDeck_eq_ok ok
  have table : resolved.table = g.table :=
    (resolveCard_table settled).trans (table_updateCombatant rfl)
  have pool : resolved.pool = g.pool := congrArg Table.pool table
  have same := belongings_of_table table
  refine ⟨later, pool, fun side none => ?_, fun side other last => ?_⟩
  · rw [lastPlayed?, played] at none
    rcases Side.eq_or_eq_other side g.active with rfl | rfl
    · simp at none
    · rw [setCombatant, combatant_updateCombatant_other]
      exact ⟨congrArg Belongings.deck (same _), congrArg Belongings.cursor (same _)⟩
  · rw [lastPlayed?, played] at last
    rcases Side.eq_or_eq_other side g.active with rfl | rfl
    · obtain rfl : id = other := by simpa using last
      have deck : (resolved.combatant g.active).deck = (g.combatant g.active).deck :=
        congrArg Belongings.deck (same _)
      have cursor : (resolved.combatant g.active).cursor = (g.combatant g.active).cursor :=
        congrArg Belongings.cursor (same _)
      have held : { resolved.combatant g.active with previousCard := some id }.Holds resolved.pool
          g.active := ((tidy.of_table table).held g.active).congr rfl rfl
      have before : { resolved.combatant g.active with previousCard := some id }.currentCard? =
          some id := by
        rw [← current, Combatant.currentCard?, Combatant.currentCard?, ← deck, ← cursor]
      intro leading next following step inside
      rw [setCombatant, combatant_updateCombatant_self] at following inside
      rw [show rest = _ from (congrArg Prod.fst away).symm] at following inside
      exact Combatant.eq_of_follows_current held.contiguous held.deck_nodup before following step
        inside
    · simp at last

/-- Plays follow the links of the cards.  The law is one for tidy records, as
linked cards have to lie side by side. -/
theorem inOrder_law : PlayLaw (fun _ => False) fun g events h => g.Tidy → g.InOrder events h where
  still _ tidy := .of_table tidy rfl nofun
  andThen one two tidy := (one tidy).trans (two (one tidy).tidy)
  startTurn ok tidy := by
    obtain ⟨pool, same, silent⟩ := startTurn_quiet ok
    exact .of_belongings tidy pool same silent
  endTurn ok tidy := endTurn_inOrder tidy ok
  stunned spent tidy := by
    rw [Combatant.of_spend?_eq_some spent]
    exact .of_table tidy (table_updateCombatant (Combatant.belongings_addStatus ..))
      (by simp [BattleEvent.playedBy?])
  consumeExtraPlay ok tidy := by
    rw [of_consumeExtraPlay_eq_ok ok]
    exact .of_table tidy (table_updateCombatant (Combatant.belongings_addStatus ..)) nofun
  resolveFromDeck _ current _ ok tidy := resolveFromDeck_inOrder tidy current ok
  exhaust {g} _ _ tidy :=
    .of_belongings tidy rfl
      (view_updateCombatant Combatant.belongings (g := { g with phase := .over }) rfl)
      (by simp [exhaust, BattleEvent.playedBy?])
  decide _ tidy := .of_belongings tidy rfl (fun _ => rfl) nofun

/-! ### The card of a play -/

/-- A play tells of no card but the one under the cursor of the active side, and
of that one once. -/
theorem Played.playedCards_eq {g after : Game} {report : PlayReport}
    (played : g.Played after report) (side : Side) :
    playedCards side report.events = [] ∨
      ∃ id, (g.combatant side).currentCard? = some id ∧
        playedCards side report.events = [id] := by
  cases played.movesCards with
  | none _ silent => exact .inl (silent side)
  | @one id _ current _ _ _ told =>
      by_cases own : g.active = side
      · exact .inr ⟨id, own ▸ current, (told side).trans (if_pos own)⟩
      · exact .inl ((told side).trans (if_neg own))

/-- A card that plays tell of was under the cursor, and no card of its side came
between. -/
theorem PlayedAt.current {start g : Game} {before : List BattleEvent} {side : Side} {id : CardId}
    (played : start.PlayedAt before side id g) :
    (g.combatant side).currentCard? = some id ∧
      ∃ told, start.Plays told g ∧ lastPlayed? side before = lastPlayed? side told := by
  obtain ⟨told, opening, next, report, later, plays, ok, rfl, split⟩ := played
  have cards : playedCards side report.events =
      playedCards side opening ++ id :: playedCards side later := by
    rw [split, playedCards_append]
    simp [playedCards, BattleEvent.playedBy?]
  rcases (playCard_played ok).2.playedCards_eq side with none | ⟨other, current, one⟩
  · rw [cards] at none
    simp at none
  · rw [cards] at one
    obtain ⟨quiet, same⟩ : playedCards side opening = [] ∧ id = other := by
      cases opened : playedCards side opening with
      | nil =>
          rw [opened] at one
          exact ⟨rfl, (List.cons.inj one).1⟩
      | cons first rest =>
          rw [opened] at one
          simp at one
    refine ⟨same ▸ current, told, plays, ?_⟩
    rw [lastPlayed?_append, lastPlayed?, quiet]
    rfl

/-- In battle a card whose predecessor is in the deck is played right after it,
unless it is the first card that its side plays; then it is the one on which the
cursor stood before the battle. -/
theorem linked_card_played_after_its_predecessor {g started : Game} {opening : List BattleEvent}
    (reached : g.Reachable) (starts : g.startBattle = .ok (started, opening))
    {calls : List Action} (playing : ∀ action ∈ calls, action.plays = true) {side : Side}
    {id : CardId} {before later : List BattleEvent}
    (told : started.history calls = before ++ .cardPlayed side id :: later) :
    (∃ moment, started.PlayedAt before side id moment) ∧
    ∀ moment, started.PlayedAt before side id moment →
      ∀ leading, moment.pool.chains.predecessor? id = some leading →
        leading ∈ (moment.combatant side).deck →
        lastPlayed? side before = some leading ∨
          lastPlayed? side before = none ∧ (g.combatant side).currentCard? = some id := by
  constructor
  · exact (Plays.of_history playing).playedAt told
  · intro moment played leading step inside
    have tidy : started.Tidy := reached.tidy.startBattle starts
    obtain ⟨current, told, plays, last⟩ := played.current
    have inOrder := inOrder_law.plays plays (.of_none _ _) tidy
    rw [last]
    cases earlier : lastPlayed? side told with
    | none =>
        obtain ⟨deck, cursor⟩ := inOrder.still side earlier
        have same := belongings_of_table (of_startBattle_eq_ok starts).2.1 side
        refine .inr ⟨rfl, ?_⟩
        rw [Combatant.currentCard?, deck, cursor] at current
        exact (currentCard?_of_belongings same).symm.trans current
    | some previous =>
        have follows := inOrder.tidy.sound.links.inverse.mpr step
        rw [inOrder.next side previous earlier leading id current follows inside]
        exact .inl rfl

/-- The requests that build a deck in which the card under the cursor is linked
behind the other. -/
def crossing : List Action :=
  [.addCard .user (.plain "Spark"), .addCard .user (.plain "Flame"),
    .addCard .opponent (.plain "Block"), .chainCards ⟨1⟩ ⟨0⟩]

/-- The record in which that deck has been built. -/
def crossedDeck : Game := crossing.foldl after (.fresh .standard 7)

theorem crossedDeck_reachable : crossedDeck.Reachable :=
  (Reachable.fresh .standard 7).foldl (by simp [crossing])

theorem crossedDeck_starts :
    crossedDeck.startBattle = .ok (crossedDeck.after .startBattle, [.battleStarted]) := by
  obtain ⟨started, starts, -⟩ :=
    exists_plays_of_idle (g := crossedDeck) (by decide +kernel) (List.forall_mem_nil _)
  have done : crossedDeck.perform .startBattle = .ok (started, .happened [.battleStarted]) := by
    rw [perform, starts]
    rfl
  rw [starts, after_of_perform done]

/-- The battle fought with it. -/
def crossedBattle : Game := crossedDeck.after .startBattle

/-- It does not hold of every battle that a card is only played right after the
one that it follows, even when the battle is the first of its run and only decks
have been built before: the card under the cursor is the first one to be played,
also if it has been linked behind another one. -/
theorem crossedDeck_plays_follower_first :
    ¬ ∀ (rules : Rules) (seed : UInt64) (setup : List Action) (started : Game)
      (opening : List BattleEvent) (calls : List Action) (side : Side) (id : CardId)
      (before later : List BattleEvent) (moment : Game) (leading : CardId),
      (∀ action ∈ setup, action.buildsDecks = true) →
      (setup.foldl after (.fresh rules seed)).startBattle = .ok (started, opening) →
      (∀ action ∈ calls, action.plays = true) →
      started.history calls = before ++ .cardPlayed side id :: later →
      started.PlayedAt before side id moment →
      moment.pool.chains.predecessor? id = some leading →
      leading ∈ (moment.combatant side).deck → lastPlayed? side before = some leading := by
  intro rule
  have events : (crossedBattle.playCard.map fun outcome => outcome.2.events) =
      .ok [.turnStarted .user 0, .cardPlayed .user ⟨0⟩, .turnEnded .user] := by
    decide +kernel
  obtain ⟨⟨next, report⟩, ok, told⟩ := of_map_eq_ok events
  have played : crossedBattle.PlayedAt [.turnStarted .user 0] .user ⟨0⟩ crossedBattle :=
    ⟨[], [.turnStarted .user 0], next, report, [.turnEnded .user], .none, ok, rfl, told⟩
  have building : ∀ action ∈ crossing, action.buildsDecks = true := by
    simp [crossing, Action.buildsDecks]
  have last := rule .standard 7 crossing crossedBattle [.battleStarted] [.playCard] .user ⟨0⟩
    [.turnStarted .user 0] [.turnEnded .user] crossedBattle ⟨1⟩ building crossedDeck_starts
    (by simp [Action.plays]) (by decide +kernel) played (by decide +kernel) (by decide +kernel)
  exact absurd last (by decide)

/-- Once the user has been around the deck, the two cards are played in the
order of their link. -/
theorem crossedDeck_follows_link :
    (∃ moment, crossedBattle.PlayedAt
      (crossedBattle.history (.replicate 4 .playCard) ++ [.turnStarted .user 4]) .user ⟨0⟩ moment) ∧
    lastPlayed? .user
      (crossedBattle.history (.replicate 4 .playCard) ++ [.turnStarted .user 4]) = some ⟨1⟩ := by
  have playing : ∀ action ∈ List.replicate 5 Action.playCard, action.plays = true := by
    simp [Action.plays]
  have told : crossedBattle.history (.replicate 5 .playCard) =
      (crossedBattle.history (.replicate 4 .playCard) ++ [.turnStarted .user 4]) ++
        .cardPlayed .user ⟨0⟩ :: [.turnEnded .user] := by
    decide +kernel
  obtain ⟨moments, rule⟩ := linked_card_played_after_its_predecessor crossedDeck_reachable
    crossedDeck_starts playing told
  refine ⟨moments, ?_⟩
  -- the record from which the fifth card is played
  have events : (((List.replicate 4 Action.playCard).foldl after crossedBattle).playCard.map
      fun outcome => outcome.2.events) =
        .ok [.turnStarted .user 4, .cardPlayed .user ⟨0⟩, .turnEnded .user] := by
    decide +kernel
  obtain ⟨⟨next, report⟩, ok, same⟩ := of_map_eq_ok events
  have played : crossedBattle.PlayedAt
      (crossedBattle.history (.replicate 4 .playCard) ++ [.turnStarted .user 4]) .user ⟨0⟩
      ((List.replicate 4 Action.playCard).foldl after crossedBattle) :=
    ⟨_, [.turnStarted .user 4], next, report, [.turnEnded .user],
      .of_history (by simp [Action.plays]), ok, rfl, same⟩
  rcases rule _ played ⟨1⟩ (by decide +kernel) (by decide +kernel) with last | ⟨none, -⟩
  · exact last
  · exact absurd none (by decide +kernel)

end Game

end CardBattle
