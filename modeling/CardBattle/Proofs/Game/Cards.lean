/-
Module: CardBattle.Proofs.Game.Cards
Purpose: In every run the cards of the pool are exactly those in the piles, and links are respected.
Main exports:
  Game.Tidy, Game.tidy_kept, Game.Reachable.tidy, Game.Mentions,
  Game.Reachable.cards_partitioned, Game.Reachable.chains_wellFormed,
  Game.Reachable.decks_contiguous
-/
import CardBattle.Proofs.Cards.Holdings
import CardBattle.Proofs.Game.DeckBuilding
import CardBattle.Proofs.Game.Requests
import CardBattle.Proofs.Random.Shuffle

/-!
# Cards in their places

`Tidy` is what all requests keep: a sound pool, and two combatants that hold exactly their cards.
Requests that play, pass or end something do not touch the pool, so they only have to keep the
piles; those that build decks change the pool and one side, and the other side looks on.
-/

namespace CardBattle

/-- A card without lines. -/
def Card.plain (name : String) : Card := { name := name, effects := [] }

namespace Game

open Relation (TransGen)

/-- The pool is sound and both sides hold exactly their cards. -/
structure Tidy (g : Game) : Prop where
  sound : g.pool.Sound
  held : ∀ side, (g.combatant side).Holds g.pool side

namespace Tidy

variable {g : Game}

/-- The record is tidy when the pool is sound and each of the two sides, however
they are named, holds its cards. -/
theorem of_sides {h : Game} (sound : h.pool.Sound) (side : Side)
    (own : (h.combatant side).Holds h.pool side)
    (other : (h.combatant side.other).Holds h.pool side.other) : h.Tidy := by
  refine ⟨sound, fun party => ?_⟩
  rcases Side.eq_or_eq_other party side with rfl | rfl
  · exact own
  · exact other

/-- A change of the pool and of one side, while the other looks on. -/
theorem of_update {pool : CardPool} {side : Side} {change : Combatant → Combatant}
    (sound : pool.Sound) (own : (change (g.combatant side)).Holds pool side)
    (other : (g.combatant side.other).Holds pool side.other) :
    ({ g with pool := pool }.updateCombatant side change).Tidy := by
  refine of_sides sound side ?_ ?_
  · rw [combatant_updateCombatant_self]
    exact own
  · rw [combatant_updateCombatant, if_neg side.other_ne]
    exact other

/-- A change of one side that keeps it in order leaves the whole record in
order. -/
theorem updateCombatant (tidy : g.Tidy) {side : Side} {change : Combatant → Combatant}
    (own : (change (g.combatant side)).Holds g.pool side) : (g.updateCombatant side change).Tidy :=
  of_update tidy.sound own (tidy.held side.other)

/-- Records with the same pool and the same belongings are tidy together. -/
theorem congr (tidy : g.Tidy) {h : Game} (pool : h.pool = g.pool)
    (same : ∀ side, (h.combatant side).belongings = (g.combatant side).belongings) : h.Tidy := by
  refine ⟨pool ▸ tidy.sound, fun side => ?_⟩
  rw [pool]
  exact (tidy.held side).congr (congrArg Belongings.deck (same side))
    (congrArg Belongings.trashed (same side))

/-- Pool and piles are on the table, so what keeps the table keeps every card in
its place. -/
theorem of_table (tidy : g.Tidy) {h : Game} (same : h.table = g.table) : h.Tidy :=
  tidy.congr (congrArg Table.pool same) (belongings_of_table same)

theorem fresh (rules : Rules) (seed : UInt64) : (Game.fresh rules seed).Tidy := by
  refine ⟨.empty, fun side => ?_⟩
  cases side <;> exact .of_no_cards (fun _ => nofun) rfl rfl

/-! ### Battles and turns -/

theorem startBattle (tidy : g.Tidy) {after : Game} {events : List BattleEvent}
    (ok : g.startBattle = .ok (after, events)) : after.Tidy := by
  obtain ⟨-, same, -⟩ := of_startBattle_eq_ok ok
  have begun : ({ g with phase := .active, turnPhase := .start }.setTurn 0).Tidy :=
    ⟨tidy.sound, tidy.held⟩
  exact begun.of_table same

theorem endBattle (tidy : g.Tidy) {after : Game} {result : BattleResult}
    (ok : g.endBattle = .ok (after, result)) : after.Tidy := by
  unfold Game.endBattle at ok
  split at ok
  · cases ok
  · rename_i winner decided
    cases ok
    -- The score is the only field that depends on the winner.
    refine ⟨?_, fun side => ?_⟩
    · cases winner <;> exact tidy.sound
    · cases winner <;> cases side <;> exact (tidy.held _).congr rfl rfl

theorem startTurn (tidy : g.Tidy) {after : Game} {events : List BattleEvent}
    (ok : g.startTurn = .ok (after, events)) : after.Tidy := by
  have playing : { g with turnPhase := .playing }.Tidy := ⟨tidy.sound, tidy.held⟩
  exact playing.of_table (table_startTurn ok)

theorem endTurn (tidy : g.Tidy) {after : Game} {events : List BattleEvent}
    (ok : g.endTurn = .ok (after, events)) : after.Tidy := by
  obtain ⟨-, rfl, -⟩ := of_endTurn_eq_ok ok
  exact ⟨tidy.sound, tidy.held⟩

theorem openTurn (tidy : g.Tidy) {after : Game} {events : List BattleEvent}
    (ok : g.openTurn = .ok (after, events)) : after.Tidy := by
  rcases of_openTurn_eq_ok ok with starts | ⟨rfl, -⟩
  · exact tidy.startTurn starts
  · exact tidy

theorem addStatus (tidy : g.Tidy) (side : Side) (s : Status) (addend : Binary64) :
    (g.setCombatant side ((g.combatant side).addStatus s addend)).Tidy :=
  tidy.of_table (table_updateCombatant (Combatant.belongings_addStatus ..))

/-- A further play is a counter and not a card. -/
theorem consumeExtraPlay (tidy : g.Tidy) {after : Game} (ok : g.consumeExtraPlay = .ok after) :
    after.Tidy := by
  rw [of_consumeExtraPlay_eq_ok ok]
  exact tidy.addStatus ..

/-- Only putting the card away moves a card. -/
theorem resolveFromDeck (tidy : g.Tidy) {after : Game} {id : CardId} {events : List BattleEvent}
    (ok : g.resolveFromDeck id = .ok (after, events)) : after.Tidy := by
  obtain ⟨card, resolved, told, rest, trashed, -, settled, away, rfl, -⟩ :=
    of_resolveFromDeck_eq_ok ok
  have counted : (g.updateCombatant g.active fun c =>
      { c with cardsPlayedThisTurn := c.cardsPlayedThisTurn + 1 }).Tidy :=
    tidy.of_table (table_updateCombatant rfl)
  have settled : resolved.Tidy := counted.of_table (resolveCard_table settled)
  refine settled.updateCombatant ?_
  have held : { resolved.combatant g.active with previousCard := some id }.Holds resolved.pool
      g.active := (settled.held g.active).congr rfl rfl
  have put := held.putAway id card.trashOnPlay
  rwa [away] at put

/-- A play can open the turn, resolve and put away one card, spend a counter and
pass the turn; its steps are tidy one by one. -/
theorem playCard (tidy : g.Tidy) {after : Game} {report : PlayReport}
    (ok : g.playCard = .ok (after, report)) : after.Tidy := by
  obtain ⟨-, played⟩ := playCard_played ok
  cases played with
  | stunned opens spent ends =>
      rw [Combatant.of_spend?_eq_some spent] at ends
      exact ((tidy.openTurn opens).addStatus ..).endTurn ends
  | @exhausted opened _ opens =>
      have ended : { opened with phase := .over }.Tidy :=
        ⟨(tidy.openTurn opens).sound, (tidy.openTurn opens).held⟩
      exact ended.of_table (table_updateCombatant rfl)
  | decided opens _ _ resolves =>
      have resolved := (tidy.openTurn opens).resolveFromDeck resolves
      exact ⟨resolved.sound, resolved.held⟩
  | again opens _ _ resolves _ _ spends =>
      exact ((tidy.openTurn opens).resolveFromDeck resolves).consumeExtraPlay spends
  | passed opens _ _ resolves _ _ ends =>
      exact ((tidy.openTurn opens).resolveFromDeck resolves).endTurn ends

/-! ### Building decks -/

/-- The new card is stored and listed in the same request, at the bottom of its
owner's deck. -/
theorem addCard (tidy : g.Tidy) (side : Side) (card : Card) : (g.addCard side card).1.Tidy :=
  of_update (tidy.sound.insert card side) ((tidy.held side).gain tidy.sound card)
    ((tidy.held side.other).look_on_insert tidy.sound card side.ne_other)

theorem addCards (tidy : g.Tidy) (side : Side) (cards : List Card) :
    (g.addCards side cards).Tidy := by
  induction cards generalizing g with
  | nil => exact tidy
  | cons card rest ih => exact ih (tidy.addCard side card)

/-- The card leaves the pool with its links and the piles of its owner; nothing
is left of it on either side. -/
theorem removeCard (tidy : g.Tidy) {after : Game} {id : CardId} {card : Card}
    (ok : g.removeCard id = .ok (after, card)) : after.Tidy := by
  obtain ⟨owner, owned, rfl⟩ := of_removeCard_eq_ok ok
  apply of_update (tidy.sound.erase id) ((tidy.held owner).forget tidy.sound id)
  apply (tidy.held owner.other).look_on_erase tidy.sound
  simp [owned]

/-- Rearranging a deck for links that its owner's cards alone have got. -/
theorem rearrange {pool : CardPool} {side : Side} (sound : pool.Sound)
    (own : ∀ c : Combatant, c.deck = pool.chains.arrange (g.combatant side).deck →
      c.trashed = (g.combatant side).trashed → c.Holds pool side)
    (other : (g.combatant side.other).Holds pool side.other) :
    ({ g with pool := pool }.rearrange side).Tidy :=
  of_update sound (own _ rfl rfl) other

/-- The deck is arranged for the new link at once, so it respects the links
again when the request is done. -/
theorem chainCards (tidy : g.Tidy) {after : Game} {first second : CardId}
    (ok : g.chainCards first second = .ok after) : after.Tidy := by
  obtain ⟨owner, chains, one, two, fits, rfl⟩ := chainCards_eq_ok_iff.mp ok
  refine rearrange (tidy.sound.link one two fits) (fun c deck trashed => ?_) ?_
  · exact (tidy.held owner).arrange (tidy.sound.links.link fits) (.refl _) deck trashed
  · refine (tidy.held owner.other).look_on_link fits ?_
    simp [one]

/-- Fewer links ask for less, so the deck may stay in its order. -/
theorem unlinkCard (tidy : g.Tidy) {after : Game} {id : CardId}
    (ok : g.unlinkCard id = .ok after) : after.Tidy := by
  obtain rfl := of_unlinkCard_eq_ok ok
  exact ⟨tidy.sound.unlink id, fun side => (tidy.held side).unlink tidy.sound id⟩

theorem addRelic (tidy : g.Tidy) (side : Side) (relic : Relic) : (g.addRelic side relic).Tidy :=
  tidy.updateCombatant ((tidy.held side).congr rfl rfl)

/-- The cards of the opponent before leave the pool together with its piles. -/
theorem loadOpponent (tidy : g.Tidy) {after : Game} {enemy : Enemy}
    (ok : g.loadOpponent enemy = .ok after) : after.Tidy := by
  obtain ⟨-, rfl⟩ := of_loadOpponent_eq_ok ok
  refine addCards ?_ .opponent enemy.cards
  have old := (tidy.held .opponent).owned
  -- The piles were all that the opponent owned, so nothing is left in its name.
  have none : ∀ id, ((g.combatant .opponent).cards.foldl CardPool.erase g.pool).owner? id ≠
      some .opponent := by
    intro id owned
    rw [CardPool.owner?_eraseAll] at owned
    split at owned
    · cases owned
    · rename_i outside
      exact outside ((old id).mpr owned)
  refine of_sides (tidy.sound.eraseAll _) .opponent ?_ ?_
  · exact .of_no_cards none rfl rfl
  · refine (tidy.held .user).look_on_eraseAll tidy.sound fun id mem owned => ?_
    rw [(old id).mp mem] at owned
    cases owned

/-- After a reset pool and piles are empty, whatever the record was before. -/
theorem resetRun (g : Game) : g.resetRun.Tidy := by
  refine ⟨.clear g.pool, fun side => ?_⟩
  cases side <;> exact .of_no_cards (fun _ => nofun) rfl rfl

/-! ### Moving cards of a deck -/

/-- Passing a card over moves the cursor and no card. -/
theorem discardCurrent (tidy : g.Tidy) (side : Side) : (g.discardCurrent side).1.Tidy := by
  unfold Game.discardCurrent
  split
  · exact tidy.updateCombatant ((tidy.held side).congr rfl rfl)
  · exact tidy

/-- A card goes from the deck to the trashed pile of the same side and stays
that side's own. -/
theorem trashAt (tidy : g.Tidy) (side : Side) (index : Nat) : (g.trashAt side index).1.Tidy := by
  unfold Game.trashAt
  split
  · rename_i here
    exact tidy.updateCombatant ((tidy.held side).trashAt here)
  · exact tidy

/-- A shuffle permutes the deck and arranges it afterwards, so that chains come
out in one piece. -/
theorem shuffleDeck (tidy : g.Tidy) (side : Side) : (g.shuffleDeck side).1.Tidy := by
  rw [fst_shuffleDeck]
  refine of_update (g := { g with dice := (g.dice.shuffle (g.combatant side).deck).2 })
    tidy.sound ?_ (tidy.held side.other)
  exact (tidy.held side).arrange tidy.sound.links (g.dice.shuffle_perm _) rfl rfl

end Tidy

/-- Every request keeps the cards in their places. -/
theorem tidy_kept : Kept Tidy where
  startBattle tidy := tidy.startBattle
  endBattle tidy := tidy.endBattle
  startTurn tidy := tidy.startTurn
  playCard tidy := tidy.playCard
  consumeExtraPlay tidy := tidy.consumeExtraPlay
  endTurn tidy := tidy.endTurn
  addCard side card tidy := tidy.addCard side card
  removeCard tidy := tidy.removeCard
  chainCards tidy := tidy.chainCards
  unlinkCard tidy := tidy.unlinkCard
  addRelic side relic tidy := tidy.addRelic side relic
  loadOpponent tidy := tidy.loadOpponent
  discardCurrent side tidy := tidy.discardCurrent side
  trashAt side index tidy := tidy.trashAt side index
  shuffleDeck side tidy := tidy.shuffleDeck side
  resetRun _ := Tidy.resetRun _

/-- Every record of a run is tidy, because a fresh one is and each request keeps
it so. -/
theorem Reachable.tidy {g : Game} (reached : g.Reachable) : g.Tidy :=
  tidy_kept.reachable Tidy.fresh reached

/-! ### Cards of a run -/

/-- A number that a record mentions: on a stored card, in a pile, or at an end
of an entry in either direction of the links. -/
inductive Mentions (g : Game) (id : CardId) : Prop where
  | stored {entry : OwnedCard} (found : g.pool.cards.find? id = some entry)
  | piled {side : Side}
      (inside : id ∈ (g.combatant side).deck ++ (g.combatant side).trashed)
  | nextKey {other : CardId} (found : g.pool.chains.next.find? id = some other)
  | nextValue {other : CardId} (found : g.pool.chains.next.find? other = some id)
  | prevKey {other : CardId} (found : g.pool.chains.prev.find? id = some other)
  | prevValue {other : CardId} (found : g.pool.chains.prev.find? other = some id)

/-- All numbers that a tidy record mentions have been given out. -/
theorem Tidy.number_lt {g : Game} (tidy : g.Tidy) {id : CardId} (mentioned : g.Mentions id) :
    id.number < g.pool.nextNumber := by
  cases mentioned with
  | stored found => exact tidy.sound.numbered (by rw [CardPool.owner?, found]; rfl)
  | piled inside => exact tidy.sound.numbered (((tidy.held _).owned id).mp inside)
  | nextKey found => exact (tidy.sound.numbered_of_follows found).1
  | nextValue found => exact (tidy.sound.numbered_of_follows found).2
  | prevKey found => exact (tidy.sound.numbered_of_follows (tidy.sound.links.inverse.mpr found)).2
  | prevValue found => exact (tidy.sound.numbered_of_follows (tidy.sound.links.inverse.mpr found)).1

/-- A tidy record mentions only cards that are stored. -/
theorem Tidy.not_mentions {g : Game} (tidy : g.Tidy) {id : CardId}
    (unknown : g.pool.owner? id = none) : ¬ g.Mentions id := by
  have absent {owner : Side} : g.pool.owner? id ≠ some owner := by
    rw [unknown]
    exact nofun
  have unlinked {first second : CardId} (step : g.pool.chains.Follows first second) :
      first ≠ id ∧ second ≠ id := by
    obtain ⟨owner, one, two⟩ := tidy.sound.sameOwner step
    exact ⟨fun same => absent (same ▸ one), fun same => absent (same ▸ two)⟩
  intro mentioned
  cases mentioned with
  | stored found => exact absent (by rw [CardPool.owner?, found]; rfl)
  | piled inside => exact absent (((tidy.held _).owned id).mp inside)
  | nextKey found => exact (unlinked found).1 rfl
  | nextValue found => exact (unlinked found).2 rfl
  | prevKey found => exact (unlinked (tidy.sound.links.inverse.mpr found)).2 rfl
  | prevValue found => exact (unlinked (tidy.sound.links.inverse.mpr found)).1 rfl

/-- In every record of a run the two piles of each side list, each once, exactly
the cards stored for that side, and a new card gets a number that the record
does not mention. -/
theorem Reachable.cards_partitioned {g : Game} (reached : g.Reachable) :
    (∀ side, ((g.combatant side).deck ++ (g.combatant side).trashed).Nodup ∧
      ∀ id, id ∈ (g.combatant side).deck ++ (g.combatant side).trashed ↔
        g.pool.owner? id = some side) ∧
    (∀ id, g.Mentions id → id.number < g.pool.nextNumber) ∧
    ∀ side card, ¬ g.Mentions (g.addCard side card).2 := by
  have tidy := reached.tidy
  refine ⟨fun side => ⟨(tidy.held side).distinct, (tidy.held side).owned⟩,
    fun id mentioned => tidy.number_lt mentioned, ?_⟩
  intro side card mentioned
  have small := tidy.number_lt mentioned
  exact Nat.lt_irrefl _ small

/-- Three cards of the user, the last linked to the first, and the one between
them trashed. -/
def linkedDeck : Game :=
  [.addCard .user (.plain "Spark"),
    .addCard .user (.plain "Block"),
    .addCard .user (.plain "Flame"),
    .chainCards ⟨0⟩ ⟨2⟩, .discardCurrent .user, .discardCurrent .user,
    .trashCurrent .user].foldl after (.fresh .standard 7)

/-- The example is a record of a run: it is what a few requests make of a fresh
one. -/
theorem linkedDeck_reachable : linkedDeck.Reachable :=
  (Reachable.fresh .standard 7).foldl (by simp)

/-- In the example the card in the trashed pile is still the user's, and a
number not given out is mentioned nowhere. -/
theorem linkedDeck_piles :
    linkedDeck.pool.owner? ⟨1⟩ = some .user ∧ (linkedDeck.combatant .opponent).deck = [] ∧
      ¬ linkedDeck.Mentions ⟨3⟩ := by
  obtain ⟨piles, -, new⟩ := Reachable.cards_partitioned linkedDeck_reachable
  have mem : (⟨1⟩ : CardId) ∈
      (linkedDeck.combatant .user).deck ++ (linkedDeck.combatant .user).trashed := by
    decide +kernel
  have next : (linkedDeck.addCard .user (.plain "Spark")).2 = ⟨3⟩ := by
    decide +kernel
  exact ⟨((piles .user).2 ⟨1⟩).mp mem, by decide +kernel, next ▸ new .user _⟩

/-- In every record of a run successors and predecessors mirror each other, no
walk along successors returns to its start, and links join stored cards of one
owner. -/
theorem Reachable.chains_wellFormed {g : Game} (reached : g.Reachable) :
    (∀ a b, g.pool.chains.successor? a = some b ↔ g.pool.chains.predecessor? b = some a) ∧
    (∀ a b c, g.pool.chains.successor? a = some c → g.pool.chains.successor? b = some c → a = b) ∧
    g.pool.chains.next.size = g.pool.chains.prev.size ∧
    (∀ card, ¬ TransGen (fun a b => g.pool.chains.successor? a = some b) card card) ∧
    ∀ a b, g.pool.chains.successor? a = some b →
      ∃ owner, g.pool.owner? a = some owner ∧ g.pool.owner? b = some owner := by
  have sound := reached.tidy.sound
  refine ⟨fun a b => sound.links.inverse, ?_, ?_, sound.links.acyclic, fun a b => sound.sameOwner⟩
  · intro a b c one two
    exact sound.links.predecessor_unique one two
  · exact OrderedMap.size_eq_of_inverse fun a b => sound.links.inverse

/-- In the example the later card is found before the one that it is linked to. -/
theorem linkedDeck_links :
    linkedDeck.pool.chains.predecessor? ⟨2⟩ = some ⟨0⟩ ∧
      linkedDeck.pool.owner? ⟨2⟩ = some .user := by
  obtain ⟨inverse, -, -, -, owners⟩ := Reachable.chains_wellFormed linkedDeck_reachable
  have step : linkedDeck.pool.chains.successor? ⟨0⟩ = some ⟨2⟩ := by decide +kernel
  obtain ⟨owner, first, second⟩ := owners ⟨0⟩ ⟨2⟩ step
  have user : linkedDeck.pool.owner? ⟨0⟩ = some .user := by decide +kernel
  exact ⟨(inverse ⟨0⟩ ⟨2⟩).mp step, second.trans (first.symm.trans user)⟩

/-- In every record of a run a card stands right behind the one it follows if
both are in the deck, and putting the chains together again moves nothing. -/
theorem Reachable.decks_contiguous {g : Game} (reached : g.Reachable) (side : Side) :
    (∀ a b place, g.pool.chains.successor? a = some b → b ∈ (g.combatant side).deck →
      (g.combatant side).deck[place]? = some a →
      (g.combatant side).deck[place + 1]? = some b) ∧
    g.pool.chains.arrange (g.combatant side).deck = (g.combatant side).deck := by
  have tidy := reached.tidy
  have held := tidy.held side
  constructor
  · intro a b place step inside here
    exact held.contiguous.getElem?_succ held.deck_nodup step inside here
  · exact held.contiguous.arrange_eq_self tidy.sound.links held.deck_nodup

/-- The deck of the example has the follower right behind its leader, although
the two were not neighbours when they were added. -/
theorem linkedDeck_contiguous : (linkedDeck.combatant .user).deck[1]? = some ⟨2⟩ := by
  obtain ⟨follows, -⟩ := Reachable.decks_contiguous linkedDeck_reachable .user
  exact follows ⟨0⟩ ⟨2⟩ 0 (by decide +kernel) (by decide +kernel) (by decide +kernel)

end Game

end CardBattle
