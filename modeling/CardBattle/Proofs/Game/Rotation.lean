/-
Module: CardBattle.Proofs.Game.Rotation
Purpose: In every run each deck with its cursor is a queue that requests rotate and take cards from.
Main exports:
  Combatant.cursorFits_law, Game.Reachable.cursorsFit, Game.MovesQueue, Game.KeepsHead,
  Game.RotatesDecks, Game.Reachable.rotatesDecks
-/
import CardBattle.Proofs.Game.CardMoves
import CardBattle.Proofs.Game.Cards
import CardBattle.Proofs.Game.SideLaws

/-!
# Decks as queues

However a combatant changes, its cursor stays within its deck.  So each request that plays, passes
over, trashes or removes a card is one step of the queue that deck and cursor stand for, while the
other side keeps its piles; and requests that bring in or link cards leave the first card of a queue
where it is.
-/

namespace CardBattle

/-- However a combatant changes, its cursor stays within its deck.  Each of the
ways in which decks change corrects it. -/
theorem Combatant.cursorFits_law : SideLaw CursorFits where
  congr fits deck cursor _ := by
    rw [CursorFits, deck, cursor]
    exact fits
  rested start _ := .of_start start
  setStatus fits s value := fits.of_piles (piles_of_belongings (belongings_setStatus ..))
  clearTemporary fits := fits
  advanceCursor _ := cursorFits_advanceCursor _
  dropAt _ index := cursorFits_dropAt _ index
  append fits cards := fits.append cards
  arrange _ place := by
    rcases place with start | inside
    · exact .of_start start
    · exact .inl inside

namespace Game

/-! ### The cursors -/

/-- Both cursors are within their decks. -/
def CursorsFit (g : Game) : Prop := g.Both Combatant.CursorFits

/-- In every record of a run both cursors are at a card, or at the start of an
empty deck. -/
theorem Reachable.cursorsFit {g : Game} (reached : g.Reachable) : g.CursorsFit :=
  reached.both Combatant.cursorFits_law

/-! ### Steps of the queues -/

/-- The queue of one side makes a step, and the other side keeps its piles. -/
structure MovesQueue (g : Game) (side : Side) (change : Queue → Queue) (next : Game) : Prop where
  own : (next.combatant side).queue = change (g.combatant side).queue
  other : (next.combatant side.other).piles = (g.combatant side.other).piles

namespace MovesQueue

variable {g : Game}

/-- A change of the pool and of one side moves the queue of that side and leaves
the piles of the other. -/
theorem of_update {pool : CardPool} {side : Side} {change : Combatant → Combatant}
    {step : Queue → Queue}
    (own : (change (g.combatant side)).queue = step (g.combatant side).queue) :
    g.MovesQueue side step ({ g with pool := pool }.updateCombatant side change) := by
  constructor
  · rw [combatant_updateCombatant_self]
    exact own
  · rw [combatant_updateCombatant_other]
    rfl

/-- A step that does nothing to a queue needs no change of the record, as where
there is no card to move. -/
theorem of_still {side : Side} {step : Queue → Queue}
    (still : step (g.combatant side).queue = (g.combatant side).queue) :
    g.MovesQueue side step g :=
  ⟨still.symm, rfl⟩

end MovesQueue

/-- A card whose place is not in the deck is not trashed, and then the step must
leave the queue as it is. -/
theorem trashAt_movesQueue {g : Game} {side : Side} {index : Nat} {step : Queue → Queue}
    (moved : ∀ id, (g.combatant side).deck[index]? = some id →
      ((g.combatant side).trashAt index id).queue = step (g.combatant side).queue)
    (still : (g.combatant side).deck[index]? = none →
      step (g.combatant side).queue = (g.combatant side).queue) :
    g.MovesQueue side step (g.trashAt side index).1 := by
  unfold trashAt
  split
  · rename_i id here
    exact .of_update (moved id here)
  · rename_i outside
    exact .of_still (still outside)

namespace CursorsFit

variable {g : Game}

theorem order_eq_nil (fit : g.CursorsFit) {side : Side}
    (none : (g.combatant side).currentCard? = none) : (g.combatant side).playOrder = [] := by
  rw [← Combatant.head?_playOrder (fit side)] at none
  exact List.head?_eq_none_iff.mp none

/-- Passing a card over puts it behind all others of its deck. -/
theorem discardCurrent_pass (fit : g.CursorsFit) (side : Side) :
    g.MovesQueue side Queue.pass (g.discardCurrent side).1 := by
  unfold Game.discardCurrent
  split
  · exact .of_update (Combatant.queue_advanceCursor (fit side))
  · rename_i none
    apply MovesQueue.of_still
    rw [Combatant.queue, Queue.pass, fit.order_eq_nil none, List.rotate_nil]

/-- Trashing the card under the cursor takes the first of the queue. -/
theorem trashCurrent_trashFirst (fit : g.CursorsFit) (tidy : g.Tidy) (side : Side) :
    g.MovesQueue side Queue.trashFirst (g.trashCurrent side).1 := by
  apply trashAt_movesQueue
  · intro id current
    exact Combatant.queue_trashAt_cursor (fit side) (tidy.held side).deck_nodup current
  · intro none
    rw [Combatant.queue, Queue.trashFirst, fit.order_eq_nil none]

/-- Trashing the next card takes the second of the queue, also where the deck
goes around in between. -/
theorem trashNext_trashSecond (fit : g.CursorsFit) (tidy : g.Tidy) (side : Side) :
    g.MovesQueue side Queue.trashSecond (g.trashNext side).1 := by
  unfold Game.trashNext
  dsimp only
  split
  · rename_i few
    apply MovesQueue.of_still
    apply Queue.trashSecond_of_short
    rw [Combatant.queue, (Combatant.playOrder_perm (g.combatant side)).length_eq]
    exact few
  · rename_i several
    have enough : 2 ≤ (g.combatant side).deck.length := Nat.le_of_not_lt several
    apply trashAt_movesQueue
    · intro id next
      exact Combatant.queue_trashAt_next (fit side) (tidy.held side).deck_nodup enough next
    · intro outside
      have inside := Nat.mod_lt ((g.combatant side).cursor + 1) (Nat.lt_of_succ_lt enough)
      exact absurd inside (Nat.not_lt.mpr (List.getElem?_eq_none_iff.mp outside))

/-- A card that leaves the run leaves the queue of its owner and moves nothing
else in it. -/
theorem removeCard_remove (fit : g.CursorsFit) (tidy : g.Tidy) {next : Game} {id : CardId}
    {card : Card} (ok : g.removeCard id = .ok (next, card)) :
    ∃ owner, g.pool.owner? id = some owner ∧ g.MovesQueue owner (Queue.remove id) next := by
  obtain ⟨owner, owned, rfl⟩ := of_removeCard_eq_ok ok
  have gone := Combatant.queue_forget (fit owner) (tidy.held owner).deck_nodup id
  exact ⟨owner, owned, .of_update gone⟩

/-- The card that a play tells of was the first of the queue of the active side,
and it goes behind all others or out of play. -/
theorem playCard_moves (fit : g.CursorsFit) (tidy : g.Tidy) {next : Game} {report : PlayReport}
    {side : Side} {id : CardId} (ok : g.playCard = .ok (next, report))
    (told : .cardPlayed side id ∈ report.events) :
    side = g.active ∧ (g.combatant side).playOrder.head? = some id ∧
      ∃ card, g.pool.card? id = some card ∧
        g.MovesQueue side (if card.trashOnPlay then Queue.trashFirst else Queue.pass) next := by
  have mem : id ∈ playedCards side report.events := mem_playedCards.mpr told
  cases playCard_movesCards ok with
  | none _ silent =>
      rw [silent] at mem
      cases mem
  | @one current card here stored away other played =>
      rw [played] at mem
      split at mem
      · rename_i own
        obtain rfl := own
        obtain rfl := List.mem_singleton.mp mem
        have first := Combatant.head?_playOrder (fit g.active)
        have step : (next.combatant g.active).queue =
            (if card.trashOnPlay then Queue.trashFirst else Queue.pass)
              (g.combatant g.active).queue :=
          (Combatant.queue_of_piles away).trans
            (Combatant.queue_putAway (fit g.active) (tidy.held g.active).deck_nodup here _)
        exact ⟨rfl, first.trans here, card, stored, ⟨step, other⟩⟩
      · cases mem

end CursorsFit

/-- The card that comes up next stays the same when the deck of a side changes
in another way, and the other side keeps its piles. -/
structure KeepsHead (g : Game) (side : Side) (next : Game) : Prop where
  head : (g.combatant side).playOrder ≠ [] →
    (next.combatant side).playOrder.head? = (g.combatant side).playOrder.head?
  trashed : (next.combatant side).trashed = (g.combatant side).trashed
  other : (next.combatant side.other).piles = (g.combatant side.other).piles

/-- A change of the pool and of one side keeps the head if it keeps the first
card of that side. -/
theorem KeepsHead.of_update {g : Game} {pool : CardPool} {side : Side}
    {change : Combatant → Combatant}
    (head : (g.combatant side).playOrder ≠ [] →
      (change (g.combatant side)).playOrder.head? = (g.combatant side).playOrder.head?)
    (trashed : (change (g.combatant side)).trashed = (g.combatant side).trashed) :
    g.KeepsHead side ({ g with pool := pool }.updateCombatant side change) := by
  constructor
  · rw [combatant_updateCombatant_self]
    exact head
  · rw [combatant_updateCombatant_self]
    exact trashed
  · rw [combatant_updateCombatant_other]
    rfl

namespace CursorsFit

variable {g : Game}

/-- A new card comes up after all others, so it never is the next unless it is
alone. -/
theorem addCard_keepsHead (fit : g.CursorsFit) (side : Side) (card : Card) :
    g.KeepsHead side (g.addCard side card).1 :=
  .of_update (Combatant.head?_playOrder_append (fit side) _) rfl

/-- Linking reorders the deck of the owner of both cards, and moves the cursor
with its card. -/
theorem chainCards_keepsHead (fit : g.CursorsFit) (tidy : g.Tidy) {next : Game}
    {first second : CardId} (ok : g.chainCards first second = .ok next) :
    ∃ owner, g.pool.owner? first = some owner ∧
      (next.combatant owner).playOrder.Perm (g.combatant owner).playOrder ∧
      g.KeepsHead owner next := by
  obtain ⟨owner, chains, one, -, fits, rfl⟩ := chainCards_eq_ok_iff.mp ok
  have arranged : (chains.arrange (g.combatant owner).deck).Perm (g.combatant owner).deck :=
    (tidy.sound.links.link fits).arrange_perm (tidy.held owner).deck_nodup
  refine ⟨owner, one, ?_, .of_update (fun _ => ?_) rfl⟩
  · have later := Combatant.playOrder_perm
      ((({ g with pool := { g.pool with chains := chains } } : Game).rearrange owner).combatant
        owner)
    refine later.trans (.trans ?_ (Combatant.playOrder_perm (g.combatant owner)).symm)
    rw [rearrange, combatant_updateCombatant_self]
    exact arranged
  · exact Combatant.head?_playOrder_find (fit owner) arranged

end CursorsFit

/-- Deck, cursor and trashed pile of both sides work as queues that go around. -/
structure RotatesDecks (g : Game) : Prop where
  /-- A cursor is at a card of its deck, or at the start of an empty deck. -/
  cursors : ∀ side, (g.combatant side).cursor < (g.combatant side).deck.length ∨
    (g.combatant side).deck = [] ∧ (g.combatant side).cursor = 0
  /-- A card that is played is the first of the active side, and goes behind all others or, if its
  text says so, out of play. -/
  plays : ∀ {next report side id}, g.playCard = .ok (next, report) →
    .cardPlayed side id ∈ report.events →
      side = g.active ∧ (g.combatant side).playOrder.head? = some id ∧
        ∃ card, g.pool.card? id = some card ∧
          g.MovesQueue side (if card.trashOnPlay then Queue.trashFirst else Queue.pass) next
  discards : ∀ side, g.MovesQueue side Queue.pass (g.discardCurrent side).1
  trashesCurrent : ∀ side, g.MovesQueue side Queue.trashFirst (g.trashCurrent side).1
  trashesNext : ∀ side, g.MovesQueue side Queue.trashSecond (g.trashNext side).1
  removes : ∀ {next id card}, g.removeCard id = .ok (next, card) →
    ∃ owner, g.pool.owner? id = some owner ∧ g.MovesQueue owner (Queue.remove id) next
  adds : ∀ side card, ((g.addCard side card).1.combatant side).deck =
      (g.combatant side).deck ++ [(g.addCard side card).2] ∧
    g.KeepsHead side (g.addCard side card).1
  links : ∀ {next first second}, g.chainCards first second = .ok next →
    ∃ owner, g.pool.owner? first = some owner ∧
      (next.combatant owner).playOrder.Perm (g.combatant owner).playOrder ∧
      g.KeepsHead owner next

/-- In every record of a run the decks work as queues that go around: cursors
stay within them, and each request moves the queue by one kind of step. -/
theorem Reachable.rotatesDecks {g : Game} (reached : g.Reachable) : g.RotatesDecks where
  cursors := reached.cursorsFit
  plays := reached.cursorsFit.playCard_moves reached.tidy
  discards := reached.cursorsFit.discardCurrent_pass
  trashesCurrent := reached.cursorsFit.trashCurrent_trashFirst reached.tidy
  trashesNext := reached.cursorsFit.trashNext_trashSecond reached.tidy
  removes := reached.cursorsFit.removeCard_remove reached.tidy
  adds side card := by
    constructor
    · rw [addCard, combatant_updateCombatant_self]
      rfl
    · exact reached.cursorsFit.addCard_keepsHead side card
  links := reached.cursorsFit.chainCards_keepsHead reached.tidy

/-- Three cards of the user, with the cursor on the last of them, which goes out
of play when it is played. -/
def lastCard : Game :=
  [.addCard .user (.plain "Spark"), .addCard .user (.plain "Block"),
    .addCard .user { Card.plain "Flame" with trashOnPlay := true },
    .addCard .opponent (.plain "Guard"), .discardCurrent .user,
    .discardCurrent .user].foldl after (.fresh .standard 7)

theorem lastCard_reachable : lastCard.Reachable :=
  (Reachable.fresh .standard 7).foldl (by simp)

/-- The card after the last one is the first, and so is the one after it when
the last one is gone, also when it goes because it has been played. -/
theorem lastCard_goes_around :
    ((lastCard.trashNext .user).1.combatant .user).queue = ⟨[⟨2⟩, ⟨1⟩], [⟨0⟩]⟩ ∧
      ((lastCard.trashCurrent .user).1.combatant .user).queue = ⟨[⟨0⟩, ⟨1⟩], [⟨2⟩]⟩ ∧
      ((lastCard.discardCurrent .user).1.combatant .user).queue = ⟨[⟨0⟩, ⟨1⟩, ⟨2⟩], []⟩ ∧
      ∃ next report, (lastCard.after .startBattle).playCard = .ok (next, report) ∧
        (next.combatant .user).queue = ⟨[⟨0⟩, ⟨1⟩], [⟨2⟩]⟩ := by
  have rotates := lastCard_reachable.rotatesDecks
  have queue : (lastCard.combatant .user).queue = ⟨[⟨2⟩, ⟨0⟩, ⟨1⟩], []⟩ := by decide +kernel
  refine ⟨?_, ?_, ?_, ?_⟩
  · rw [(rotates.trashesNext .user).own, queue]
    rfl
  · rw [(rotates.trashesCurrent .user).own, queue]
    rfl
  · rw [(rotates.discards .user).own, queue]
    rfl
  · have battle := lastCard_reachable.step .startBattle fun _ => nofun
    have events : ((lastCard.after .startBattle).playCard.map fun outcome => outcome.2.events) =
        .ok [.turnStarted .user 0, .cardPlayed .user ⟨2⟩, .cardTrashed .user ⟨2⟩,
          .turnEnded .user] := by
      decide +kernel
    obtain ⟨⟨next, report⟩, ok, told⟩ := of_map_eq_ok events
    have played : .cardPlayed .user ⟨2⟩ ∈ report.events := by
      rw [show report.events = _ from told]
      decide
    obtain ⟨-, -, card, stored, moved⟩ := battle.rotatesDecks.plays ok played
    have trashes : ((lastCard.after .startBattle).pool.card? ⟨2⟩).map Card.trashOnPlay =
        some true := by
      decide +kernel
    have begun : ((lastCard.after .startBattle).combatant .user).queue =
        ⟨[⟨2⟩, ⟨0⟩, ⟨1⟩], []⟩ := by
      decide +kernel
    rw [stored] at trashes
    have gone : card.trashOnPlay = true := Option.some.inj trashes
    have queue := moved.own
    rw [gone, begun] at queue
    exact ⟨next, report, ok, queue⟩

end Game

end CardBattle
