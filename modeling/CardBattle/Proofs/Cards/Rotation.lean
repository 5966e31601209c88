/-
Module: CardBattle.Proofs.Cards.Rotation
Purpose: A deck with its cursor is a queue that goes around.
Main exports:
  Combatant.playOrder, Combatant.CursorFits, Combatant.head?_playOrder, Combatant.playOrder_dropAt,
  Queue, Combatant.queue, Combatant.queue_advanceCursor, Combatant.queue_trashAt,
  Combatant.queue_putAway, Combatant.currentCard?_putAway, Combatant.queue_forget,
  Combatant.cardAfter?, Combatant.currentCard?_forget
-/
import CardBattle.Proofs.Cards.Holdings
import Mathlib.Data.List.Rotate

/-!
# Rotation

The cards of a deck come up from the cursor to the end of the deck, and then from its start to the
cursor.  Read in this order the deck is a queue.  Passing a card over moves the first card of the
queue to its end.  Taking a card out, wherever it stands, takes it out of the queue and leaves the
others in their order: the cursor counts the cards before it, so it has to move exactly when one of
these goes, and to the start when the card under it was the last.
-/

namespace CardBattle

/-- The two piles of a combatant, and the place of its cursor. -/
structure Piles where
  deck : List CardId
  trashed : List CardId
  cursor : Nat

namespace Combatant

/-- The piles of a combatant. -/
def piles (c : Combatant) : Piles := ⟨c.deck, c.trashed, c.cursor⟩

/-- The deck in the order in which its cards come up, from the card under the
cursor. -/
def playOrder (c : Combatant) : List CardId := c.deck.drop c.cursor ++ c.deck.take c.cursor

/-- The cursor is at a card, or at the start of an empty deck. -/
def CursorFits (c : Combatant) : Prop :=
  c.cursor < c.deck.length ∨ c.deck = [] ∧ c.cursor = 0

/-! ### The cursor -/

theorem CursorFits.of_start {c : Combatant} (start : c.cursor = 0) : c.CursorFits := by
  cases cards : c.deck with
  | nil => exact .inr ⟨cards, start⟩
  | cons first rest =>
      apply Or.inl
      rw [start, cards]
      exact Nat.succ_pos _

/-- Whether the cursor fits is a matter of deck and cursor alone; health,
statuses and tallies do not enter into it. -/
theorem CursorFits.of_piles {c d : Combatant} (fits : c.CursorFits) (same : d.piles = c.piles) :
    d.CursorFits := by
  have deck : d.deck = c.deck := congrArg Piles.deck same
  have cursor : d.cursor = c.cursor := congrArg Piles.cursor same
  rw [CursorFits, deck, cursor]
  exact fits

theorem currentCard?_of_piles {c d : Combatant} (same : d.piles = c.piles) :
    d.currentCard? = c.currentCard? :=
  congrArg (fun p : Piles => p.deck[p.cursor]?) same

/-- A cursor that fits never points further than the end of the deck, which is
what cutting the deck there needs. -/
theorem CursorFits.le_length {c : Combatant} (fits : c.CursorFits) :
    c.cursor ≤ c.deck.length := by
  rcases fits with inside | ⟨-, start⟩
  · exact Nat.le_of_lt inside
  · rw [start]
    exact Nat.zero_le _

/-- A card is at no other place of a deck without duplicates than under the
cursor. -/
theorem deckPosition?_current {c : Combatant} (distinct : c.deck.Nodup) {id : CardId} {index : Nat}
    (current : c.currentCard? = some id) (found : c.deckPosition? id = some index) :
    index = c.cursor := by
  obtain ⟨inside, here, -⟩ := List.idxOf?_eq_some_iff.mp found
  have same : c.deck[index]? = c.deck[c.cursor]? := by
    rw [show c.deck[c.cursor]? = some id from current, List.getElem?_eq_getElem inside, here]
  exact (List.getElem?_inj inside distinct).mp same

/-- Wherever the cursor stood, it is then in the deck. -/
theorem cursorFits_fixCursor (c : Combatant) : c.fixCursor.CursorFits := by
  by_cases outside : c.deck.length ≤ c.cursor
  · apply CursorFits.of_start
    exact if_pos outside
  · apply Or.inl
    have here : c.fixCursor.cursor = c.cursor := if_neg outside
    rw [here]
    exact Nat.lt_of_not_le outside

/-- Taking out any card, also the one under the cursor or one before it, leaves
the cursor where it fits. -/
theorem cursorFits_dropAt (c : Combatant) (index : Nat) : (c.dropAt index).CursorFits :=
  cursorFits_fixCursor _

/-- Past the last card the cursor goes back to the start, so it fits again. -/
theorem cursorFits_advanceCursor (c : Combatant) : c.advanceCursor.CursorFits := by
  cases cards : c.deck with
  | nil =>
      apply CursorFits.of_start
      simp [advanceCursor, cards]
  | cons first rest =>
      apply Or.inl
      simp only [advanceCursor, cards, List.isEmpty_cons, Bool.false_eq_true, if_false]
      exact Nat.mod_lt _ (Nat.succ_pos _)

/-- Putting a card away ends in one of the two moves above, whether the card is
trashed or passed over. -/
theorem cursorFits_putAway (c : Combatant) (id : CardId) (trash : Bool) :
    (c.putAway id trash).1.CursorFits := by
  unfold putAway
  split
  · exact cursorFits_dropAt c _
  · exact cursorFits_advanceCursor c

/-- Cards put below the deck do not disturb a cursor that points at a card above
them. -/
theorem CursorFits.append {c : Combatant} (fits : c.CursorFits) (more : List CardId) :
    { c with deck := c.deck ++ more }.CursorFits := by
  rcases fits with inside | ⟨-, start⟩
  · apply Or.inl
    exact Nat.lt_of_lt_of_le inside (List.length_append ▸ Nat.le_add_right ..)
  · exact .of_start start

/-- The cursor can be put at the place of a card, or at the start where there is
no such card. -/
theorem cursorFits_find (c : Combatant) (id? : Option CardId) :
    { c with cursor := (id?.bind c.deckPosition?).getD 0 }.CursorFits := by
  cases found : id?.bind c.deckPosition? with
  | none => exact .of_start rfl
  | some place =>
      obtain ⟨id, -, here⟩ := Option.bind_eq_some_iff.mp found
      obtain ⟨inside, -⟩ := List.idxOf?_eq_some_iff.mp here
      exact .inl inside

/-- Only the piles count when a card is put away, so it makes no difference what
else the card has done to its owner. -/
theorem piles_putAway {c d : Combatant} (same : d.piles = c.piles) (id : CardId) (trash : Bool) :
    (d.putAway id trash).1.piles = (c.putAway id trash).1.piles := by
  have deck : d.deck = c.deck := congrArg Piles.deck same
  have trashed : d.trashed = c.trashed := congrArg Piles.trashed same
  have cursor : d.cursor = c.cursor := congrArg Piles.cursor same
  unfold putAway deckPosition?
  rw [deck]
  split
  · simp only [piles, trashAt, dropAt, fixCursor, deck, trashed, cursor]
  · simp only [piles, advanceCursor, deck, trashed, cursor]

/-! ### The order of the cards -/

theorem playOrder_congr {c d : Combatant} (deck : d.deck = c.deck) (cursor : d.cursor = c.cursor) :
    d.playOrder = c.playOrder := by
  rw [playOrder, deck, cursor, playOrder]

theorem playOrder_perm (c : Combatant) : c.playOrder.Perm c.deck := by
  have swapped : c.playOrder.Perm (c.deck.take c.cursor ++ c.deck.drop c.cursor) :=
    List.perm_append_comm
  rwa [List.take_append_drop] at swapped

/-- The order of play is the deck turned to the cursor.  Laws about rotations of
lists then apply to it. -/
theorem playOrder_eq_rotate {c : Combatant} (fits : c.CursorFits) :
    c.playOrder = c.deck.rotate c.cursor :=
  (List.rotate_eq_drop_append_take fits.le_length).symm

/-- The card under the cursor comes up first, and none does where the deck is
empty. -/
theorem head?_playOrder {c : Combatant} (fits : c.CursorFits) :
    c.playOrder.head? = c.currentCard? := by
  rw [playOrder, List.head?_append, List.head?_drop, currentCard?]
  rcases fits with inside | ⟨none, -⟩
  · rw [List.getElem?_eq_getElem inside, Option.some_or]
  · rw [none, List.take_nil, List.head?_nil, Option.or_none]

/-- Cards below the deck do not come up before the one under the cursor, as long
as there is one. -/
theorem head?_playOrder_append {c : Combatant} (fits : c.CursorFits) (more : List CardId)
    (several : c.playOrder ≠ []) :
    { c with deck := c.deck ++ more }.playOrder.head? = c.playOrder.head? := by
  have later := head?_playOrder (fits.append more)
  rw [later, head?_playOrder fits]
  rcases fits with inside | ⟨none, -⟩
  · exact List.getElem?_append_left inside
  · have empty : c.playOrder = [] := by
      apply List.Perm.eq_nil
      rw [← none]
      exact playOrder_perm c
    exact absurd empty several

/-- When the cards are put in another order and the cursor is put at its card
again, that card still comes up first. -/
theorem head?_playOrder_find {c d : Combatant} (fits : c.CursorFits) (same : d.deck.Perm c.deck) :
    { d with cursor := (c.currentCard?.bind d.deckPosition?).getD 0 }.playOrder.head? =
      c.playOrder.head? := by
  have later := head?_playOrder (cursorFits_find d c.currentCard?)
  rw [later, head?_playOrder fits]
  cases current : c.currentCard? with
  | none =>
      have empty : c.deck = [] := by
        rcases fits with inside | ⟨none, -⟩
        · exact absurd inside (Nat.not_lt.mpr (List.getElem?_eq_none_iff.mp current))
        · exact none
      have none : d.deck = [] := (empty ▸ same).eq_nil
      rw [currentCard?, none]
      rfl
  | some id =>
      have mem : id ∈ d.deck := same.mem_iff.mpr (List.mem_of_getElem? current)
      cases place : d.deckPosition? id with
      | none => exact absurd mem (List.idxOf?_eq_none_iff.mp place)
      | some index =>
          obtain ⟨inside, here, -⟩ := List.idxOf?_eq_some_iff.mp place
          rw [Option.bind_some, place]
          exact List.getElem?_eq_some_iff.mpr ⟨inside, here⟩

/-- The card that comes up after some others is as many places behind the
cursor. -/
theorem getElem?_playOrder {c : Combatant} (fits : c.CursorFits) {place : Nat}
    (inside : place < c.deck.length) :
    c.playOrder[place]? = c.deck[(c.cursor + place) % c.deck.length]? := by
  rw [playOrder_eq_rotate fits, List.getElem?_rotate inside, Nat.add_comm]

/-- Passing a card over puts it behind all others, also at the end of the deck,
where the cursor goes back to the start. -/
theorem playOrder_advanceCursor {c : Combatant} (fits : c.CursorFits) :
    c.advanceCursor.playOrder = c.playOrder.rotate 1 := by
  rw [playOrder_eq_rotate (cursorFits_advanceCursor c), playOrder_eq_rotate fits,
    List.rotate_rotate]
  cases cards : c.deck with
  | nil => simp [advanceCursor, cards]
  | cons first rest =>
      have next : c.advanceCursor.cursor = (c.cursor + 1) % (first :: rest).length := by
        simp [advanceCursor, cards]
      have same : c.advanceCursor.deck = first :: rest := cards
      rw [next, same, List.rotate_mod]

/-- Where the cursor counts the cards before it, they come up last, also when it
has to go back to the start. -/
theorem playOrder_fixCursor {c : Combatant} {before behind : List CardId}
    (deck : c.deck = before ++ behind) (cursor : c.cursor = before.length) :
    c.fixCursor.playOrder = behind ++ before := by
  have kept : c.fixCursor.deck = before ++ behind := deck
  by_cases last : c.deck.length ≤ c.cursor
  · have none : behind = [] := by
      rw [deck, cursor, List.length_append] at last
      apply List.eq_nil_of_length_eq_zero
      omega
    have start : c.fixCursor.cursor = 0 := if_pos last
    rw [playOrder, kept, start, none]
    simp
  · have here : c.fixCursor.cursor = before.length := (if_neg last).trans cursor
    rw [playOrder, kept, here, List.drop_left, List.take_left]

/-- Corrected for a card that is taken out, the cursor counts the cards that are
left before it. -/
theorem length_filter_before {c : Combatant} (fits : c.CursorFits) (distinct : c.deck.Nodup)
    {index : Nat} {id : CardId} (here : c.deck[index]? = some id) :
    ((c.deck.take c.cursor).filter fun other => other ≠ id).length =
      if index < c.cursor then c.cursor - 1 else c.cursor := by
  have before : (c.deck.take c.cursor).length = c.cursor := List.length_take_of_le fits.le_length
  by_cases earlier : index < c.cursor
  · have found : (c.deck.take c.cursor)[index]? = some id := by
      rw [List.getElem?_take, if_pos earlier, here]
    rw [← eraseIdx_eq_filter (distinct.sublist (List.take_sublist ..)) found,
      List.length_eraseIdx_of_lt (by omega), before, if_pos earlier]
  · have absent : id ∉ c.deck.take c.cursor := by
      intro found
      obtain ⟨place, near, same⟩ := List.mem_take_iff_getElem.mp found
      have inside : place < c.deck.length := by omega
      have both : c.deck[place]? = c.deck[index]? := by
        rw [here, List.getElem?_eq_getElem inside, same]
      have := (List.getElem?_inj inside distinct).mp both
      omega
    have all : (c.deck.take c.cursor).filter (fun other => other ≠ id) =
        c.deck.take c.cursor := by
      apply List.filter_eq_self.mpr
      intro other found
      apply decide_eq_true
      rintro rfl
      exact absent found
    rw [all, before, if_neg earlier]

/-- Taking a card out of the deck takes it out of the order.  The cursor is
corrected so that no other card changes its place in it. -/
theorem playOrder_dropAt {c : Combatant} (fits : c.CursorFits) (distinct : c.deck.Nodup)
    {index : Nat} {id : CardId} (here : c.deck[index]? = some id) :
    (c.dropAt index).playOrder = c.playOrder.erase id := by
  have deck : c.deck.eraseIdx index = (c.deck.take c.cursor).filter (fun other => other ≠ id) ++
      (c.deck.drop c.cursor).filter fun other => other ≠ id := by
    rw [eraseIdx_eq_filter distinct here, ← List.filter_append, List.take_append_drop]
  have once : c.playOrder.Nodup := (playOrder_perm c).nodup_iff.mpr distinct
  calc (c.dropAt index).playOrder
      = (c.deck.drop c.cursor).filter (fun other => other ≠ id) ++
          (c.deck.take c.cursor).filter fun other => other ≠ id :=
        playOrder_fixCursor deck (length_filter_before fits distinct here).symm
    _ = c.playOrder.filter fun other => other ≠ id := (List.filter_append ..).symm
    _ = c.playOrder.erase id := by
        rw [once.erase_eq_filter]
        exact List.filter_congr fun other _ => decide_not ..

end Combatant

/-! ### Queues -/

/-- The cards of a side: those in play, the next one first, and those out of
play. -/
structure Queue where
  order : List CardId
  trashed : List CardId
deriving DecidableEq

namespace Queue

/-- Put the first card behind all others. -/
def pass (q : Queue) : Queue := { q with order := q.order.rotate 1 }

/-- Put the first card out of play, if there is one. -/
def trashFirst (q : Queue) : Queue :=
  match q.order with
  | first :: rest => ⟨rest, q.trashed ++ [first]⟩
  | [] => q

/-- Put the second card out of play, if there is one. -/
def trashSecond (q : Queue) : Queue :=
  match q.order with
  | first :: second :: rest => ⟨first :: rest, q.trashed ++ [second]⟩
  | _ => q

theorem trashSecond_of_short {q : Queue} (short : q.order.length < 2) : q.trashSecond = q := by
  unfold trashSecond
  split
  · rename_i order
    rw [order] at short
    simp only [List.length_cons] at short
    omega
  · rfl

/-- Forget a card. -/
def remove (id : CardId) (q : Queue) : Queue :=
  ⟨q.order.erase id, q.trashed.filter fun other => other ≠ id⟩

end Queue

namespace Combatant

/-- The queue that deck, cursor and trashed pile stand for. -/
def queue (c : Combatant) : Queue := ⟨c.playOrder, c.trashed⟩

/-- The queue is read off the piles, so whatever leaves these alone leaves it
alone. -/
theorem queue_of_piles {c d : Combatant} (same : d.piles = c.piles) : d.queue = c.queue := by
  have deck : d.deck = c.deck := congrArg Piles.deck same
  have trashed : d.trashed = c.trashed := congrArg Piles.trashed same
  have cursor : d.cursor = c.cursor := congrArg Piles.cursor same
  rw [queue, playOrder_congr deck cursor, trashed, queue]

/-- Moving the cursor on is one step of the queue: the first card goes to the
back. -/
theorem queue_advanceCursor {c : Combatant} (fits : c.CursorFits) :
    c.advanceCursor.queue = c.queue.pass :=
  congrArg (Queue.mk · c.trashed) (playOrder_advanceCursor fits)

/-- Trashing a card, wherever it is in the deck, takes it out of the order of
play and puts it at the end of the trashed pile. -/
theorem queue_trashAt {c : Combatant} (fits : c.CursorFits) (distinct : c.deck.Nodup) {index : Nat}
    {id : CardId} (here : c.deck[index]? = some id) :
    (c.trashAt index id).queue = ⟨c.playOrder.erase id, c.trashed ++ [id]⟩ :=
  congrArg (Queue.mk · (c.trashed ++ [id])) (playOrder_dropAt fits distinct here)

/-- The card under the cursor is the first of the queue, so trashing it takes
the first. -/
theorem queue_trashAt_cursor {c : Combatant} (fits : c.CursorFits) (distinct : c.deck.Nodup)
    {id : CardId} (current : c.currentCard? = some id) :
    (c.trashAt c.cursor id).queue = c.queue.trashFirst := by
  obtain ⟨rest, order⟩ : ∃ rest, c.playOrder = id :: rest := by
    rw [← head?_playOrder fits] at current
    exact List.head?_eq_some_iff.mp current
  rw [queue_trashAt fits distinct current, queue, Queue.trashFirst, order, List.erase_cons_head]

/-- The card at the next place, which can be the start of the deck, is the
second of the queue. -/
theorem queue_trashAt_next {c : Combatant} (fits : c.CursorFits) (distinct : c.deck.Nodup)
    (several : 2 ≤ c.deck.length) {id : CardId}
    (next : c.deck[(c.cursor + 1) % c.deck.length]? = some id) :
    (c.trashAt ((c.cursor + 1) % c.deck.length) id).queue = c.queue.trashSecond := by
  have second : c.playOrder[1]? = some id := (getElem?_playOrder fits several).trans next
  cases order : c.playOrder with
  | nil =>
      rw [order] at second
      cases second
  | cons first others =>
      rw [order, List.getElem?_cons_succ] at second
      obtain ⟨rest, rfl⟩ : ∃ rest, others = id :: rest := by
        rw [← List.head?_eq_getElem?] at second
        exact List.head?_eq_some_iff.mp second
      have different : first ≠ id := by
        have once := (playOrder_perm c).nodup_iff.mpr distinct
        rw [order] at once
        rintro rfl
        exact (List.nodup_cons.mp once).1 (List.mem_cons_self ..)
      have gone : (first :: id :: rest).erase id = first :: rest := by
        rw [List.erase_cons_tail (by simpa using different), List.erase_cons_head]
      rw [queue_trashAt fits distinct next, queue, Queue.trashSecond, order, gone]

/-- Putting away the card that was played passes it over or trashes it, and both
are steps of the queue. -/
theorem queue_putAway {c : Combatant} (fits : c.CursorFits) (distinct : c.deck.Nodup) {id : CardId}
    (current : c.currentCard? = some id) (trash : Bool) :
    (c.putAway id trash).1.queue = (if trash then Queue.trashFirst else Queue.pass) c.queue := by
  have found : c.deckPosition? id = some c.cursor := by
    cases place : c.deckPosition? id with
    | none => exact absurd (List.mem_of_getElem? current) (List.idxOf?_eq_none_iff.mp place)
    | some index => rw [deckPosition?_current distinct current place]
  cases trash with
  | false =>
      have away : (c.putAway id false).1 = c.advanceCursor := by simp [putAway]
      rw [away]
      exact queue_advanceCursor fits
  | true =>
      have away : (c.putAway id true).1 = c.trashAt c.cursor id := by simp [putAway, found]
      rw [away]
      exact queue_trashAt_cursor fits distinct current

/-- Once a card has been put away, the cursor is at the card that follows it, if
that is in the deck. -/
theorem currentCard?_putAway {c : Combatant} (fits : c.CursorFits) (distinct : c.deck.Nodup)
    {chains : Chains} (contiguous : chains.Contiguous c.deck) {id follower : CardId}
    (current : c.currentCard? = some id) (step : chains.Follows id follower)
    (inside : follower ∈ c.deck) (trash : Bool) :
    (c.putAway id trash).1.currentCard? = some follower := by
  have behind : c.deck[c.cursor + 1]? = some follower :=
    contiguous.getElem?_succ distinct step inside current
  obtain ⟨room, next⟩ := List.getElem?_eq_some_iff.mp behind
  obtain ⟨here, first⟩ := List.getElem?_eq_some_iff.mp current
  have order : c.playOrder =
      id :: follower :: (c.deck.drop (c.cursor + 2) ++ c.deck.take c.cursor) := by
    rw [playOrder, List.drop_eq_getElem_cons here, List.drop_eq_getElem_cons room, first, next]
    rfl
  have away : (c.putAway id trash).1.playOrder =
      ((if trash then Queue.trashFirst else Queue.pass) c.queue).order :=
    congrArg Queue.order (queue_putAway fits distinct current trash)
  rw [← head?_playOrder (cursorFits_putAway c id trash), away]
  cases trash with
  | false => simp [Queue.pass, queue, order]
  | true => simp [Queue.trashFirst, queue, order]

/-- A card that leaves the run leaves the queue, from either of its parts, and
the rest of the queue keeps its order. -/
theorem queue_forget {c : Combatant} (fits : c.CursorFits) (distinct : c.deck.Nodup) (id : CardId) :
    (c.forget id).queue = c.queue.remove id := by
  have order : (c.forget id).playOrder = c.playOrder.erase id := by
    unfold forget deckPosition?
    cases place : c.deck.idxOf? id with
    | none =>
        have outside : id ∉ c.playOrder := by
          rw [(playOrder_perm c).mem_iff]
          exact List.idxOf?_eq_none_iff.mp place
        rw [List.erase_of_not_mem outside]
        exact playOrder_congr rfl rfl
    | some index =>
        obtain ⟨inside, here, -⟩ := List.idxOf?_eq_some_iff.mp place
        rw [← playOrder_dropAt fits distinct (List.getElem?_eq_some_iff.mpr ⟨inside, here⟩)]
        exact playOrder_congr rfl rfl
  rw [queue, order, trashed_forget, Queue.remove, queue]

/-- A card that leaves the run may have been anywhere, and the cursor still fits
afterwards. -/
theorem cursorFits_forget {c : Combatant} (fits : c.CursorFits) (id : CardId) :
    (c.forget id).CursorFits := by
  unfold forget
  split
  · exact cursorFits_dropAt c _
  · exact fits

/-- The card that comes up after the one under the cursor, if there is another. -/
def cardAfter? (c : Combatant) : Option CardId :=
  if c.deck.length < 2 then none else c.deck[(c.cursor + 1) % c.deck.length]?

/-- The card after the one under the cursor is the second in the order of play,
also where the deck goes around in between. -/
theorem getElem?_playOrder_one {c : Combatant} (fits : c.CursorFits) :
    c.playOrder[1]? = c.cardAfter? := by
  unfold cardAfter?
  split
  · rename_i few
    rw [List.getElem?_eq_none_iff, (playOrder_perm c).length_eq]
    exact Nat.le_of_lt_succ few
  · rename_i several
    exact getElem?_playOrder fits (Nat.le_of_not_lt several)

/-- When a card leaves the run the cursor stays on its card, or goes to the next
one if that is the card that leaves. -/
theorem currentCard?_forget {c : Combatant} (fits : c.CursorFits) (distinct : c.deck.Nodup)
    (id : CardId) :
    (c.forget id).currentCard? =
      if c.currentCard? = some id then c.cardAfter? else c.currentCard? := by
  have order : (c.forget id).playOrder = c.playOrder.erase id :=
    congrArg Queue.order (queue_forget fits distinct id)
  rw [← head?_playOrder (cursorFits_forget fits id), ← head?_playOrder fits,
    ← getElem?_playOrder_one fits, order]
  cases c.playOrder with
  | nil => rfl
  | cons first rest =>
      by_cases here : first = id
      · rw [here, List.erase_cons_head, List.head?_cons, if_pos rfl, List.getElem?_cons_succ,
          List.head?_eq_getElem?]
      · have other : ¬ (first :: rest).head? = some id := fun same => here (Option.some.inj same)
        rw [if_neg other, List.erase_cons_tail (by simpa using here), List.head?_cons,
          List.head?_cons]

end Combatant

end CardBattle
