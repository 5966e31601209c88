/-
Module: CardBattle.Proofs.Cards.Holdings
Purpose: A combatant's deck and trashed pile against the pool: which moves of cards keep them exact.
Main exports:
  Combatant.cards, Combatant.Holds, Combatant.Holds.trashAt, Combatant.Holds.gain,
  Combatant.Holds.forget, Combatant.Holds.arrange
-/
import CardBattle.Game.DeckBuilding
import CardBattle.Game.Turn
import CardBattle.Proofs.Cards.Pool
import CardBattle.Proofs.Chains.Arrangement

/-!
# Holdings

A combatant holds exactly its cards when its deck and its trashed pile together list, each once, the
cards that the pool stores under its side, and its deck respects the links.  Each way in which cards
move is one lemma about the holder, and one about a side that looks on.
-/

namespace CardBattle.Combatant

/-- All cards of a combatant: those in the deck and those out of play. -/
def cards (c : Combatant) : List CardId := c.deck ++ c.trashed

/-- The piles list exactly the cards stored for a side, and the deck respects
the links. -/
structure Holds (c : Combatant) (pool : CardPool) (side : Side) : Prop where
  distinct : c.cards.Nodup
  owned : ∀ id, id ∈ c.cards ↔ pool.owner? id = some side
  contiguous : pool.chains.Contiguous c.deck

/-! ### Taking a card out of the deck -/

/-- In a deck without duplicates a place stands for its card. -/
theorem eraseIdx_eq_filter {deck : List CardId} (distinct : deck.Nodup) {index : Nat} {id : CardId}
    (here : deck[index]? = some id) :
    deck.eraseIdx index = deck.filter fun other => other ≠ id := by
  obtain ⟨inside, rfl⟩ := List.getElem?_eq_some_iff.mp here
  rw [← distinct.erase_getElem index inside, distinct.erase_eq_filter]
  exact List.filter_congr fun other _ => (decide_not ..).symm

/-- Trashing a card moves it from one pile to the other: no card is lost, and
none is doubled. -/
theorem cards_trashAt_perm {c : Combatant} (distinct : c.deck.Nodup) {index : Nat} {id : CardId}
    (here : c.deck[index]? = some id) : (c.trashAt index id).cards.Perm c.cards := by
  obtain ⟨inside, same⟩ := List.getElem?_eq_some_iff.mp here
  have out : (id :: c.deck.eraseIdx index).Perm c.deck := by
    rw [← distinct.erase_getElem index inside, same]
    exact (List.perm_cons_erase (List.mem_of_getElem? here)).symm
  calc c.deck.eraseIdx index ++ (c.trashed ++ [id])
      = (c.deck.eraseIdx index ++ c.trashed) ++ [id] := (List.append_assoc ..).symm
    List.Perm _ (id :: (c.deck.eraseIdx index ++ c.trashed)) := List.perm_append_singleton ..
    List.Perm _ (c.deck ++ c.trashed) := out.append_right c.trashed

/-- A card that leaves the run is gone from the deck, and the other cards keep
their order.  The deck must list each card once, because only one place is given
up. -/
theorem deck_forget {c : Combatant} (distinct : c.deck.Nodup) (id : CardId) :
    (c.forget id).deck = c.deck.filter fun other => other ≠ id := by
  unfold forget deckPosition?
  cases place : c.deck.idxOf? id with
  | none =>
      have outside : id ∉ c.deck := List.idxOf?_eq_none_iff.mp place
      refine (List.filter_eq_self.mpr fun other mem => ?_).symm
      have differs : other ≠ id := fun same => outside (same ▸ mem)
      simpa using differs
  | some index =>
      obtain ⟨inside, here, -⟩ := List.idxOf?_eq_some_iff.mp place
      exact eraseIdx_eq_filter distinct (List.getElem?_eq_some_iff.mpr ⟨inside, here⟩)

/-- The trashed pile is filtered as a whole, so nothing has to be known of it
for the card to be gone. -/
theorem trashed_forget (c : Combatant) (id : CardId) :
    (c.forget id).trashed = c.trashed.filter fun other => other ≠ id := by
  unfold forget
  split <;> rfl

/-- Of all cards of a combatant, exactly the one forgotten is missing
afterwards, whichever pile it was in. -/
theorem cards_forget {c : Combatant} (distinct : c.deck.Nodup) (id : CardId) :
    (c.forget id).cards = c.cards.filter fun other => other ≠ id := by
  rw [cards, deck_forget distinct, trashed_forget, cards, List.filter_append]

namespace Holds

variable {c : Combatant} {pool : CardPool} {side : Side}

/-- The cards of a combatant are pairwise different in both piles together,
hence in the deck. -/
theorem deck_nodup (held : c.Holds pool side) : c.deck.Nodup :=
  (List.nodup_append.mp held.distinct).1

theorem owner?_of_mem_deck (held : c.Holds pool side) {id : CardId} (inside : id ∈ c.deck) :
    pool.owner? id = some side :=
  (held.owned id).mp (List.mem_append_left _ inside)

/-- Only the two piles count. -/
theorem congr (held : c.Holds pool side) {d : Combatant} (deck : d.deck = c.deck)
    (trashed : d.trashed = c.trashed) : d.Holds pool side := by
  have cards : d.cards = c.cards := by rw [Combatant.cards, deck, trashed, Combatant.cards]
  exact ⟨cards ▸ held.distinct, fun id => cards ▸ held.owned id, deck ▸ held.contiguous⟩

/-- The same cards in other places, with a deck that respects the links. -/
theorem of_perm (held : c.Holds pool side) {d : Combatant} (same : d.cards.Perm c.cards)
    (contiguous : pool.chains.Contiguous d.deck) : d.Holds pool side :=
  ⟨same.nodup_iff.mpr held.distinct, fun id => same.mem_iff.trans (held.owned id), contiguous⟩

/-- A side for which no card is stored holds two empty piles, as at the start of
a run and after a reset. -/
theorem of_no_cards (none : ∀ id, pool.owner? id ≠ some side) (deck : c.deck = [])
    (trashed : c.trashed = []) : c.Holds pool side := by
  have cards : c.cards = [] := by rw [Combatant.cards, deck, trashed, List.append_nil]
  refine ⟨cards ▸ List.nodup_nil, fun id => ?_, deck ▸ Chains.Contiguous.nil _⟩
  simp [cards, none id]

/-! ### The holder -/

/-- A trashed card is still owned by its side, and what is left of the deck
keeps its linked cards together. -/
theorem trashAt (held : c.Holds pool side) {index : Nat} {id : CardId}
    (here : c.deck[index]? = some id) : (c.trashAt index id).Holds pool side := by
  refine held.of_perm (cards_trashAt_perm held.deck_nodup here) ?_
  show pool.chains.Contiguous (c.deck.eraseIdx index)
  rw [eraseIdx_eq_filter held.deck_nodup here]
  exact held.contiguous.filter _

/-- A card that has been played is trashed or passed over. -/
theorem putAway (held : c.Holds pool side) (id : CardId) (trash : Bool) :
    (c.putAway id trash).1.Holds pool side := by
  unfold Combatant.putAway
  split
  · rename_i place
    obtain ⟨inside, here, -⟩ := List.idxOf?_eq_some_iff.mp place
    exact held.trashAt (List.getElem?_eq_some_iff.mpr ⟨inside, here⟩)
  · exact held.congr rfl rfl

/-- A new card goes below the deck.  It has no links, so nothing is torn apart. -/
theorem gain (held : c.Holds pool side) (sound : pool.Sound) (card : Card) :
    { c with deck := c.deck ++ [(pool.insert card side).1] }.Holds (pool.insert card side).2
      side := by
  have new : (pool.insert card side).1 ∉ c.cards := by
    intro mem
    have found := (held.owned _).mp mem
    rw [show pool.owner? (pool.insert card side).1 = none from sound.owner?_next] at found
    cases found
  have same : (c.deck ++ [(pool.insert card side).1] ++ c.trashed).Perm
      ((pool.insert card side).1 :: c.cards) := by
    rw [List.append_assoc]
    exact List.perm_middle
  refine ⟨same.nodup_iff.mpr (List.nodup_cons.mpr ⟨new, held.distinct⟩), fun id => ?_, ?_⟩
  · rw [CardPool.owner?_insert]
    refine same.mem_iff.trans ?_
    rw [List.mem_cons, held.owned]
    by_cases this : id = (pool.insert card side).1 <;> simp [this]
  · refine held.contiguous.append_unlinked fun a b step => ?_
    obtain ⟨first, second⟩ := sound.numbered_of_follows step
    constructor
    · rintro rfl
      exact Nat.lt_irrefl _ first
    · rintro rfl
      exact Nat.lt_irrefl _ second

/-- Forgetting a card on both sides of the ledger at once, in the piles and in
the pool, leaves them in agreement. -/
theorem forget (held : c.Holds pool side) (sound : pool.Sound) (id : CardId) :
    (c.forget id).Holds (pool.erase id) side := by
  have cards := cards_forget held.deck_nodup id
  refine ⟨cards ▸ held.distinct.filter _, fun other => ?_, ?_⟩
  · rw [cards, List.mem_filter, held.owned, CardPool.owner?_erase]
    by_cases this : other = id <;> simp [this]
  · rw [deck_forget held.deck_nodup]
    refine (held.contiguous.filter _).of_follows fun a b step _ _ => ?_
    exact (sound.links.follows_unlink.mp step).1

/-- A deck whose cards are put in another order is arranged anew. -/
theorem arrange (held : c.Holds pool side) {chains : Chains} (wf : chains.WellFormed)
    {d : Combatant} {deck : List CardId} (same : deck.Perm c.deck)
    (arranged : d.deck = chains.arrange deck) (trashed : d.trashed = c.trashed) :
    d.Holds { pool with chains := chains } side := by
  have distinct : deck.Nodup := same.nodup_iff.mpr held.deck_nodup
  have cards : d.cards.Perm c.cards := by
    rw [Combatant.cards, arranged, trashed]
    exact ((wf.arrange_perm distinct).trans same).append_right c.trashed
  refine ⟨cards.nodup_iff.mpr held.distinct, fun id => cards.mem_iff.trans (held.owned id), ?_⟩
  rw [arranged]
  exact wf.contiguous_arrange distinct

/-! ### A side that looks on -/

/-- The pool may change as long as this side's cards stay its own and get no
further link among themselves. -/
theorem look_on (held : c.Holds pool side) {other : CardPool}
    (owners : ∀ id, other.owner? id = some side ↔ pool.owner? id = some side)
    (sub : ∀ a b, other.chains.Follows a b → pool.owner? a = some side → pool.chains.Follows a b) :
    c.Holds other side :=
  ⟨held.distinct, fun id => (held.owned id).trans (owners id).symm,
    held.contiguous.of_follows fun a b step inside _ =>
      sub a b step (held.owner?_of_mem_deck inside)⟩

/-- A card added for one side is no concern of the other one. -/
theorem look_on_insert (held : c.Holds pool side) (sound : pool.Sound) (card : Card)
    {owner : Side} (differs : owner ≠ side) : c.Holds (pool.insert card owner).2 side := by
  refine held.look_on (fun id => ?_) fun _ _ step _ => step
  rw [CardPool.owner?_insert]
  split
  · rename_i new
    rw [new, show pool.owner? (pool.insert card owner).1 = none from sound.owner?_next]
    simp [differs]
  · rfl

/-- A card erased on one side is no concern of the other one, whose links do not
lead to it. -/
theorem look_on_erase (held : c.Holds pool side) (sound : pool.Sound) {gone : CardId}
    (differs : pool.owner? gone ≠ some side) : c.Holds (pool.erase gone) side := by
  refine held.look_on (fun id => ?_) fun a b step _ => (sound.links.follows_unlink.mp step).1
  rw [CardPool.owner?_erase]
  split
  · rename_i same
    simp [same, differs]
  · rfl

/-- When one side's cards are erased in a row, as for a new opponent, the other
side keeps what it holds. -/
theorem look_on_eraseAll {ids : List CardId} (held : c.Holds pool side) (sound : pool.Sound)
    (differ : ∀ id ∈ ids, pool.owner? id ≠ some side) :
    c.Holds (ids.foldl CardPool.erase pool) side := by
  induction ids generalizing pool with
  | nil => exact held
  | cons gone rest ih =>
      rw [List.foldl_cons]
      refine ih (held.look_on_erase sound (differ gone (List.mem_cons_self ..)))
        (sound.erase gone) fun id mem => ?_
      rw [CardPool.owner?_erase]
      split
      · exact nofun
      · exact differ id (List.mem_cons_of_mem _ mem)

/-- A link joins cards of one owner, so the other side's deck respects the links
with the new one as well as without. -/
theorem look_on_link (held : c.Holds pool side) {first second : CardId} {chains : Chains}
    (made : pool.chains.link first second = .ok chains) (differs : pool.owner? first ≠ some side) :
    c.Holds { pool with chains := chains } side := by
  refine held.look_on (fun _ => .rfl) fun a b step owner => ?_
  rcases (Chains.follows_of_link made).mp step with old | ⟨rfl, -⟩
  · exact old
  · exact absurd owner differs

/-- With fewer links there is less for the deck to respect. -/
theorem unlink (held : c.Holds pool side) (sound : pool.Sound) (id : CardId) :
    c.Holds { pool with chains := pool.chains.unlink id } side :=
  held.look_on (fun _ => .rfl) fun _ _ step _ => (sound.links.follows_unlink.mp step).1

end Holds

end CardBattle.Combatant
