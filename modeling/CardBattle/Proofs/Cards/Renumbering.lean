/-
Module: CardBattle.Proofs.Cards.Renumbering
Purpose: Cards whose numbers start later are found, linked, arranged and moved in the same way.
Main exports:
  CardId.shift, OrderedMap.shiftKeys, Chains.shift, CardPool.shift, Combatant.shift,
  BattleEvent.shift, Fault.shift, Fault.carry, Chains.link_shift, Chains.arrange_shift,
  CardPool.link_shift, Combatant.putAway_shift, Combatant.forget_shift
-/
import CardBattle.Game.Turn
import CardBattle.Game.DeckBuilding
import Mathlib.Data.List.Basic
import Mathlib.Data.List.InsertIdx

/-!
# Renumbered cards

The number of a card says nothing but which card it is.  If all numbers are moved on by a gap, the
numbers still to be given out with them, then stored cards, links, decks and piles are as before but
for the numbers.  For each operation this is one lemma: carrying it out on what has been renumbered
and renumbering what it comes to are the same.  A fault names the renumbered cards.
-/

namespace CardBattle

open Ranked (rank)

/-! ### Renumbering -/

/-- The card number that is further on by a gap. -/
def CardId.shift (gap : Nat) (id : CardId) : CardId := ⟨id.number + gap⟩

/-- Moving all numbers on by one gap never makes two cards the same.  Every
look-up and every test for membership below survives renumbering for this
reason. -/
theorem CardId.shift_injective (gap : Nat) : Function.Injective (CardId.shift gap) := by
  intro a b same
  cases a
  cases b
  simpa [CardId.shift] using same

@[simp] theorem CardId.shift_inj {gap : Nat} {a b : CardId} :
    a.shift gap = b.shift gap ↔ a = b :=
  (CardId.shift_injective gap).eq_iff

/-- Renumbering keeps the order in which a map lists its cards, since every rank
grows by the same gap. -/
@[simp] theorem CardId.rank_shift (gap : Nat) (id : CardId) :
    rank (id.shift gap) = rank id + gap :=
  rfl

/-- The map with renumbered keys and other values. -/
def OrderedMap.shiftKeys {ν μ : Type} (gap : Nat) (f : ν → μ) (m : OrderedMap CardId ν) :
    OrderedMap CardId μ where
  entries := m.entries.map fun e => (e.1.shift gap, f e.2)
  ascending := List.pairwise_map.mpr (m.ascending.imp fun below => by simpa using below)

/-- The same links between renumbered cards. -/
def Chains.shift (gap : Nat) (chains : Chains) : Chains :=
  ⟨chains.next.shiftKeys gap (CardId.shift gap), chains.prev.shiftKeys gap (CardId.shift gap)⟩

/-- The same cards under other numbers. -/
def CardPool.shift (gap : Nat) (pool : CardPool) : CardPool where
  cards := pool.cards.shiftKeys gap id
  chains := pool.chains.shift gap
  nextNumber := pool.nextNumber + gap

/-- The combatant with renumbered cards in its piles. -/
def Combatant.shift (gap : Nat) (c : Combatant) : Combatant :=
  { c with
    deck := c.deck.map (CardId.shift gap)
    trashed := c.trashed.map (CardId.shift gap)
    previousCard := c.previousCard.map (CardId.shift gap) }

/-- The same event, told of a renumbered card. -/
def BattleEvent.shift (gap : Nat) : BattleEvent → BattleEvent
  | cardPlayed side card => cardPlayed side (card.shift gap)
  | cardDiscarded side card => cardDiscarded side (card.shift gap)
  | cardTrashed side card => cardTrashed side (card.shift gap)
  | event => event

/-- The same refusal of a link between renumbered cards. -/
def ChainError.shift (gap : Nat) : ChainError → ChainError
  | selfLink card => selfLink (card.shift gap)
  | alreadyLinked first second => alreadyLinked (first.shift gap) (second.shift gap)
  | cycle first second => cycle (first.shift gap) (second.shift gap)
  | differentOwners first second => differentOwners (first.shift gap) (second.shift gap)

namespace Fault

/-- The same fault about renumbered cards. -/
def shift (gap : Nat) : Fault → Fault
  | unknownCard card => unknownCard (card.shift gap)
  | badLink error => badLink (error.shift gap)
  | fault => fault

/-- A result with its value changed, or with its fault renumbered. -/
def carry {α β : Type} (gap : Nat) (f : α → β) : Except Fault α → Except Fault β
  | .ok value => .ok (f value)
  | .error fault => .error (fault.shift gap)

@[simp] theorem carry_ok {α β : Type} (gap : Nat) (f : α → β) (value : α) :
    carry gap f (.ok value) = .ok (f value) :=
  rfl

/-- Results that correspond still do so after they have been put in other words. -/
theorem map_of_eq_carry {α β γ δ : Type} {gap : Nat} {f : α → γ} {result : Except Fault α}
    {shifted : Except Fault γ} {say : α → β} {sayShifted : γ → δ} {shift : β → δ}
    (same : shifted = carry gap f result)
    (alike : ∀ value, sayShifted (f value) = shift (say value)) :
    shifted.map sayShifted = carry gap shift (result.map say) := by
  rw [same]
  cases result with
  | error fault => rfl
  | ok value => exact congrArg Except.ok (alike value)

end Fault

/-! ### No gap -/

/-- With no gap nothing is renumbered, so that a run can be compared with itself
as a case of the comparison with a renumbered one. -/
theorem CardId.shift_zero : CardId.shift 0 = id := rfl

theorem OrderedMap.shiftKeys_zero {ν : Type} (m : OrderedMap CardId ν) :
    m.shiftKeys 0 id = m := by
  have entries : m.entries.map (fun e => (e.1.shift 0, id e.2)) = m.entries := List.map_id _
  simp only [shiftKeys, entries]

theorem CardPool.shift_zero (pool : CardPool) : pool.shift 0 = pool := by
  have chains : pool.chains.shift 0 = pool.chains := by
    rw [Chains.shift, CardId.shift_zero, OrderedMap.shiftKeys_zero, OrderedMap.shiftKeys_zero]
  rw [shift, chains, OrderedMap.shiftKeys_zero, Nat.add_zero]

theorem Combatant.shift_zero (c : Combatant) : c.shift 0 = c := by
  rw [shift, CardId.shift_zero, List.map_id, List.map_id, Option.map_id]
  rfl

theorem BattleEvent.map_shift_zero (events : List BattleEvent) :
    events.map (BattleEvent.shift 0) = events := by
  have same : BattleEvent.shift 0 = id := by
    funext event
    cases event <;> rfl
  rw [same, List.map_id]

theorem Fault.shift_zero (fault : Fault) : fault.shift 0 = fault := by
  cases fault with
  | badLink error => cases error <;> rfl
  | _ => rfl

/-- Without a gap, carrying a result over changes its value alone; a fault is
passed on as it is. -/
theorem Fault.carry_zero {α β : Type} (f : α → β) (result : Except Fault α) :
    Fault.carry 0 f result = result.map f := by
  cases result with
  | error fault => exact congrArg Except.error fault.shift_zero
  | ok value => rfl

/-! ### Lists of cards -/

/-- A card is repeated in a renumbered list exactly where it was repeated
before, so the same copies are struck out. -/
theorem eraseDups_map_shift (gap : Nat) (cards : List CardId) :
    (cards.map (CardId.shift gap)).eraseDups = cards.eraseDups.map (CardId.shift gap) := by
  match cards with
  | [] => rfl
  | head :: rest =>
      have same : (fun card => !card == head.shift gap) ∘ CardId.shift gap =
          fun card => !card == head := by
        funext card
        simp [Bool.beq_eq_decide_eq]
      rw [List.map_cons, List.eraseDups_cons, List.eraseDups_cons, List.filter_map, same,
        eraseDups_map_shift gap (rest.filter fun card => !card == head), List.map_cons]
termination_by cards.length
decreasing_by exact Nat.lt_succ_of_le (List.length_filter_le ..)

/-- A renumbered card stands at the place at which it stood before.  The place
counts cards and is not moved on itself. -/
theorem idxOf?_map_shift (gap : Nat) (cards : List CardId) (id : CardId) :
    (cards.map (CardId.shift gap)).idxOf? (id.shift gap) = cards.idxOf? id := by
  have same : (· == id.shift gap) ∘ CardId.shift gap = (· == id) := by
    funext card
    simp [Bool.beq_eq_decide_eq]
  rw [List.idxOf?, List.findIdx?_map, same, List.idxOf?]

@[simp] theorem mem_map_shift {gap : Nat} {cards : List CardId} {id : CardId} :
    id.shift gap ∈ cards.map (CardId.shift gap) ↔ id ∈ cards :=
  List.mem_map_of_injective (CardId.shift_injective gap)

/-! ### Maps -/

namespace OrderedMap

variable {ν μ : Type} (gap : Nat) (f : ν → μ) (m : OrderedMap CardId ν)

/-- What a map holds for a card is found under the new number, changed as the
values are. -/
@[simp] theorem find?_shiftKeys (id : CardId) :
    (m.shiftKeys gap f).find? (id.shift gap) = (m.find? id).map f := by
  have entries : ∀ l : List (CardId × ν),
      findEntry (id.shift gap) (l.map fun e => (e.1.shift gap, f e.2)) =
        (findEntry id l).map f := by
    intro l
    induction l with
    | nil => rfl
    | cons head rest ih =>
        rw [List.map_cons, findEntry, findEntry, ih]
        by_cases here : rank head.1 = rank id
        · simp [here]
        · simp [here]
  exact entries m.entries

/-- Whether a card has an entry does not depend on how the cards are numbered. -/
@[simp] theorem contains_shiftKeys (id : CardId) :
    (m.shiftKeys gap f).contains (id.shift gap) = m.contains id := by
  rw [contains, find?_shiftKeys, Option.isSome_map, contains]

@[simp] theorem size_shiftKeys : (m.shiftKeys gap f).size = m.size :=
  List.length_map ..

@[simp] theorem isEmpty_shiftKeys : (m.shiftKeys gap f).isEmpty = m.isEmpty :=
  List.isEmpty_map

/-- Entering a renumbered card keeps the keys ascending at the same place, so it
makes no difference whether a map is renumbered before or after. -/
theorem insert_shiftKeys (id : CardId) (value : ν) :
    (m.shiftKeys gap f).insert (id.shift gap) (f value) = (m.insert id value).shiftKeys gap f := by
  have entries : ∀ l : List (CardId × ν),
      insertEntry (id.shift gap) (f value) (l.map fun e => (e.1.shift gap, f e.2)) =
        (insertEntry id value l).map fun e => (e.1.shift gap, f e.2) := by
    intro l
    induction l with
    | nil => rfl
    | cons head rest ih =>
        rw [List.map_cons, insertEntry, insertEntry, ih]
        simp only [CardId.rank_shift, Nat.add_lt_add_iff_right, Nat.add_right_cancel_iff]
        split
        · rfl
        · split
          · rfl
          · rfl
  simp only [insert, shiftKeys, entries]

theorem erase_shiftKeys (id : CardId) :
    (m.shiftKeys gap f).erase (id.shift gap) = (m.erase id).shiftKeys gap f := by
  have same : (fun e : CardId × μ => decide (rank e.1 ≠ rank (id.shift gap))) ∘
      (fun e : CardId × ν => (e.1.shift gap, f e.2)) = fun e => decide (rank e.1 ≠ rank id) := by
    funext e
    simp
  simp only [erase, filter, shiftKeys, List.filter_map, same]

end OrderedMap

/-! ### Links -/

namespace Chains

variable (gap : Nat) (chains : Chains)

@[simp] theorem successor?_shift (id : CardId) :
    (chains.shift gap).successor? (id.shift gap) =
      (chains.successor? id).map (CardId.shift gap) :=
  OrderedMap.find?_shiftKeys ..

/-- The card linked before a renumbered card is the renumbered predecessor, the
other direction of `successor?_shift`. -/
@[simp] theorem predecessor?_shift (id : CardId) :
    (chains.shift gap).predecessor? (id.shift gap) =
      (chains.predecessor? id).map (CardId.shift gap) :=
  OrderedMap.find?_shiftKeys ..

/-- A walk along renumbered links takes the same steps: the bound counts cards,
and the target is met at the same step or not at all. -/
theorem reachesWithin_shift (target : CardId) (cards : Nat) (current : CardId) :
    (chains.shift gap).reachesWithin (target.shift gap) cards (current.shift gap) =
      chains.reachesWithin target cards current := by
  induction cards generalizing current with
  | zero => rfl
  | succ cards ih =>
      rw [reachesWithin, reachesWithin, successor?_shift]
      cases chains.successor? current with
      | none => simp
      | some following => simp [ih]

/-- Which cards a chain reaches does not depend on the numbers.  The walk has as
many links to follow as before, so its bound is the same too. -/
@[simp] theorem reaches_shift (start target : CardId) :
    (chains.shift gap).reaches (start.shift gap) (target.shift gap) =
      chains.reaches start target := by
  have size : (chains.shift gap).size = chains.size := OrderedMap.size_shiftKeys ..
  rw [reaches, size, reachesWithin_shift, reaches]

/-- Renumbered cards are linked, or refused to be, as the cards were before. -/
theorem link_shift (first second : CardId) :
    (chains.shift gap).link (first.shift gap) (second.shift gap) =
      match chains.link first second with
      | .ok linked => .ok (linked.shift gap)
      | .error refusal => .error (refusal.shift gap) := by
  have next : (chains.shift gap).next.contains (first.shift gap) = chains.next.contains first :=
    OrderedMap.contains_shiftKeys ..
  have prev : (chains.shift gap).prev.contains (second.shift gap) = chains.prev.contains second :=
    OrderedMap.contains_shiftKeys ..
  unfold link
  rw [next, prev, reaches_shift]
  simp only [CardId.shift_inj]
  split
  · rfl
  · split
    · rfl
    · split
      · rfl
      · simp [shift, OrderedMap.insert_shiftKeys]

/-- Cutting a link in the forward direction commutes with renumbering, also
where there is no link to cut. -/
theorem dropNext_shift (id : CardId) :
    (chains.shift gap).dropNext (id.shift gap) = (chains.dropNext id).shift gap := by
  unfold dropNext
  have found : (chains.shift gap).next.find? (id.shift gap) =
      (chains.next.find? id).map (CardId.shift gap) := OrderedMap.find?_shiftKeys ..
  rw [found]
  cases chains.next.find? id with
  | none => rfl
  | some following => simp [shift, OrderedMap.erase_shiftKeys]

theorem dropPrev_shift (id : CardId) :
    (chains.shift gap).dropPrev (id.shift gap) = (chains.dropPrev id).shift gap := by
  unfold dropPrev
  have found : (chains.shift gap).prev.find? (id.shift gap) =
      (chains.prev.find? id).map (CardId.shift gap) := OrderedMap.find?_shiftKeys ..
  rw [found]
  cases chains.prev.find? id with
  | none => rfl
  | some leading => simp [shift, OrderedMap.erase_shiftKeys]

theorem unlink_shift (id : CardId) :
    (chains.shift gap).unlink (id.shift gap) = (chains.unlink id).shift gap := by
  rw [unlink, dropNext_shift, dropPrev_shift, unlink]

/-- A card starts a chain of a renumbered deck if it did so before: its
predecessor is missing from the deck, or is in it, under either number. -/
theorem leads_shift (deck : List CardId) (id : CardId) :
    (chains.shift gap).leads (deck.map (CardId.shift gap)) (id.shift gap) =
      chains.leads deck id := by
  unfold leads
  rw [predecessor?_shift]
  cases chains.predecessor? id with
  | none => rfl
  | some leading => simp

/-- The chain collected behind a card is the same chain of renumbered cards, as
far as the bound lets it be followed. -/
theorem followWithin_shift (deck : List CardId) (cards : Nat) (id : CardId) :
    (chains.shift gap).followWithin (deck.map (CardId.shift gap)) cards (id.shift gap) =
      (chains.followWithin deck cards id).map (CardId.shift gap) := by
  induction cards generalizing id with
  | zero => rfl
  | succ cards ih =>
      rw [followWithin, followWithin, successor?_shift]
      simp only [mem_map_shift]
      split
      · cases chains.successor? id with
        | none => rfl
        | some following => simp [ih]
      · rfl

/-- A renumbered deck is put in the same order. -/
theorem arrange_shift (deck : List CardId) :
    (chains.shift gap).arrange (deck.map (CardId.shift gap)) =
      (chains.arrange deck).map (CardId.shift gap) := by
  have isEmpty : (chains.shift gap).isEmpty = chains.isEmpty := OrderedMap.isEmpty_shiftKeys ..
  have leads : (chains.shift gap).leads (deck.map (CardId.shift gap)) ∘ CardId.shift gap =
      chains.leads deck := by
    funext id
    exact leads_shift ..
  have follow : ∀ id : CardId,
      (chains.shift gap).follow (deck.map (CardId.shift gap)) (id.shift gap) =
        (chains.follow deck id).map (CardId.shift gap) := by
    intro id
    rw [follow, List.length_map, followWithin_shift, Chains.follow]
  unfold arrange
  rw [isEmpty]
  split
  · rfl
  · rw [gather, List.filter_map, leads, eraseDups_map_shift, List.flatMap_map, gather,
      List.map_flatMap]
    simp only [follow]

end Chains

/-! ### Pools -/

namespace CardPool

variable (gap : Nat) (pool : CardPool)

@[simp] theorem card?_shift (id : CardId) :
    (pool.shift gap).card? (id.shift gap) = pool.card? id := by
  simp [card?, shift]

/-- Renumbering gives no card to the other side. -/
@[simp] theorem owner?_shift (id : CardId) :
    (pool.shift gap).owner? (id.shift gap) = pool.owner? id := by
  simp [owner?, shift]

/-- Reading a card that is not stored is a fault in both pools, and the fault
names the card by the number that was asked for. -/
theorem get_shift (id : CardId) :
    (pool.shift gap).get (id.shift gap) = Fault.carry gap (fun card => card) (pool.get id) := by
  rw [get, get, card?_shift]
  cases pool.card? id with
  | none => rfl
  | some card => rfl

/-- A new card gets the next number in either pool, and these two numbers are a
gap apart.  What has been handed out stays in step for that reason. -/
theorem insert_shift (card : Card) (owner : Side) :
    (pool.shift gap).insert card owner =
      ((pool.insert card owner).1.shift gap, (pool.insert card owner).2.shift gap) := by
  have number : (⟨pool.nextNumber + gap⟩ : CardId) = CardId.shift gap ⟨pool.nextNumber⟩ := rfl
  have cards := OrderedMap.insert_shiftKeys gap id pool.cards ⟨pool.nextNumber⟩ ⟨card, owner⟩
  simp only [insert, shift, number]
  rw [← cards, Nat.add_right_comm]
  rfl

/-- Erasing a renumbered card erases it with its links, and leaves the next
number alone. -/
theorem erase_shift (id : CardId) :
    (pool.shift gap).erase (id.shift gap) = (pool.erase id).shift gap := by
  simp [erase, shift, OrderedMap.erase_shiftKeys, Chains.unlink_shift]

/-- A link is made in both pools or refused in both, for the same reason told of
the renumbered cards. -/
theorem link_shift (first second : CardId) :
    (pool.shift gap).link (first.shift gap) (second.shift gap) =
      Fault.carry gap (CardPool.shift gap) (pool.link first second) := by
  have chains : (pool.shift gap).chains = pool.chains.shift gap := rfl
  unfold link
  rw [owner?_shift, owner?_shift, chains, Chains.link_shift]
  cases pool.owner? first with
  | none => rfl
  | some owner =>
      cases pool.owner? second with
      | none => rfl
      | some other =>
          dsimp only
          split
          · rfl
          · cases pool.chains.link first second with
            | error refusal => rfl
            | ok linked => rfl

/-- Unlinking is a fault for a card that is not stored, in either pool;
otherwise the same links go. -/
theorem unlink_shift (id : CardId) :
    (pool.shift gap).unlink (id.shift gap) =
      Fault.carry gap (CardPool.shift gap) (pool.unlink id) := by
  have stored : (pool.shift gap).contains (id.shift gap) = pool.contains id :=
    OrderedMap.contains_shiftKeys ..
  have chains : (pool.shift gap).chains = pool.chains.shift gap := rfl
  unfold unlink
  rw [stored, chains, Chains.unlink_shift]
  split
  · rfl
  · rfl

/-- Erasing several cards in a row commutes with renumbering, one card at a
time. -/
theorem eraseAll_shift (ids : List CardId) :
    (ids.map (CardId.shift gap)).foldl erase (pool.shift gap) =
      (ids.foldl erase pool).shift gap := by
  induction ids generalizing pool with
  | nil => rfl
  | cons id rest ih => rw [List.map_cons, List.foldl_cons, erase_shift, ih, List.foldl_cons]

end CardPool

/-! ### Piles -/

namespace Combatant

variable (gap : Nat) (c : Combatant)

/-- Statuses do not mention cards, so changing one has nothing to do with the
piles. -/
theorem setStatus_shift (s : Status) (value : Binary64) :
    (c.shift gap).setStatus s value = (c.setStatus s value).shift gap := by
  unfold setStatus
  dsimp only
  split
  · rfl
  · rfl

theorem addStatus_shift (s : Status) (addend : Binary64) :
    (c.shift gap).addStatus s addend = (c.addStatus s addend).shift gap :=
  setStatus_shift ..

/-- A stack is spent, or missing, whatever the cards of the combatant are
called. -/
theorem spend?_shift (s : Status) :
    (c.shift gap).spend? s = (c.spend? s).map (Combatant.shift gap) := by
  have status : (c.shift gap).status s = c.status s := rfl
  unfold spend?
  rw [status, addStatus_shift]
  split
  · rfl
  · rfl

theorem spend_shift (s : Status) : (c.shift gap).spend s = (c.spend s).shift gap := by
  rw [spend, spend?_shift, Option.getD_map, spend]

/-- The cursor is a place and not a card: it stays, and the card under it is the
renumbered one. -/
@[simp] theorem currentCard?_shift :
    (c.shift gap).currentCard? = c.currentCard?.map (CardId.shift gap) :=
  List.getElem?_map ..

@[simp] theorem deckPosition?_shift (id : CardId) :
    (c.shift gap).deckPosition? (id.shift gap) = c.deckPosition? id :=
  idxOf?_map_shift ..

/-- The cursor goes on, or back to the start, as it did before, because the deck
is as long as before. -/
theorem advanceCursor_shift : (c.shift gap).advanceCursor = c.advanceCursor.shift gap := by
  simp [advanceCursor, shift]

theorem fixCursor_shift : (c.shift gap).fixCursor = c.fixCursor.shift gap := by
  simp [fixCursor, shift]

/-- Taking a card out of the deck by its place corrects the cursor in the same
way. -/
theorem dropAt_shift (index : Nat) : (c.shift gap).dropAt index = (c.dropAt index).shift gap := by
  have deck : (c.shift gap).deck.eraseIdx index =
      (c.deck.eraseIdx index).map (CardId.shift gap) := List.eraseIdx_map ..
  rw [dropAt, dropAt, ← fixCursor_shift, deck]
  rfl

/-- Trashing a card moves it from the deck to the trashed pile under its new
number. -/
theorem trashAt_shift (index : Nat) (id : CardId) :
    (c.shift gap).trashAt index (id.shift gap) = (c.trashAt index id).shift gap := by
  unfold trashAt
  rw [dropAt_shift]
  simp [shift]

/-- A renumbered card is put away as it was before. -/
theorem putAway_shift (id : CardId) (trash : Bool) :
    (c.shift gap).putAway (id.shift gap) trash =
      ((c.putAway id trash).1.shift gap, (c.putAway id trash).2) := by
  unfold putAway
  rw [deckPosition?_shift]
  split
  · rw [trashAt_shift]
  · rw [advanceCursor_shift]

/-- A renumbered card leaves both piles, and the cursor is corrected for it as
before. -/
theorem forget_shift (id : CardId) :
    (c.shift gap).forget (id.shift gap) = (c.forget id).shift gap := by
  have other : (fun card : CardId => decide (card ≠ id.shift gap)) ∘ CardId.shift gap =
      fun card => decide (card ≠ id) := by
    funext card
    simp
  have filtered : ∀ d : Combatant,
      { d.shift gap with
        trashed := (d.shift gap).trashed.filter fun card => card ≠ id.shift gap } =
      ({ d with trashed := d.trashed.filter fun card => card ≠ id } : Combatant).shift gap := by
    intro d
    simp only [shift, List.filter_map, other]
  unfold forget
  rw [deckPosition?_shift]
  cases c.deckPosition? id with
  | none => exact filtered c
  | some index =>
      dsimp only
      rw [dropAt_shift]
      exact filtered _

theorem beginTurn_shift : (c.shift gap).beginTurn = c.beginTurn.shift gap := rfl

theorem regenerate_shift : (c.shift gap).regenerate = c.regenerate.shift gap :=
  addStatus_shift gap { c with health := c.health + c.wholeStacks .regen } .regen (-1)

/-- Assigning to a field of the combatant is accepted or refused for the field
and the value alone; its piles come along renumbered. -/
theorem assign_shift (field : Field) (value : Binary64) :
    (c.shift gap).assign field value =
      Fault.carry gap (Combatant.shift gap) (c.assign field value) := by
  cases field with
  | status s => exact congrArg Except.ok (setStatus_shift ..)
  | _ => rfl

end Combatant

end CardBattle
