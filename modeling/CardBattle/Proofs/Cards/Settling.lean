/-
Module: CardBattle.Proofs.Cards.Settling
Purpose: A combatant whose deck is arranged with the cursor staying on its card.
Main exports:
  Combatant.layOut, Combatant.settle, Combatant.currentCard?_settle, Combatant.settle_settle,
  Combatant.settle_eq_self
-/
import CardBattle.Proofs.Cards.Rotation
import CardBattle.Proofs.Chains.Uniqueness

/-!
# Settling a deck

To settle a deck is to arrange it and to put the cursor at the card under it again.  What comes of it
depends on the deck and on the card under the cursor only, and settling keeps that card.  So settling
along some of the links on the way to all of them leaves no trace, and a deck that respects the links
is settled already.
-/

namespace CardBattle.Combatant

/-- The combatant with its deck in another order, and the cursor at one of the
cards. -/
def layOut (c : Combatant) (deck : List CardId) (id? : Option CardId) : Combatant :=
  { c with deck := deck, cursor := (id?.bind deck.idxOf?).getD 0 }

/-- The combatant with the chains of its deck put together, and the cursor on
the same card. -/
def settle (c : Combatant) (chains : Chains) : Combatant :=
  c.layOut (chains.arrange c.deck) c.currentCard?

/-- A cursor that fits is where its card is found. -/
theorem layOut_eq_self {c : Combatant} (fits : c.CursorFits) (distinct : c.deck.Nodup) :
    c.layOut c.deck c.currentCard? = c := by
  have cursor : (c.currentCard?.bind c.deck.idxOf?).getD 0 = c.cursor := by
    cases current : c.currentCard? with
    | none =>
        rcases fits with inside | ⟨-, start⟩
        · exact absurd inside (Nat.not_lt.mpr (List.getElem?_eq_none_iff.mp current))
        · exact start.symm
    | some id =>
        cases place : c.deck.idxOf? id with
        | none =>
            exact absurd (List.mem_of_getElem? current) (List.idxOf?_eq_none_iff.mp place)
        | some index =>
            rw [Option.bind_some, place]
            exact deckPosition?_current distinct current place
  rw [layOut, cursor]

section

variable {c : Combatant} {chains : Chains} (wf : chains.WellFormed) (fits : c.CursorFits)
  (distinct : c.deck.Nodup)
include wf fits distinct

/-- Settling a deck keeps the card under the cursor, wherever that card is put. -/
theorem currentCard?_settle : (c.settle chains).currentCard? = c.currentCard? := by
  have same : (chains.arrange c.deck).Perm c.deck := wf.arrange_perm distinct
  have inside : (c.settle chains).CursorFits :=
    cursorFits_find { c with deck := chains.arrange c.deck } c.currentCard?
  have first : (c.settle chains).playOrder.head? = c.playOrder.head? :=
    head?_playOrder_find (d := { c with deck := chains.arrange c.deck }) fits same
  rwa [head?_playOrder inside, head?_playOrder fits] at first

/-- Settling a deck along some of the links first makes no difference.  Links
can so be made one by one, and the deck settled after each. -/
theorem settle_settle {more : Chains} (wfMore : more.WellFormed)
    (sub : ∀ a b, chains.Follows a b → more.Follows a b) :
    (c.settle chains).settle more = c.settle more := by
  calc (c.settle chains).settle more
      = c.layOut (more.arrange (chains.arrange c.deck)) (c.settle chains).currentCard? := rfl
    _ = c.layOut (more.arrange c.deck) c.currentCard? := by
        rw [wf.arrange_arrange wfMore sub distinct, currentCard?_settle wf fits distinct]

/-- A deck that respects the links is settled, cursor included. -/
theorem settle_eq_self (contiguous : chains.Contiguous c.deck) : c.settle chains = c := by
  rw [settle, contiguous.arrange_eq_self wf distinct]
  exact layOut_eq_self fits distinct

end

end CardBattle.Combatant
