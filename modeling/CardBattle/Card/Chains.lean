/-
Module: CardBattle.Card.Chains
Purpose: Links that force one card to be played right after another.
Main exports:
  ChainError, Chains, Chains.link, Chains.unlink, Chains.reaches, Chains.arrange
-/
import CardBattle.Card.Id

/-!
# Chains

A card has at most one successor and at most one predecessor.  Both directions are stored, so
each question is one look-up.  `link` refuses a link that would give a card a second neighbour on
one side or close a cycle; `unlink` removes a card's links at both of their ends.

`arrange` reorders a deck.  The cards without a predecessor in the deck keep their order, and
each of them is followed by its chain for as long as the next card is in the deck.
-/

namespace CardBattle

/-- Why a link is refused. -/
inductive ChainError where
  /-- A card cannot follow itself. -/
  | selfLink (card : CardId)
  /-- One of the cards has a neighbour on that side. -/
  | alreadyLinked (first second : CardId)
  /-- The second card already leads to the first. -/
  | cycle (first second : CardId)
  /-- The cards are in different decks. -/
  | differentOwners (first second : CardId)
deriving Repr, DecidableEq

namespace ChainError

/-- Wording of the refusal. -/
def message : ChainError → String
  | selfLink card => s!"{card} cannot chain to itself"
  | alreadyLinked first second =>
      s!"{first} already has a successor or {second} already has a predecessor"
  | cycle first second => s!"linking {first} -> {second} would create a cycle"
  | differentOwners first second => s!"{first} and {second} belong to different decks"

end ChainError

/-- Links between cards, stored in both directions. -/
structure Chains where
  next : OrderedMap CardId CardId
  prev : OrderedMap CardId CardId
deriving DecidableEq

namespace Chains

/-- No links at all. -/
def empty : Chains := ⟨.empty, .empty⟩

/-- The card to play right after this one. -/
def successor? (chains : Chains) (card : CardId) : Option CardId := chains.next.find? card

/-- The card that this one is played right after. -/
def predecessor? (chains : Chains) (card : CardId) : Option CardId := chains.prev.find? card

/-- Number of links. -/
def size (chains : Chains) : Nat := chains.next.size

/-- Whether there are no links. -/
def isEmpty (chains : Chains) : Bool := chains.next.isEmpty

/-- Whether one of the first `cards` cards along the successors of `current` is
`target`. -/
def reachesWithin (chains : Chains) (target : CardId) : (cards : Nat) → CardId → Bool
  | 0, _ => false
  | cards + 1, current =>
      current = target ||
        match chains.successor? current with
        | some following => chains.reachesWithin target cards following
        | none => false

/-- Whether walking along successors leads from one card to another.  A walk
that meets every link sees one card more than there are links. -/
def reaches (chains : Chains) (start target : CardId) : Bool :=
  chains.reachesWithin target (chains.size + 1) start

/-- Let `second` follow `first`. -/
def link (chains : Chains) (first second : CardId) : Except ChainError Chains :=
  if first = second then .error (.selfLink first)
  else if chains.next.contains first || chains.prev.contains second then
    .error (.alreadyLinked first second)
  else if chains.reaches second first then .error (.cycle first second)
  else .ok ⟨chains.next.insert first second, chains.prev.insert second first⟩

/-- Remove the link from a card to its successor, at both ends. -/
def dropNext (chains : Chains) (card : CardId) : Chains :=
  match chains.next.find? card with
  | some following => ⟨chains.next.erase card, chains.prev.erase following⟩
  | none => chains

/-- Remove the link from a card to its predecessor, at both ends. -/
def dropPrev (chains : Chains) (card : CardId) : Chains :=
  match chains.prev.find? card with
  | some leading => ⟨chains.next.erase leading, chains.prev.erase card⟩
  | none => chains

/-- Remove every link of a card. -/
def unlink (chains : Chains) (card : CardId) : Chains :=
  (chains.dropNext card).dropPrev card

/-- Whether a card leads its chain within a deck: its predecessor, if any, is
not there. -/
def leads (chains : Chains) (deck : List CardId) (card : CardId) : Bool :=
  match chains.predecessor? card with
  | some leading => leading ∉ deck
  | none => true

/-- At most `cards` cards along the successors of a card, up to the first
outside the deck. -/
def followWithin (chains : Chains) (deck : List CardId) : (cards : Nat) → CardId → List CardId
  | 0, _ => []
  | cards + 1, card =>
      if card ∈ deck then
        card ::
          match chains.successor? card with
          | some following => chains.followWithin deck cards following
          | none => []
      else []

/-- A card and its chain, up to the first card outside the deck. -/
def follow (chains : Chains) (deck : List CardId) (card : CardId) : List CardId :=
  chains.followWithin deck deck.length card

/-- The deck with every chain put together behind the card that leads it. -/
def gather (chains : Chains) (deck : List CardId) : List CardId :=
  (deck.filter (chains.leads deck)).eraseDups.flatMap (chains.follow deck)

/-- The deck in an order that respects the links; without links every order
does. -/
def arrange (chains : Chains) (deck : List CardId) : List CardId :=
  if chains.isEmpty then deck else chains.gather deck

end Chains

end CardBattle
