/-
Module: CardBattle.Card.Pool
Purpose: All cards of a run with their owners and links.
Main exports:
  OwnedCard, CardPool, CardPool.insert, CardPool.erase, CardPool.link, CardPool.unlink,
  CardPool.clear
-/
import CardBattle.Card.Basic
import CardBattle.Card.Chains
import CardBattle.Fault

namespace CardBattle

/-- A card and the party it belongs to. -/
structure OwnedCard where
  card : Card
  owner : Side
deriving DecidableEq

/-- Cards acquired during a run, by acquisition number, and the links between
them. -/
structure CardPool where
  cards : OrderedMap CardId OwnedCard
  chains : Chains
  /-- The number that the next card gets. -/
  nextNumber : Nat
deriving DecidableEq

namespace CardPool

/-- No cards. -/
def empty : CardPool := ⟨.empty, .empty, 0⟩

/-- Store a card under the next number. -/
def insert (pool : CardPool) (card : Card) (owner : Side) : CardId × CardPool :=
  (⟨pool.nextNumber⟩,
    { pool with
      cards := pool.cards.insert ⟨pool.nextNumber⟩ ⟨card, owner⟩
      nextNumber := pool.nextNumber + 1 })

/-- The card with a number. -/
def card? (pool : CardPool) (id : CardId) : Option Card := (pool.cards.find? id).map (·.card)

/-- The owner of the card with a number. -/
def owner? (pool : CardPool) (id : CardId) : Option Side := (pool.cards.find? id).map (·.owner)

/-- Whether a card with that number is stored. -/
def contains (pool : CardPool) (id : CardId) : Bool := pool.cards.contains id

/-- Number of cards. -/
def size (pool : CardPool) : Nat := pool.cards.size

/-- Whether there are no cards. -/
def isEmpty (pool : CardPool) : Bool := pool.cards.isEmpty

/-- The card with a number that has to be there. -/
def get (pool : CardPool) (id : CardId) : Except Fault Card :=
  match pool.card? id with
  | some card => .ok card
  | none => .error (.unknownCard id)

/-- Take a card out, with its links. -/
def erase (pool : CardPool) (id : CardId) : CardPool :=
  { pool with cards := pool.cards.erase id, chains := pool.chains.unlink id }

/-- Let one card follow another of the same owner. -/
def link (pool : CardPool) (first second : CardId) : Except Fault CardPool :=
  match pool.owner? first, pool.owner? second with
  | none, _ => .error (.unknownCard first)
  | some _, none => .error (.unknownCard second)
  | some owner, some other =>
      if owner ≠ other then .error (.badLink (.differentOwners first second))
      else
        match pool.chains.link first second with
        | .error refusal => .error (.badLink refusal)
        | .ok chains => .ok { pool with chains := chains }

/-- Remove every link of a stored card. -/
def unlink (pool : CardPool) (id : CardId) : Except Fault CardPool :=
  if pool.contains id then .ok { pool with chains := pool.chains.unlink id }
  else .error (.unknownCard id)

/-- Take out every card.  The numbers go on from where they were. -/
def clear (pool : CardPool) : CardPool :=
  { empty with nextNumber := pool.nextNumber }

end CardPool

end CardBattle
