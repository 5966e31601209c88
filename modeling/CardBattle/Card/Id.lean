/-
Module: CardBattle.Card.Id
Purpose: Acquisition numbers of cards, and the tags that group cards.
Main exports:
  CardId, Tribe, Tribe.none, Tribe.fire
-/
import CardBattle.OrderedMap

namespace CardBattle

/-- The number a card gets when it is acquired; a run never gives one out twice. -/
structure CardId where
  number : Nat
deriving Repr, Inhabited, DecidableEq

namespace CardId

instance : Ranked CardId where
  rank := number
  rank_injective := fun {a b} same => by cases a; cases b; exact congrArg mk same

instance : ToString CardId := ⟨fun id => s!"Card({id.number})"⟩

end CardId

/-- A tag shared by cards; its meaning belongs to the game's content. -/
structure Tribe where
  tag : UInt16
deriving Repr, Inhabited, DecidableEq

namespace Tribe

/-- The tag of cards without a tribe. -/
def none : Tribe := ⟨0⟩

/-- The tag of fire cards, the only one the rules look at. -/
def fire : Tribe := ⟨1⟩

instance : ToString Tribe := ⟨fun tribe => s!"Tribe({tribe.tag})"⟩

end Tribe

end CardBattle
