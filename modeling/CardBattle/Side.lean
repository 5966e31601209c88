/-
Module: CardBattle.Side
Purpose: The two parties of a battle, and data kept once for each of them.
Main exports:
  Side, Side.other, Side.forTurn, Sides, Sides.get, Sides.update, Sides.swap
-/
import CardBattle.Named

namespace CardBattle

/-- One of the two parties of a battle. -/
inductive Side where
  /-- The party that drives the run. -/
  | user
  /-- The scripted enemy. -/
  | opponent
deriving Repr, Inhabited, DecidableEq

namespace Side

/-- Both parties, the user first. -/
def both : List Side := [user, opponent]

/-- The party on the other side of the table. -/
def other : Side → Side
  | user => opponent
  | opponent => user

/-- The party whose turn carries the number `turn`: the user has the even ones. -/
def forTurn (turn : Nat) : Side :=
  if turn % 2 = 0 then user else opponent

/-- Position in a two-entry table. -/
def index : Side → Nat
  | user => 0
  | opponent => 1

/-- Written name. -/
def name : Side → String
  | user => "User"
  | opponent => "Opponent"

instance : Named Side where
  all := both
  name := name
  find_name := fun a => by cases a <;> rfl

@[simp] theorem other_other (side : Side) : side.other.other = side := by
  cases side <;> rfl

@[simp] theorem other_ne (side : Side) : side.other ≠ side := by
  cases side <;> decide

@[simp] theorem ne_other (side : Side) : side ≠ side.other := by
  cases side <;> decide

/-- There are two parties and no third, so a fact about one and the one across
the table is a fact about both. -/
theorem eq_or_eq_other (side party : Side) : side = party ∨ side = party.other := by
  cases side <;> cases party <;> decide

end Side

/-- One value for each party. -/
structure Sides (α : Type) where
  user : α
  opponent : α
deriving Repr, Inhabited, DecidableEq

namespace Sides

variable {α β : Type}

/-- The same value on both sides. -/
def same (value : α) : Sides α := ⟨value, value⟩

/-- The value of one party. -/
def get (sides : Sides α) : Side → α
  | .user => sides.user
  | .opponent => sides.opponent

/-- Change the value of one party. -/
def update (sides : Sides α) (side : Side) (change : α → α) : Sides α :=
  match side with
  | .user => { sides with user := change sides.user }
  | .opponent => { sides with opponent := change sides.opponent }

/-- Replace the value of one party. -/
def set (sides : Sides α) (side : Side) (value : α) : Sides α :=
  sides.update side fun _ => value

/-- Apply a function to both values. -/
def map (f : α → β) (sides : Sides α) : Sides β := ⟨f sides.user, f sides.opponent⟩

/-- Exchange the two values. -/
def swap (sides : Sides α) : Sides α := ⟨sides.opponent, sides.user⟩

/-- Both values, the user's first. -/
def toList (sides : Sides α) : List α := [sides.user, sides.opponent]

/-- Two pairs of values are the same when they agree on each party. -/
theorem ext_get {first second : Sides α} (h : ∀ side, first.get side = second.get side) :
    first = second := by
  cases first; cases second
  have user := h .user
  have opponent := h .opponent
  simp only [get] at user opponent
  simp [user, opponent]

@[simp] theorem get_same (value : α) (side : Side) : (same value).get side = value := by
  cases side <;> rfl

@[simp] theorem get_update_self (sides : Sides α) (side : Side) (change : α → α) :
    (sides.update side change).get side = change (sides.get side) := by
  cases side <;> rfl

/-- A change for one party does not show across the table. -/
@[simp] theorem get_update_other (sides : Sides α) (side : Side) (change : α → α) :
    (sides.update side change).get side.other = sides.get side.other := by
  cases side <;> rfl

@[simp] theorem get_update_of_other (sides : Sides α) (side : Side) (change : α → α) :
    (sides.update side.other change).get side = sides.get side := by
  cases side <;> rfl

theorem get_update (sides : Sides α) (side party : Side) (change : α → α) :
    (sides.update side change).get party =
      if party = side then change (sides.get party) else sides.get party := by
  cases side <;> cases party <;> rfl

@[simp] theorem get_set_self (sides : Sides α) (side : Side) (value : α) :
    (sides.set side value).get side = value := by
  cases side <;> rfl

@[simp] theorem get_map (f : α → β) (sides : Sides α) (side : Side) :
    (sides.map f).get side = f (sides.get side) := by
  cases side <;> rfl

@[simp] theorem get_swap (sides : Sides α) (side : Side) :
    sides.swap.get side = sides.get side.other := by
  cases side <;> rfl

@[simp] theorem swap_swap (sides : Sides α) : sides.swap.swap = sides := rfl

end Sides

end CardBattle
