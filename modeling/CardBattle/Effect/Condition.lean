/-
Module: CardBattle.Effect.Condition
Purpose: Guards of card effects, and values that count only under a guard.
Main exports:
  Comparison, Comparison.holds, Comparison.ofSymbol?, Condition, Modifier
-/
import CardBattle.Effect.Quantity

namespace CardBattle

/-- A way to compare two numbers. -/
inductive Comparison where
  | greater
  | less
  | equal
  | atMost
  | atLeast
deriving Repr, DecidableEq

namespace Comparison

/-- Written name. -/
def name : Comparison → String
  | greater => "Greater"
  | less => "Less"
  | equal => "Equal"
  | atMost => "AtMost"
  | atLeast => "AtLeast"

instance : Named Comparison where
  all := [greater, less, equal, atMost, atLeast]
  name := name
  find_name := fun a => by cases a <;> rfl

/-- Whether the comparison holds; none does when a side is no number. -/
def holds (comparison : Comparison) (left right : Binary64) : Bool :=
  match comparison with
  | greater => right < left
  | less => left < right
  | equal => left.equals right
  | atMost => left ≤ right
  | atLeast => right ≤ left

/-- The comparison that a sign stands for. -/
def ofSymbol? : String → Option Comparison
  | ">" => some greater
  | "<" => some less
  | "=" => some equal
  | "==" => some equal
  | "<=" => some atMost
  | ">=" => some atLeast
  | _ => none

end Comparison

/-- Two described numbers and the way they are compared. -/
structure Condition where
  left : Quantity
  op : Comparison
  right : Quantity
deriving DecidableEq

/-- Compare a described number with a fixed one. -/
def Condition.against (left : Quantity) (op : Comparison) (number : Binary64) : Condition :=
  ⟨left, op, .literal number⟩

/-- A described number that counts only while its guard, if any, holds. -/
structure Modifier where
  value : Quantity
  condition : Option Condition := none
deriving DecidableEq

end CardBattle
