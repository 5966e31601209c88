/-
Module: CardBattle.Named
Purpose: Enumerations whose values have written names.
Main exports:
  Named, Named.ofName?, Named.ofName?_name
-/

namespace CardBattle

/-- A finite list of values, each with a name of its own. -/
class Named (α : Type) where
  /-- Every value, in the order in which they are listed to a reader. -/
  all : List α
  name : α → String
  /-- The first value with the name of `a` is `a`: no value is missing and no name is shared. -/
  find_name : ∀ a, (all.find? fun b => name b == name a) = some a

namespace Named

variable {α : Type} [Named α]

/-- The value with a written name. -/
def ofName? (text : String) : Option α := (all : List α).find? fun a => name a == text

/-- A value is found by its own name, which no other value of the type has. -/
@[simp] theorem ofName?_name (a : α) : ofName? (name a) = some a := find_name a

end Named

end CardBattle
