/-
Module: CardBattle.Relic
Purpose: Relics, the passive items of a combatant, and the moments they answer to.
Main exports:
  Hook, RelicKind, RelicKind.hook, RelicKind.title, RelicKind.ofTitle?, Relic
-/
import CardBattle.Named
import CardBattle.Binary64.Whole
import CardBattle.Text.Blank

namespace CardBattle

/-- A moment of a battle at which relics act. -/
inductive Hook where
  /-- Once, when a battle starts. -/
  | battleStart
  /-- While the owner deals damage to the other side. -/
  | damageDealt
  /-- When the owner takes damage. -/
  | damageTaken
  /-- When the owner heals. -/
  | heal
deriving Repr, DecidableEq

/-- Written name. -/
def Hook.name : Hook → String
  | .battleStart => "BattleStart"
  | .damageDealt => "DamageDealt"
  | .damageTaken => "DamageTaken"
  | .heal => "Heal"

instance : Named Hook where
  all := [.battleStart, .damageDealt, .damageTaken, .heal]
  name := Hook.name
  find_name := fun a => by cases a <;> rfl

/-- What a relic does with its value. -/
inductive RelicKind where
  /-- The other side starts the battle with that much bleed. -/
  | openingCut
  /-- A hit is critical with that chance in percent. -/
  | luckyCoin
  /-- That share is added to the owner's lifesteal. -/
  | vampireFang
  /-- A positive hit below the value is raised to it. -/
  | whetstone
  /-- Damage to oneself in one's own turn gives that much strength. -/
  | bloodPact
  /-- That share of damage to oneself in one's own turn also hits the other side. -/
  | thornMirror
  /-- Heals grow by the healer's strength, whatever the value. -/
  | sacredRoot
deriving Repr, DecidableEq

namespace RelicKind

/-- Written name. -/
def name : RelicKind → String
  | openingCut => "OpeningCut"
  | luckyCoin => "LuckyCoin"
  | vampireFang => "VampireFang"
  | whetstone => "Whetstone"
  | bloodPact => "BloodPact"
  | thornMirror => "ThornMirror"
  | sacredRoot => "SacredRoot"

instance : Named RelicKind where
  all := [openingCut, luckyCoin, vampireFang, whetstone, bloodPact, thornMirror, sacredRoot]
  name := name
  find_name := fun a => by cases a <;> rfl

/-- The moment at which relics of this kind act. -/
def hook : RelicKind → Hook
  | openingCut => .battleStart
  | luckyCoin | vampireFang | whetstone => .damageDealt
  | bloodPact | thornMirror => .damageTaken
  | sacredRoot => .heal

/-- Name shown to players. -/
def title : RelicKind → String
  | openingCut => "Opening Cut"
  | luckyCoin => "Lucky Coin"
  | vampireFang => "Vampire Fang"
  | whetstone => "Whetstone"
  | bloodPact => "Blood Pact"
  | thornMirror => "Thorn Mirror"
  | sacredRoot => "Sacred Root"

/-- The kind with a title, whatever the case of its letters and the blanks
around it. -/
def ofTitle? (text : String) : Option RelicKind :=
  (Named.all : List RelicKind).find? fun kind =>
    kind.title.toList.map Char.toLower == (Text.trimBlank text.toList).map Char.toLower

end RelicKind

/-- A passive item: its kind and two numbers, of which the kinds above use the
first. -/
structure Relic where
  kind : RelicKind
  value : Binary64
  value2 : Binary64 := 0
deriving DecidableEq

end CardBattle
