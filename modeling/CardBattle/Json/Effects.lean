/-
Module: CardBattle.Json.Effects
Purpose: The JSON form of quantities, guards and effects.
Main exports:
  Field.toJson, Field.ofJson?, Quantity.toJson, Quantity.ofJson?, Condition.toJson,
  Condition.ofJson?, Modifier.toJson, Modifier.ofJson?, EffectKind.toJson, EffectKind.ofJson?,
  Effect.toJson, Effect.ofJson?
-/
import CardBattle.Effect.Basic
import CardBattle.Json.Basic

namespace CardBattle

/-- A tribe is its tag. -/
def Tribe.toJson (tribe : Tribe) : Json := .nat tribe.tag.toNat

/-- A tribe is its tag. -/
def Tribe.ofJson? (value : Json) : Option Tribe :=
  (value.bits? 16).map fun tag => ⟨.ofNat tag⟩

namespace Field

/-- A field is its name; with a status or a tribe it is a form with that as its
contents. -/
def toJson (field : Field) : Json :=
  match field with
  | status s => .form field.label (.ofName s)
  | tribeShare tribe => .form field.label tribe.toJson
  | previousTribe tribe => .form field.label tribe.toJson
  | plain => .string plain.label

/-- The field without contents that has a name. -/
def plain? : String → Option Field
  | "Health" => some health
  | "StartingHealth" => some startingHealth
  | "MaxHealth" => some maxHealth
  | "CardsPlayedThisTurn" => some cardsPlayedThisTurn
  | "DamageThisTurn" => some damageThisTurn
  | "DamageLastTurn" => some damageLastTurn
  | "DeckSize" => some deckSize
  | "TrashSize" => some trashSize
  | "RelicCount" => some relicCount
  | "Turns" => some turns
  | "DamageThisCard" => some damageThisCard
  | _ => none

/-- Read a field. -/
def ofJson? (value : Json) : Option Field :=
  match value.variant? with
  | some ("Status", contents) => (contents.named? : Option Status).map status
  | some ("TribeShare", contents) => (Tribe.ofJson? contents).map tribeShare
  | some ("PreviousTribe", contents) => (Tribe.ofJson? contents).map previousTribe
  | some (name, .null) => plain? name
  | _ => none

end Field

namespace Quantity

/-- A quantity is a form for a fixed number or for a field. -/
def toJson : Quantity → Json
  | literal number => .form "Literal" (.real number)
  | field target f multiplier =>
      .form "Field" (.object [("target", .ofName target), ("field", f.toJson),
        ("multiplier", .ofOption .real multiplier)])

/-- The field form of a quantity; its multiplier may be missing or `null`. -/
def fieldOfJson? (contents : Json) : Option Quantity := do
  let members ← contents.members?
  let target ← Json.memberOf members "target" Json.named?
  let f ← Json.memberOf members "field" Field.ofJson?
  let multiplier ← Json.nullable? Json.real? ((Json.member? "multiplier" members).getD .null)
  pure (field target f multiplier)

/-- Read a quantity. -/
def ofJson? (value : Json) : Option Quantity :=
  match value.variant? with
  | some ("Literal", contents) => contents.real?.map literal
  | some ("Field", contents) => fieldOfJson? contents
  | _ => none

end Quantity

/-- A condition is a record. -/
def Condition.toJson (condition : Condition) : Json :=
  .object [("left", condition.left.toJson), ("op", .ofName condition.op),
    ("right", condition.right.toJson)]

/-- Read a condition. -/
def Condition.ofJson? (record : Json) : Option Condition := do
  guard (record.isRecord 3 3)
  let left ← record.required 0 "left" Quantity.ofJson?
  let op ← record.required 1 "op" Json.named?
  let right ← record.required 2 "right" Quantity.ofJson?
  pure ⟨left, op, right⟩

/-- A modifier is a record. -/
def Modifier.toJson (modifier : Modifier) : Json :=
  .object [("value", modifier.value.toJson),
    ("condition", .ofOption Condition.toJson modifier.condition)]

/-- Read a modifier. -/
def Modifier.ofJson? (record : Json) : Option Modifier := do
  guard (record.isRecord 1 2)
  let value ← record.required 0 "value" Quantity.ofJson?
  let condition ← record.defaulted 1 "condition" (Json.nullable? Condition.ofJson?) none
  pure ⟨value, condition⟩

/-- The kind of an effect is a name; with a status or a field it is a form. -/
def EffectKind.toJson : EffectKind → Json
  | .damage => .string "Damage"
  | .heal => .string "Heal"
  | .trash => .string "Trash"
  | .status s => .form "Status" (.ofName s)
  | .set field => .form "Set" field.toJson

/-- Read the kind of an effect. -/
def EffectKind.ofJson? (value : Json) : Option EffectKind :=
  match value.variant? with
  | some ("Damage", .null) => some .damage
  | some ("Heal", .null) => some .heal
  | some ("Trash", .null) => some .trash
  | some ("Status", contents) => (contents.named? : Option Status).map .status
  | some ("Set", contents) => (Field.ofJson? contents).map .set
  | _ => none

/-- An effect is a record. -/
def Effect.toJson (effect : Effect) : Json :=
  .object [("target", .ofName effect.target), ("kind", effect.kind.toJson),
    ("value", effect.value.toJson), ("add", .ofOption Modifier.toJson effect.add),
    ("multiply", .ofOption Modifier.toJson effect.multiply),
    ("hits", .ofOption Quantity.toJson effect.hits),
    ("condition", .ofOption Condition.toJson effect.condition)]

/-- Read an effect. -/
def Effect.ofJson? (record : Json) : Option Effect := do
  guard (record.isRecord 3 7)
  let target ← record.required 0 "target" Json.named?
  let kind ← record.required 1 "kind" EffectKind.ofJson?
  let value ← record.required 2 "value" Quantity.ofJson?
  let add ← record.defaulted 3 "add" (Json.nullable? Modifier.ofJson?) none
  let multiply ← record.defaulted 4 "multiply" (Json.nullable? Modifier.ofJson?) none
  let hits ← record.defaulted 5 "hits" (Json.nullable? Quantity.ofJson?) none
  let condition ← record.defaulted 6 "condition" (Json.nullable? Condition.ofJson?) none
  pure ⟨target, kind, value, add, multiply, hits, condition⟩

end CardBattle
