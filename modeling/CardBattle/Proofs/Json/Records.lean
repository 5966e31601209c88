/-
Module: CardBattle.Proofs.Json.Records
Purpose: The shapes in which cards, enemies, effects, events, rules and combatants are written, and
that their readers follow them.
Main exports:
  Quantity.shape, Condition.shape, Modifier.shape, Effect.shape, Card.shape, Relic.shape,
  Enemy.shape, BattleEvent.shape, Combatant.shape, Rules.shape; for each of them `fits_toJson` and
  `follows_ofJson?`
-/
import CardBattle.Json.Combatants
import CardBattle.Json.Events
import CardBattle.Proofs.Json.Shapes

/-!
# Shapes of records

A shape is what the format promises: which fields a record has, in the order in which they are
written, which of them may be left out, and where further records are.  Both halves of the code are
held against it, the writer by `fits_toJson` and the reader by `follows_ofJson?`.
-/

namespace CardBattle

open Json

/-! ### Quantities, guards and effects -/

namespace Field

/-- A field about a status or a tribe is a form; the others are names. -/
def shape : Shape :=
  .choice [("Status", .atom), ("TribeShare", .atom), ("PreviousTribe", .atom)]

/-- A field with a status or a tribe is written as a form with an atom in it,
and every other one as its name. -/
theorem fits_toJson (field : Field) : Fits shape field.toJson := by
  cases field with
  | status => exact .form (.head _) (.atom trivial)
  | tribeShare => exact .form (.tail _ (.head _)) (.atom trivial)
  | previousTribe => exact .form (.tail _ (.tail _ (.head _))) (.atom trivial)
  | _ => exact .name

theorem follows_ofJson? : Follows shape ofJson? := by
  refine .choice ?_
  simp only [List.forall_mem_cons]
  exact ⟨.atom, .atom, .atom, List.forall_mem_nil _⟩

end Field

namespace Quantity

/-- The contents of the form for a field. -/
def fieldShape : Shape :=
  .record [.needed "target" .atom, .needed "field" Field.shape, .optional "multiplier" .atom]

/-- A fixed number, or a field with what it is multiplied by. -/
def shape : Shape := .choice [("Literal", .atom), ("Field", fieldShape)]

/-- A literal is written as its number, a field as a record of three members.
The multiplier is written as `null` where there is none. -/
theorem fits_toJson (quantity : Quantity) : Fits shape quantity.toJson := by
  cases quantity with
  | literal number => exact .form (.head _) .real
  | field target f multiplier =>
      refine .form (.tail _ (.head _)) (.record ?_)
      refine .cons (.atom trivial) (.cons f.fits_toJson (.cons ?_ .nil))
      exact .ofOption (fun _ => .real) multiplier

/-- The contents of the form are looked up by name, which is why they may also
stand in another order or among other members. -/
theorem follows_fieldOfJson? : Follows fieldShape fieldOfJson? := by
  refine .record (by decide) (.ofMembers ?_)
  refine .cons (.needed .atom) ?_
  refine .cons (.needed Field.follows_ofJson?) ?_
  exact .cons (.optional .atom) (.pure _)

/-- Of the two forms only the one for a field has a record inside. -/
theorem follows_ofJson? : Follows shape ofJson? := by
  refine .choice ?_
  simp only [List.forall_mem_cons]
  exact ⟨.atom, follows_fieldOfJson?, List.forall_mem_nil _⟩

end Quantity

namespace Condition

/-- A guard is a record of its two sides and the comparison between them. -/
def shape : Shape :=
  .record [.needed "left" Quantity.shape, .needed "op" .atom, .needed "right" Quantity.shape]

/-- A guard is written with both of its sides and the comparison between them,
and nothing of it may be left out. -/
theorem fits_toJson (condition : Condition) : Fits shape condition.toJson :=
  .record <| .cons condition.left.fits_toJson <| .cons (.atom trivial) <|
    .cons condition.right.fits_toJson .nil

/-- Edits inside one side of a guard are met by the reader of that side; the
guard's own three fields all have to be there. -/
theorem follows_ofJson? : Follows shape ofJson? := by
  refine .record (by decide) (.guarded ?_)
  refine .cons (.required Quantity.follows_ofJson?) ?_
  refine .cons (.required .atom) ?_
  exact .cons (.required Quantity.follows_ofJson?) (.pure _)

end Condition

namespace Modifier

/-- A modifier is a record, and may come without a guard. -/
def shape : Shape :=
  .record [.needed "value" Quantity.shape, .optional "condition" Condition.shape]

/-- A modifier is written with its guard, and with `null` where it has none. -/
theorem fits_toJson (modifier : Modifier) : Fits shape modifier.toJson :=
  .record <| .cons modifier.value.fits_toJson <|
    .cons (.ofOption Condition.fits_toJson modifier.condition) .nil

/-- A modifier whose guard is missing is read as one without a guard, just as
one whose guard is `null`. -/
theorem follows_ofJson? : Follows shape ofJson? := by
  refine .record (by decide) (.guarded ?_)
  refine .cons (.required Quantity.follows_ofJson?) ?_
  exact .cons (.defaulted Condition.follows_ofJson?.nullable rfl) (.pure _)

end Modifier

namespace EffectKind

/-- A kind is a form where it is about a status or a field, and a name
otherwise. -/
def shape : Shape := .choice [("Status", .atom), ("Set", Field.shape)]

theorem fits_toJson (kind : EffectKind) : Fits shape kind.toJson := by
  cases kind with
  | status s => exact .form (.head _) (.atom trivial)
  | set field => exact .form (.tail _ (.head _)) field.fits_toJson
  | _ => exact .name

/-- Only a kind that sets a field has something inside that can be edited, and
this is a field again. -/
theorem follows_ofJson? : Follows shape ofJson? := by
  refine .choice ?_
  simp only [List.forall_mem_cons]
  exact ⟨.atom, Field.follows_ofJson?.map EffectKind.set, List.forall_mem_nil _⟩

end EffectKind

namespace Effect

/-- An effect is a record with three fields that have to be there and four that
may be absent. -/
def shape : Shape :=
  .record [.needed "target" .atom, .needed "kind" EffectKind.shape,
    .needed "value" Quantity.shape, .optional "add" Modifier.shape,
    .optional "multiply" Modifier.shape, .optional "hits" Quantity.shape,
    .optional "condition" Condition.shape]

/-- An effect is written with all seven members, in the order in which its
reader asks for them. -/
theorem fits_toJson (effect : Effect) : Fits shape effect.toJson :=
  .record <| .cons (.atom trivial) <| .cons effect.kind.fits_toJson <|
    .cons effect.value.fits_toJson <| .cons (.ofOption Modifier.fits_toJson effect.add) <|
    .cons (.ofOption Modifier.fits_toJson effect.multiply) <|
    .cons (.ofOption Quantity.fits_toJson effect.hits) <|
    .cons (.ofOption Condition.fits_toJson effect.condition) .nil

/-- Target, kind and value have to be there.  The other four members are absent
values when they are missing. -/
theorem follows_ofJson? : Follows shape ofJson? := by
  refine .record (by decide) (.guarded ?_)
  refine .cons (.required .atom) ?_
  refine .cons (.required EffectKind.follows_ofJson?) ?_
  refine .cons (.required Quantity.follows_ofJson?) ?_
  refine .cons (.defaulted Modifier.follows_ofJson?.nullable rfl) ?_
  refine .cons (.defaulted Modifier.follows_ofJson?.nullable rfl) ?_
  refine .cons (.defaulted Quantity.follows_ofJson?.nullable rfl) ?_
  exact .cons (.defaulted Condition.follows_ofJson?.nullable rfl) (.pure _)

end Effect

/-! ### Cards, relics and enemies -/

namespace Card

/-- A card is a record.  Without the mark it is not trashed, and without a tribe
it is in none. -/
def shape : Shape :=
  .record [.needed "name" .atom, .needed "effects" (.list Effect.shape),
    .optional "repeat" Modifier.shape, .optional "lifesteal" Quantity.shape,
    .defaulting "trash_on_play" (.bool false) .atom, .defaulting "tribe" (.nat 0) .atom]

theorem fits_toJson (card : Card) : Fits shape card.toJson :=
  .record <| .cons (.atom trivial) <| .cons (.ofList Effect.fits_toJson card.effects) <|
    .cons (.ofOption Modifier.fits_toJson card.repeats) <|
    .cons (.ofOption Quantity.fits_toJson card.lifesteal) <|
    .cons (.atom trivial) <| .cons (.atom trivial) .nil

/-- Name and effects have to be there.  A card without its mark goes back to the
deck, and one without its tribe is in none. -/
theorem follows_ofJson? : Follows shape ofJson? := by
  refine .record (by decide) (.guarded ?_)
  refine .cons (.required .atom) ?_
  refine .cons (.required Effect.follows_ofJson?.list) ?_
  refine .cons (.defaulted Modifier.follows_ofJson?.nullable rfl) ?_
  refine .cons (.defaulted Quantity.follows_ofJson?.nullable rfl) ?_
  refine .cons (.defaulted .atom rfl) ?_
  exact .cons (.defaulted .atom rfl) (.pure _)

end Card

namespace Relic

/-- A relic is a record, whose second value is zero where it is missing. -/
def shape : Shape :=
  .record [.needed "kind" .atom, .needed "value" .atom, .defaulting "value2" (.real 0) .atom]

/-- A relic is written with both of its values, also where the second one says
nothing. -/
theorem fits_toJson (relic : Relic) : Fits shape relic.toJson :=
  .record <| .cons (.atom trivial) <| .cons .real <| .cons .real .nil

/-- The second value of a relic is zero where it is missing. -/
theorem follows_ofJson? : Follows shape ofJson? := by
  refine .record (by decide) (.guarded ?_)
  refine .cons (.required .atom) ?_
  refine .cons (.required .atom) ?_
  exact .cons (.defaulted .atom rfl) (.pure _)

end Relic

namespace Enemy

/-- An enemy is a record with lists of records, of which that of its relics may
be missing. -/
def shape : Shape :=
  .record [.needed "name" .atom, .needed "health" .atom, .needed "cards" (.list Card.shape),
    .defaulting "relics" (.array []) (.list Relic.shape)]

/-- An enemy is written with its cards and its relics, each of them a record of
its own. -/
theorem fits_toJson (enemy : Enemy) : Fits shape enemy.toJson :=
  .record <| .cons (.atom trivial) <| .cons (.atom trivial) <|
    .cons (.ofList Card.fits_toJson enemy.cards) <|
    .cons (.ofList Relic.fits_toJson enemy.relics) .nil

/-- An enemy without a list of relics has none.  Edits inside its cards go down
through the list to the card in question. -/
theorem follows_ofJson? : Follows shape ofJson? := by
  refine .record (by decide) (.guarded ?_)
  refine .cons (.required .atom) ?_
  refine .cons (.required .atom) ?_
  refine .cons (.required Card.follows_ofJson?.list) ?_
  exact .cons (.defaulted Relic.follows_ofJson?.list rfl) (.pure _)

end Enemy

/-! ### Events -/

namespace BattleEvent

/-- The contents of a form with one side. -/
def sideShape (name : String) : Shape := .record [.needed name .atom]

/-- The contents of a form with a side and something else. -/
def pairShape (name : String) : Shape := .record [.needed "side" .atom, .needed name .atom]

/-- The contents of the form for damage. -/
def damageShape : Shape :=
  .record [.needed "source" .atom, .needed "target" .atom, .needed "amount" .atom]

/-- An event is a form with the record of what it tells, or a name where there
is nothing to tell. -/
def shape : Shape :=
  .choice [("TurnStarted", pairShape "turn"), ("TurnEnded", sideShape "side"),
    ("CardPlayed", pairShape "card"), ("CardDiscarded", pairShape "card"),
    ("CardTrashed", pairShape "card"), ("Damage", damageShape), ("Heal", pairShape "amount"),
    ("Miss", sideShape "target"), ("Stunned", sideShape "side"), ("Shuffled", sideShape "side"),
    ("BattleEnded", sideShape "winner")]

theorem fits_side {name : String} {value : Json} (atom : IsAtom value) :
    Fits (sideShape name) (.object [(name, value)]) :=
  .record (.cons (.atom atom) .nil)

/-- An event about a side and a card, a turn or an amount has two members, the
side first. -/
theorem fits_pair {name : String} {side value : Json} (first : IsAtom side)
    (second : IsAtom value) : Fits (pairShape name) (.object [("side", side), (name, value)]) :=
  .record (.cons (.atom first) (.cons (.atom second) .nil))

theorem fits_damage {source target amount : Json} (first : IsAtom source)
    (second : IsAtom target) (third : IsAtom amount) :
    Fits damageShape (.object [("source", source), ("target", target), ("amount", amount)]) :=
  .record (.cons (.atom first) (.cons (.atom second) (.cons (.atom third) .nil)))

/-- Every event is a name or one of three kinds of forms. -/
theorem fits_toJson (event : BattleEvent) : Fits shape event.toJson := by
  cases event with
  | battleStarted | undo => exact .name
  | damage => exact .form (by simp) (fits_damage trivial trivial trivial)
  | turnEnded | miss | stunned | shuffled | battleEnded =>
      exact .form (by simp) (fits_side trivial)
  | turnStarted | cardPlayed | cardDiscarded | cardTrashed | heal =>
      exact .form (by simp) (fits_pair trivial trivial)

/-- The reader of a side looks that side up by name and does not look at what
else is there. -/
theorem follows_sideOfJson? (name : String) (build : Side → BattleEvent) :
    Follows (sideShape name) (sideOfJson? name build) := by
  refine .record (List.nodup_singleton _) (.ofMembers ?_)
  exact .cons (.needed .atom) (.pure _)

/-- Two members of different names are looked up one after the other, in
whatever order they stand. -/
theorem follows_pairOfJson? {α : Type} {name : String} (differs : "side" ≠ name)
    (decode : Json → Option α) (build : Side → α → BattleEvent) :
    Follows (pairShape name) (pairOfJson? name decode build) := by
  refine .record (by simpa [Slot.needed] using differs) (.ofMembers ?_)
  refine .cons (.needed .atom) ?_
  exact .cons (.needed .atom) (.pure _)

theorem follows_damageOfJson? : Follows damageShape damageOfJson? := by
  refine .record (by decide) (.ofMembers ?_)
  refine .cons (.needed .atom) ?_
  refine .cons (.needed .atom) ?_
  exact .cons (.needed .atom) (.pure _)

/-- Nothing in an event has a default, so of all edits only a further member
leaves it as it was. -/
theorem follows_ofJson? : Follows shape ofJson? := by
  refine .choice ?_
  simp only [List.forall_mem_cons]
  exact ⟨follows_pairOfJson? (by decide) .., follows_sideOfJson? ..,
    follows_pairOfJson? (by decide) .., follows_pairOfJson? (by decide) ..,
    follows_pairOfJson? (by decide) .., follows_damageOfJson?, follows_pairOfJson? (by decide) ..,
    follows_sideOfJson? .., follows_sideOfJson? .., follows_sideOfJson? ..,
    follows_sideOfJson? .., List.forall_mem_nil _⟩

end BattleEvent

/-! ### Rules and combatants -/

namespace Rules

/-- Rules are a record of seven numbers. -/
def shape : Shape :=
  .record [.needed "starting_health" .atom, .needed "opponent_health" .atom,
    .needed "bleed_damage" .atom, .needed "shock_threshold" .atom, .needed "max_losses" .atom,
    .needed "wins_to_clear" .atom, .needed "max_plays_per_turn" .atom]

theorem fits_toJson (rules : Rules) : Fits shape rules.toJson :=
  .record <| .cons (.atom trivial) <| .cons (.atom trivial) <| .cons (.atom trivial) <|
    .cons (.atom trivial) <| .cons (.atom trivial) <| .cons (.atom trivial) <|
    .cons (.atom trivial) .nil

theorem follows_ofJson? : Follows shape ofJson? := by
  refine .record (by decide) (.guarded ?_)
  refine .cons (.required .atom) ?_
  refine .cons (.required .atom) ?_
  refine .cons (.required .atom) ?_
  refine .cons (.required .atom) ?_
  refine .cons (.required .atom) ?_
  refine .cons (.required .atom) ?_
  exact .cons (.required .atom) (.pure _)

end Rules

namespace Combatant

/-- A combatant is a record.  Only its last card and its counters may be
missing. -/
def shape : Shape :=
  .record [.needed "health" .atom, .needed "starting_health" .atom, .needed "max_health" .atom,
    .needed "deck" (.list .atom), .needed "trashed" (.list .atom),
    .needed "relics" (.list Relic.shape), .needed "cursor" .atom,
    .needed "cards_played_this_turn" .atom, .needed "damage_this_turn" .atom,
    .needed "damage_last_turn" .atom, .optional "previous_card" .atom,
    .defaulting "statuses" (.object []) .table]

/-- The counters are an object too, but its names are those of counters and not
of fields.  So it is a table, and nothing in it can be left out or added. -/
theorem fits_statusesToJson (statuses : OrderedMap Status Binary64) :
    Fits .table (statusesToJson statuses) :=
  .table fun _ mem => by
    obtain ⟨entry, -, rfl⟩ := List.mem_map.mp mem
    exact isAtom_real entry.2

/-- A combatant is written with all its members, the relics among them as
records. -/
theorem fits_toJson (c : Combatant) : Fits shape c.toJson := by
  have number (id : CardId) : Fits .atom id.toJson := .atom trivial
  refine .record ?_
  refine .cons (.atom trivial) (.cons (.atom trivial) (.cons (.atom trivial) ?_))
  refine .cons (.ofList number c.deck) (.cons (.ofList number c.trashed) ?_)
  refine .cons (.ofList Relic.fits_toJson c.relics) ?_
  refine .cons (.atom trivial) (.cons (.atom trivial) (.cons (.atom trivial) ?_))
  refine .cons (.atom trivial) (.cons (.ofOption number c.previousCard) ?_)
  exact .cons (fits_statusesToJson c.statuses) .nil

/-- A combatant may come without the card it played before and without counters;
all else has to be there. -/
theorem follows_ofJson? : Follows shape ofJson? := by
  refine .record (by decide) (.guarded ?_)
  refine .cons (.required .atom) ?_
  refine .cons (.required .atom) ?_
  refine .cons (.required .atom) ?_
  refine .cons (.required Follows.atom.list) ?_
  refine .cons (.required Follows.atom.list) ?_
  refine .cons (.required Relic.follows_ofJson?.list) ?_
  refine .cons (.required .atom) ?_
  refine .cons (.required .atom) ?_
  refine .cons (.required .atom) ?_
  refine .cons (.required .atom) ?_
  refine .cons (.defaulted Follows.atom.nullable rfl) ?_
  exact .cons (.defaulted .table rfl) (.pure _)

end Combatant

end CardBattle
