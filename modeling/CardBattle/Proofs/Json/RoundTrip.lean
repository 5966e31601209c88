/-
Module: CardBattle.Proofs.Json.RoundTrip
Purpose: What is written of a record is read back as that record, also after edits of its tree that
are of no consequence, and what is read after one of its fields has gone.
Main exports:
  Binary64.IsFinite, Json.InWord, Json.InBits, Card.Writable, Enemy.Writable, BattleEvent.Writable,
  Combatant.Writable, RecordKind, RecordKind.format, RecordKind.lawful, RecordKind.reads_back,
  RecordKind.ember_reads_without_mark
-/
import CardBattle.Proofs.Json.Records
import CardBattle.Proofs.OrderedMap
import Mathlib.Data.Option.Basic

/-!
# Reading back what was written

A record is writable when its binary numbers are finite, as there are no numerals for the others,
and its integers are in the words they are kept in.

A field is left out without consequence when it holds its default.  Of the other fields some have
to be there: those with neither a default nor a value that may be absent.  One with a default that
holds something else may go all the same, and is then read as its default (`reads_back`); the record
is another one, but it is still read (`ember_reads_without_mark`).
-/

namespace CardBattle

open Json Relation

/-- A number for which there is a numeral. -/
def Binary64.IsFinite (x : Binary64) : Prop :=
  ∃ negative units representable, x = finite negative units representable

instance : DecidablePred Binary64.IsFinite
  | .finite negative units h => isTrue ⟨negative, units, h, rfl⟩
  | .nan | .infinity _ => isFalse (by simp [Binary64.IsFinite])

/-! ### Parts of records -/

namespace Json

/-- Integers of a signed word. -/
def InWord (value : Int) : Prop := Binary64.leastWord ≤ value ∧ value ≤ Binary64.greatestWord

instance : DecidablePred InWord := fun _ => inferInstanceAs (Decidable (_ ∧ _))

/-- Natural numbers of at most so many bits. -/
def InBits (width value : Nat) : Prop := value < 1 <<< width

theorem word?_int {value : Int} (fits : InWord value) : word? (int value) = some value :=
  if_pos fits

/-- A natural number is read as itself where it has no more bits than the reader
allows. -/
theorem bits?_nat {width value : Nat} (fits : InBits width value) :
    bits? width (nat value) = some value :=
  if_pos fits

/-- A finite number is kept to the last bit, because it is written exactly and
not in rounded digits. -/
theorem real?_real {x : Binary64} (finite : x.IsFinite) : real? (real x) = some x := by
  obtain ⟨negative, units, h, rfl⟩ := finite
  rfl

/-- Infinity and what is no number are written as `null`; a finite number never
is, so it cannot be taken for an absent one. -/
theorem real_ne_null {x : Binary64} (finite : x.IsFinite) : real x ≠ null := by
  obtain ⟨negative, units, h, rfl⟩ := finite
  nofun

@[simp] theorem named?_ofName {α : Type} [Named α] (value : α) :
    named? (ofName value) = some value := by
  simp [named?, ofName, variant?]

/-- Items that are kept one by one are kept as a list, in their order. -/
theorem mapM_map_eq_some {α β : Type} {encode : α → β} {decode : β → Option α} {items : List α}
    (each : ∀ a ∈ items, decode (encode a) = some a) :
    (items.map encode).mapM decode = some items := by
  induction items with
  | nil => rfl
  | cons a rest ih =>
      obtain ⟨here, others⟩ := List.forall_mem_cons.mp each
      simp [here, ih others]

/-- A list is read back if each item of this list is.  Nothing is asked of
values that are not in it. -/
theorem listOf?_ofList {α : Type} {encode : α → Json} {decode : Json → Option α} {items : List α}
    (each : ∀ a ∈ items, decode (encode a) = some a) :
    listOf? decode (ofList encode items) = some items :=
  mapM_map_eq_some each

theorem forall_mem_none {α : Type} {p : α → Prop} : ∀ a ∈ (none : Option α), p a := nofun

/-- An absent value is written as `null` and read as absent again.  A present
one must not look like `null` when it is written. -/
theorem nullable?_ofOption {α : Type} {encode : α → Json} {decode : Json → Option α}
    {value : Option α} (each : ∀ a ∈ value, decode (encode a) = some a)
    (present : ∀ a ∈ value, encode a ≠ null) :
    nullable? decode (ofOption encode value) = some value := by
  cases value with
  | none => rfl
  | some a =>
      rw [ofOption, nullable?_of_ne_null (present a rfl), each a rfl, Option.map_some]

end Json

/-- A tribe is kept. -/
@[simp] theorem Tribe.ofJson?_toJson (tribe : Tribe) : ofJson? tribe.toJson = some tribe := by
  have small : InBits 16 tribe.tag.toNat := tribe.tag.toNat_lt
  simp [ofJson?, toJson, bits?_nat small]

/-- No two fields are written alike, so each one is read back without a
condition. -/
@[simp] theorem Field.ofJson?_toJson (field : Field) : ofJson? field.toJson = some field := by
  cases field with
  | status | tribeShare | previousTribe => simp [toJson, ofJson?, form, label, variant?]
  | _ => rfl

/-- The kind of an effect is read back, with the status or the field that it
names. -/
@[simp] theorem EffectKind.ofJson?_toJson (kind : EffectKind) :
    ofJson? kind.toJson = some kind := by
  cases kind with
  | status | set => simp [toJson, ofJson?, form, variant?]
  | _ => rfl

/-- The number of a card has to fit the width in which it is stored. -/
theorem CardId.ofJson?_toJson {id : CardId} (fits : InBits 32 id.number) :
    ofJson? id.toJson = some id := by
  simp [ofJson?, toJson, bits?_nat fits]

/-! ### Quantities, guards and effects -/

namespace Quantity

/-- Quantities for whose numbers there are numerals. -/
def Writable : Quantity → Prop
  | literal x => x.IsFinite
  | field _ _ multiplier => ∀ x ∈ multiplier, x.IsFinite

/-- A quantity is read back when its numbers are finite. -/
theorem ofJson?_toJson {quantity : Quantity} (writable : quantity.Writable) :
    ofJson? quantity.toJson = some quantity := by
  cases quantity with
  | literal x => simp [toJson, ofJson?, form, variant?, real?_real writable]
  | field target f multiplier =>
      have factor := nullable?_ofOption (fun x mem => real?_real (writable x mem))
        fun x mem => real_ne_null (writable x mem)
      simp [toJson, ofJson?, form, variant?, fieldOfJson?, members?, memberOf, factor]

/-- A quantity is always a form, so a present one is not taken for an absent
one. -/
theorem toJson_ne_null (quantity : Quantity) : quantity.toJson ≠ null := by
  cases quantity <;> nofun

end Quantity

namespace Condition

/-- Guards with such quantities on both sides. -/
structure Writable (condition : Condition) : Prop where
  left : condition.left.Writable
  right : condition.right.Writable

theorem ofJson?_toJson {condition : Condition} (writable : condition.Writable) :
    ofJson? condition.toJson = some condition := by
  simp [ofJson?, toJson, Quantity.ofJson?_toJson writable.left,
    Quantity.ofJson?_toJson writable.right]

end Condition

namespace Modifier

/-- Modifiers with such a quantity and, if any, such a guard. -/
structure Writable (modifier : Modifier) : Prop where
  value : modifier.value.Writable
  condition : ∀ condition ∈ modifier.condition, condition.Writable

theorem ofJson?_toJson {modifier : Modifier} (writable : modifier.Writable) :
    ofJson? modifier.toJson = some modifier := by
  have condition := nullable?_ofOption
    (fun c mem => Condition.ofJson?_toJson (writable.condition c mem)) fun _ _ => nofun
  simp [ofJson?, toJson, Quantity.ofJson?_toJson writable.value, condition]

end Modifier

namespace Effect

/-- Effects all of whose numbers can be written. -/
structure Writable (effect : Effect) : Prop where
  value : effect.value.Writable
  add : ∀ modifier ∈ effect.add, modifier.Writable
  multiply : ∀ modifier ∈ effect.multiply, modifier.Writable
  hits : ∀ quantity ∈ effect.hits, quantity.Writable
  condition : ∀ condition ∈ effect.condition, condition.Writable

/-- An effect is read back with its four absent or present parts. -/
theorem ofJson?_toJson {effect : Effect} (writable : effect.Writable) :
    ofJson? effect.toJson = some effect := by
  have add := nullable?_ofOption
    (fun m mem => Modifier.ofJson?_toJson (writable.add m mem)) fun _ _ => nofun
  have multiply := nullable?_ofOption
    (fun m mem => Modifier.ofJson?_toJson (writable.multiply m mem)) fun _ _ => nofun
  have hits := nullable?_ofOption
    (fun q mem => Quantity.ofJson?_toJson (writable.hits q mem)) fun q _ => q.toJson_ne_null
  have condition := nullable?_ofOption
    (fun c mem => Condition.ofJson?_toJson (writable.condition c mem)) fun _ _ => nofun
  simp [ofJson?, toJson, Quantity.ofJson?_toJson writable.value, add, multiply, hits, condition]

end Effect

/-! ### Cards, relics and enemies -/

namespace Card

/-- Cards all of whose numbers can be written. -/
structure Writable (card : Card) : Prop where
  effects : ∀ effect ∈ card.effects, effect.Writable
  repeats : ∀ modifier ∈ card.repeats, modifier.Writable
  lifesteal : ∀ quantity ∈ card.lifesteal, quantity.Writable

/-- A card is read back when its effects and its own quantities are; name, mark
and tribe always are. -/
theorem ofJson?_toJson {card : Card} (writable : card.Writable) :
    ofJson? card.toJson = some card := by
  have effects := listOf?_ofList fun e mem => Effect.ofJson?_toJson (writable.effects e mem)
  have repeats := nullable?_ofOption
    (fun m mem => Modifier.ofJson?_toJson (writable.repeats m mem)) fun _ _ => nofun
  have lifesteal := nullable?_ofOption
    (fun q mem => Quantity.ofJson?_toJson (writable.lifesteal q mem)) fun q _ => q.toJson_ne_null
  simp [ofJson?, toJson, string?, bool?, effects, repeats, lifesteal]

end Card

namespace Relic

/-- Relics with finite values. -/
structure Writable (relic : Relic) : Prop where
  value : relic.value.IsFinite
  value2 : relic.value2.IsFinite

theorem ofJson?_toJson {relic : Relic} (writable : relic.Writable) :
    ofJson? relic.toJson = some relic := by
  simp [ofJson?, toJson, real?_real writable.value, real?_real writable.value2]

end Relic

namespace Enemy

/-- Enemies with a health that fits a word, and with cards and relics that can
be written. -/
structure Writable (enemy : Enemy) : Prop where
  health : InWord enemy.health
  cards : ∀ card ∈ enemy.cards, card.Writable
  relics : ∀ relic ∈ enemy.relics, relic.Writable

theorem ofJson?_toJson {enemy : Enemy} (writable : enemy.Writable) :
    ofJson? enemy.toJson = some enemy := by
  have cards := listOf?_ofList fun c mem => Card.ofJson?_toJson (writable.cards c mem)
  have relics := listOf?_ofList fun r mem => Relic.ofJson?_toJson (writable.relics r mem)
  simp [ofJson?, toJson, string?, word?_int writable.health, cards, relics]

end Enemy

/-! ### Events -/

namespace BattleEvent

/-- Events whose numbers fit the widths in which they are stored. -/
def Writable : BattleEvent → Prop
  | turnStarted _ turn => InBits 32 turn
  | cardPlayed _ card | cardDiscarded _ card | cardTrashed _ card => InBits 32 card.number
  | damage _ _ amount | heal _ amount => InWord amount
  | _ => True

/-- The member beside the side is read by its own reader, which has to find it
under another name than the side's. -/
theorem pairOfJson?_object {α : Type} {name : String} (differs : "side" ≠ name)
    {decode : Json → Option α} {build : Side → α → BattleEvent} {side : Side} {value : α}
    {written : Json} (reads : decode written = some value) :
    pairOfJson? name decode build (.object [("side", .ofName side), (name, written)]) =
      some (build side value) := by
  simp [pairOfJson?, members?, memberOf, differs, reads]

@[simp] theorem sideOfJson?_object (name : String) (build : Side → BattleEvent) (side : Side) :
    sideOfJson? name build (.object [(name, .ofName side)]) = some (build side) := by
  simp [sideOfJson?, members?, memberOf]

/-- An event is read back when its numbers fit the widths in which they are
stored. -/
theorem ofJson?_toJson {event : BattleEvent} (writable : event.Writable) :
    ofJson? event.toJson = some event := by
  cases event with
  | battleStarted | undo => rfl
  | turnEnded | miss | stunned | shuffled | battleEnded => exact sideOfJson?_object ..
  | turnStarted => exact pairOfJson?_object (by decide) (bits?_nat writable)
  | cardPlayed | cardDiscarded | cardTrashed =>
      exact pairOfJson?_object (by decide) (CardId.ofJson?_toJson writable)
  | heal => exact pairOfJson?_object (by decide) (word?_int writable)
  | damage =>
      simp [toJson, ofJson?, form, variant?, damageOfJson?, members?, memberOf,
        word?_int writable]

end BattleEvent

/-! ### Rules and combatants -/

namespace Rules

/-- Rules in the ranges of their types. -/
structure Writable (rules : Rules) : Prop where
  startingHealth : InWord rules.startingHealth
  opponentHealth : InWord rules.opponentHealth
  bleedDamage : InWord rules.bleedDamage
  shockThreshold : InWord rules.shockThreshold
  maxLosses : InBits 32 rules.maxLosses
  winsToClear : InBits 32 rules.winsToClear
  maxPlaysPerTurn : InBits 32 rules.maxPlaysPerTurn

theorem ofJson?_toJson {rules : Rules} (writable : rules.Writable) :
    ofJson? rules.toJson = some rules := by
  simp [ofJson?, toJson, word?_int writable.startingHealth, word?_int writable.opponentHealth,
    word?_int writable.bleedDamage, word?_int writable.shockThreshold,
    bits?_nat writable.maxLosses, bits?_nat writable.winsToClear,
    bits?_nat writable.maxPlaysPerTurn]

end Rules

namespace Combatant

/-- Combatants with all numbers in the ranges of their types, and with finite
counters. -/
structure Writable (c : Combatant) : Prop where
  health : InWord c.health
  startingHealth : InWord c.startingHealth
  maxHealth : InWord c.maxHealth
  deck : ∀ id ∈ c.deck, InBits 32 id.number
  trashed : ∀ id ∈ c.trashed, InBits 32 id.number
  relics : ∀ relic ∈ c.relics, relic.Writable
  cursor : InBits 64 c.cursor
  cardsPlayedThisTurn : InBits 32 c.cardsPlayedThisTurn
  damageThisTurn : InWord c.damageThisTurn
  damageLastTurn : InWord c.damageLastTurn
  previousCard : ∀ id ∈ c.previousCard, InBits 32 id.number
  statuses : ∀ entry ∈ c.statuses.entries, entry.2.IsFinite

theorem statusOfJson?_entry {entry : Status × Binary64} (finite : entry.2.IsFinite) :
    statusOfJson? (entry.1.name, .real entry.2) = some entry := by
  have named : Named.ofName? entry.1.name = some entry.1 := Named.ofName?_name entry.1
  simp [statusOfJson?, named, real?_real finite]

/-- The counters are read back as the same map: they are written in ascending
order, and filling a map in this order gives the entries again. -/
theorem statusesOfJson?_toJson {statuses : OrderedMap Status Binary64}
    (finite : ∀ entry ∈ statuses.entries, entry.2.IsFinite) :
    statusesOfJson? (statusesToJson statuses) = some statuses := by
  have entries := mapM_map_eq_some fun entry mem => statusOfJson?_entry (finite entry mem)
  simp [statusesOfJson?, statusesToJson, entries]

/-- A combatant is read back with its piles in order and its counters. -/
theorem ofJson?_toJson {c : Combatant} (writable : c.Writable) : ofJson? c.toJson = some c := by
  have deck := listOf?_ofList fun id mem => CardId.ofJson?_toJson (writable.deck id mem)
  have trashed := listOf?_ofList fun id mem => CardId.ofJson?_toJson (writable.trashed id mem)
  have relics := listOf?_ofList fun r mem => Relic.ofJson?_toJson (writable.relics r mem)
  have previousCard := nullable?_ofOption
    (fun id mem => CardId.ofJson?_toJson (writable.previousCard id mem)) fun _ _ => nofun
  simp [ofJson?, toJson, word?_int writable.health, word?_int writable.startingHealth,
    word?_int writable.maxHealth, deck, trashed, relics, bits?_nat writable.cursor,
    bits?_nat writable.cardsPlayedThisTurn, word?_int writable.damageThisTurn,
    word?_int writable.damageLastTurn, previousCard, statusesOfJson?_toJson writable.statuses]

end Combatant

/-! ### Every kind of record -/

/-- The records that are written on their own or within others. -/
inductive RecordKind where
  | card
  | enemy
  | effect
  | modifier
  | condition
  | quantity
  | relic
  | event
  | rules
  | combatant

/-- How values of a type are written and read. -/
structure Format (α : Type) where
  toJson : α → Json
  ofJson? : Json → Option α
  shape : Shape
  Writable : α → Prop

/-- What holds the two halves of a format together. -/
structure Format.Lawful {α : Type} (format : Format α) : Prop where
  fits : ∀ a, Fits format.shape (format.toJson a)
  follows : Follows format.shape format.ofJson?
  reads_written : ∀ a, format.Writable a → format.ofJson? (format.toJson a) = some a

namespace RecordKind

/-- The records of a kind. -/
def Value : RecordKind → Type
  | card => Card
  | enemy => Enemy
  | effect => Effect
  | modifier => Modifier
  | condition => Condition
  | quantity => Quantity
  | relic => Relic
  | event => BattleEvent
  | rules => Rules
  | combatant => Combatant

/-- The format of a kind. -/
def format : (kind : RecordKind) → Format kind.Value
  | card => ⟨Card.toJson, Card.ofJson?, Card.shape, Card.Writable⟩
  | enemy => ⟨Enemy.toJson, Enemy.ofJson?, Enemy.shape, Enemy.Writable⟩
  | effect => ⟨Effect.toJson, Effect.ofJson?, Effect.shape, Effect.Writable⟩
  | modifier => ⟨Modifier.toJson, Modifier.ofJson?, Modifier.shape, Modifier.Writable⟩
  | condition => ⟨Condition.toJson, Condition.ofJson?, Condition.shape, Condition.Writable⟩
  | quantity => ⟨Quantity.toJson, Quantity.ofJson?, Quantity.shape, Quantity.Writable⟩
  | relic => ⟨Relic.toJson, Relic.ofJson?, Relic.shape, Relic.Writable⟩
  | event => ⟨BattleEvent.toJson, BattleEvent.ofJson?, BattleEvent.shape, BattleEvent.Writable⟩
  | rules => ⟨Rules.toJson, Rules.ofJson?, Rules.shape, Rules.Writable⟩
  | combatant => ⟨Combatant.toJson, Combatant.ofJson?, Combatant.shape, Combatant.Writable⟩

/-- The ten formats obey one law, so that what follows from it is shown once for
all of them. -/
theorem lawful (kind : RecordKind) : kind.format.Lawful := by
  cases kind with
  | card => exact ⟨Card.fits_toJson, Card.follows_ofJson?, fun _ => Card.ofJson?_toJson⟩
  | enemy => exact ⟨Enemy.fits_toJson, Enemy.follows_ofJson?, fun _ => Enemy.ofJson?_toJson⟩
  | effect => exact ⟨Effect.fits_toJson, Effect.follows_ofJson?, fun _ => Effect.ofJson?_toJson⟩
  | modifier =>
      exact ⟨Modifier.fits_toJson, Modifier.follows_ofJson?, fun _ => Modifier.ofJson?_toJson⟩
  | condition =>
      exact ⟨Condition.fits_toJson, Condition.follows_ofJson?, fun _ => Condition.ofJson?_toJson⟩
  | quantity =>
      exact ⟨Quantity.fits_toJson, Quantity.follows_ofJson?, fun _ => Quantity.ofJson?_toJson⟩
  | relic => exact ⟨Relic.fits_toJson, Relic.follows_ofJson?, fun _ => Relic.ofJson?_toJson⟩
  | event =>
      exact ⟨BattleEvent.fits_toJson, BattleEvent.follows_ofJson?,
        fun _ => BattleEvent.ofJson?_toJson⟩
  | rules => exact ⟨Rules.fits_toJson, Rules.follows_ofJson?, fun _ => Rules.ofJson?_toJson⟩
  | combatant =>
      exact ⟨Combatant.fits_toJson, Combatant.follows_ofJson?, fun _ => Combatant.ofJson?_toJson⟩

/-- What is written of a record has the shape of its kind.  It is read back as
the record, however many fields that hold their defaults are left out and other
members added in whichever records of the tree.

If then some record of the tree loses a field that has to be there, nothing is
read.  If it loses a field with a default, the tree is still read, and like the
one in which this field holds its default. -/
theorem reads_back (kind : RecordKind) (record : kind.Value)
    (writable : kind.format.Writable record) :
    Fits kind.format.shape (kind.format.toJson record) ∧
      ∀ tree, ReflTransGen (Edited Idle kind.format.shape) (kind.format.toJson record) tree →
        kind.format.ofJson? tree = some record ∧
          ∀ fields members rebuild, Within kind.format.shape tree fields members rebuild →
            ∀ slot ∈ fields, ∀ held, member? slot.name members = some held →
              (slot.default? = none →
                kind.format.ofJson? (rebuild (dropMember slot.name members)) = none) ∧
              ∀ default, slot.default? = some default →
                ∃ other, kind.format.ofJson? (rebuild (dropMember slot.name members)) = some other ∧
                  kind.format.ofJson? (rebuild (setMember slot.name default members)) =
                    some other := by
  have law := kind.lawful
  refine ⟨law.fits record, fun tree edits => ?_⟩
  have read : kind.format.ofJson? tree = some record := by
    rw [law.follows.reads_edited edits, law.reads_written record writable]
  refine ⟨read, fun fields members rebuild within slot mem held found => ⟨fun needed => ?_, ?_⟩⟩
  · exact law.follows.loss within (.drop mem needed)
  · intro default holds
    exact law.follows.reads_without within mem holds found (Option.isSome_of_eq_some read)

/-- An enemy with one card, which hits harder with its own strength. -/
def ghoul : Enemy where
  name := "Ghoul"
  health := 12
  cards := [{ name := "Claw", effects := [{ Effect.damage 3 with
    add := some ⟨.field .own (.status .strength) none, none⟩ }] }]

theorem ghoul_writable : ghoul.Writable := by
  have number : Binary64.IsFinite 3 := by decide +kernel
  refine ⟨by decide, List.forall_mem_singleton.mpr ?_, List.forall_mem_nil _⟩
  refine ⟨List.forall_mem_singleton.mpr ?_, forall_mem_none, forall_mem_none⟩
  refine ⟨number, ?_, forall_mem_none, forall_mem_none, forall_mem_none⟩
  rintro _ ⟨⟩
  exact ⟨forall_mem_none, forall_mem_none⟩

/-- The strength of the owner, given the members after its field. -/
def strengthTree (rest : List (String × Json)) : Json :=
  .form "Field" (.object ([("target", .string "Own"),
    ("field", .form "Status" (.string "Strength"))] ++ rest))

/-- What the card of the enemy does, given the members before and after its
bonus. -/
def clawTree (before after : List (String × Json)) : Json :=
  .object ([("target", .string "Opponent"), ("kind", .string "Damage")] ++ before ++ after ++
    [("multiply", .null), ("hits", .null), ("condition", .null)])

/-- The number of the effect. -/
def clawValue : String × Json := ("value", .form "Literal" (.real 3))

/-- The bonus of the effect, given the members of the strength after its field. -/
def clawBonus (rest : List (String × Json)) : String × Json :=
  ("add", .object [("value", strengthTree rest), ("condition", .null)])

/-- The tree of the enemy, given what its card does, and its members after the
cards. -/
def ghoulTree (claw : Json) (rest : List (String × Json)) : Json :=
  .object ([("name", .string "Ghoul"), ("health", .int 12), ("cards", .array [.object
    [("name", .string "Claw"), ("effects", .array [claw]), ("repeat", .null),
    ("lifesteal", .null), ("trash_on_play", .bool false), ("tribe", .nat 0)]])] ++ rest)

/-- A record within what the card does is a record within the enemy. -/
theorem within_ghoulTree {claw fields members rebuild} (rest : List (String × Json))
    (within : Within Effect.shape claw fields members rebuild) :
    Within Enemy.shape (ghoulTree claw rest) fields members
      fun other => ghoulTree (rebuild other) rest := by
  refine .field (.tail _ (.tail _ (.head _))) rfl (@Within.item Card.shape [] _ [] _ _ _ ?_)
  exact .field (.tail _ (.head _)) rfl (@Within.item Effect.shape [] _ [] _ _ _ within)

/-- Two fields of the enemy are left out, one of them in the bonus of its card,
and a note is made beside the bonus.  That is read as the enemy.  It is not read
without the number of the effect, and without the bonus it is read like an enemy
whose card has none. -/
theorem ghoul_reads_back :
    ghoul.Writable ∧
      Enemy.ofJson? (ghoulTree (clawTree [clawValue, ("note", .string "grows")] [clawBonus []])
        []) = some ghoul ∧
      Enemy.ofJson? (ghoulTree (clawTree [("note", .string "grows")] [clawBonus []]) []) = none ∧
      ∃ other,
        Enemy.ofJson? (ghoulTree (clawTree [clawValue, ("note", .string "grows")] []) []) =
          some other ∧
        Enemy.ofJson? (ghoulTree (clawTree [clawValue, ("note", .string "grows")]
          [("add", .null)]) []) = some other := by
  obtain ⟨-, reads⟩ := reads_back .enemy ghoul ghoul_writable
  have withoutRelics : Edited Idle Enemy.shape ghoul.toJson
      (ghoulTree (clawTree [clawValue] [clawBonus [("multiplier", .null)]]) []) :=
    ⟨_, _, _, _, .here, .drop (.tail _ (.tail _ (.tail _ (.head _)))) rfl rfl, rfl⟩
  have multiplier : Within Effect.shape
      (clawTree [clawValue] [clawBonus [("multiplier", .null)]]) _ _ _ :=
    .field (.tail _ (.tail _ (.tail _ (.head _)))) rfl <| .present <|
      .field (.head _) rfl <| .contents (.tail _ (.head _)) .here
  have withoutMultiplier : Edited Idle Enemy.shape
      (ghoulTree (clawTree [clawValue] [clawBonus [("multiplier", .null)]]) [])
      (ghoulTree (clawTree [clawValue] [clawBonus []]) []) :=
    ⟨_, _, _, _, within_ghoulTree _ multiplier, .drop (.tail _ (.tail _ (.head _))) rfl rfl, rfl⟩
  have noted : Edited Idle Enemy.shape (ghoulTree (clawTree [clawValue] [clawBonus []]) [])
      (ghoulTree (clawTree [clawValue, ("note", .string "grows")] [clawBonus []]) []) :=
    ⟨_, _, _, _, within_ghoulTree _ .here,
      @Idle.add _ "note" _ (_ :: _ :: _ :: []) _ (by decide), rfl⟩
  obtain ⟨kept, dropped⟩ := reads _ (.tail (.tail (.single withoutRelics) withoutMultiplier) noted)
  have claw := dropped _ _ _ (within_ghoulTree _ .here)
  obtain ⟨lost, -⟩ := claw _ (.tail _ (.tail _ (.head _))) _ rfl
  obtain ⟨-, bare⟩ := claw _ (.tail _ (.tail _ (.tail _ (.head _)))) _ rfl
  exact ⟨ghoul_writable, kept, lost rfl, bare .null rfl⟩

/-- A card that is trashed once it has been played. -/
def ember : Card where
  name := "Ember"
  effects := []
  trashOnPlay := true

/-- Not every field that holds something else than its default has to be there:
a card is also read without the mark that it is trashed. -/
theorem ember_reads_without_mark :
    ¬ ∀ (kind : RecordKind) (record : kind.Value), kind.format.Writable record →
      kind.format.ofJson? (kind.format.toJson record) = some record ∧
      (∀ tree, ReflTransGen (Edited Idle kind.format.shape) (kind.format.toJson record) tree →
        kind.format.ofJson? tree = some record) ∧
      ∀ fields members rebuild,
        Within kind.format.shape (kind.format.toJson record) fields members rebuild →
        ∀ slot ∈ fields, ∀ held, member? slot.name members = some held →
          slot.default? ≠ some held →
          kind.format.ofJson? (rebuild (dropMember slot.name members)) = none := by
  intro rule
  have writable : ember.Writable := ⟨List.forall_mem_nil _, forall_mem_none, forall_mem_none⟩
  obtain ⟨-, -, lost⟩ := rule .card ember writable
  have refused := lost _ _ _ .here _ (.tail _ (.tail _ (.tail _ (.tail _ (.head _)))))
    (.bool true) rfl nofun
  have read : Card.ofJson? (.object (dropMember "trash_on_play" [("name", .string "Ember"),
      ("effects", .array []), ("repeat", .null), ("lifesteal", .null),
      ("trash_on_play", .bool true), ("tribe", .nat 0)])) =
        some { ember with trashOnPlay := false } := rfl
  cases read.symm.trans refused

end RecordKind

end CardBattle
