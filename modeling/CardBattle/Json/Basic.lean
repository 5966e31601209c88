/-
Module: CardBattle.Json.Basic
Purpose: JSON values as trees, and the ways in which records, lists and names are read off them.
Main exports:
  Json, Json.Number, Json.listOf?, Json.nullable?, Json.named?, Json.variant?, Json.members?,
  Json.memberOf, Json.required, Json.defaulted
-/
import CardBattle.Binary64.Whole
import CardBattle.Named

/-!
# JSON values

A number is either an integer or a binary number; which of the two a text means is for the reader
of the text to say.  A value read as a binary number may be either, a value read as an integer
has to be one.

A record is an object of named fields, in any order and among others, or the list of its fields
in their order, from which trailing fields with a default may be left out.  A choice among
several forms is the name of the form, or an object with that name as its only member and the
contents of the form as its value; a form without contents may have `null` there, and a form
with fields of its own has an object there, never a list.
-/

namespace CardBattle

/-- A number as it is written. -/
inductive Json.Number where
  | integer (value : Int)
  | real (value : Binary64)
deriving DecidableEq

/-- A JSON value. -/
inductive Json where
  | null
  | bool (value : Bool)
  | number (value : Json.Number)
  | string (value : String)
  | array (items : List Json)
  | object (members : List (String × Json))
deriving Inhabited

namespace Json

/-! ### Writing -/

/-- An integer. -/
def int (value : Int) : Json := number (.integer value)

/-- A natural number. -/
def nat (value : Nat) : Json := int value

/-- A binary number; there is no numeral for one that is not finite. -/
def real : Binary64 → Json
  | .finite negative units h => number (.real (.finite negative units h))
  | _ => null

/-- The name of a value. -/
def ofName {α : Type} [Named α] (value : α) : Json := string (Named.name value)

/-- A form with contents. -/
def form (name : String) (contents : Json) : Json := object [(name, contents)]

/-- A list, item by item. -/
def ofList {α : Type} (encode : α → Json) (items : List α) : Json := array (items.map encode)

/-- A value that may be absent. -/
def ofOption {α : Type} (encode : α → Json) : Option α → Json
  | some value => encode value
  | none => null

/-! ### Reading -/

/-- An integer in a range. -/
def integerIn? (low high : Int) : Json → Option Int
  | number (.integer value) => if low ≤ value ∧ value ≤ high then some value else none
  | _ => none

/-- A signed integer of 64 bits. -/
def word? : Json → Option Int := integerIn? Binary64.leastWord Binary64.greatestWord

/-- A natural number of at most so many bits. -/
def bits? (width : Nat) : Json → Option Nat
  | number (.integer (.ofNat value)) => if value < 1 <<< width then some value else none
  | _ => none

/-- A number, rounded if need be. -/
def real? : Json → Option Binary64
  | number (.integer value) => some (.ofInt value)
  | number (.real value) => some value
  | _ => none

/-- A text. -/
def string? : Json → Option String
  | string value => some value
  | _ => none

/-- A truth value. -/
def bool? : Json → Option Bool
  | bool value => some value
  | _ => none

/-- A list whose items can all be read. -/
def listOf? {α : Type} (decode : Json → Option α) : Json → Option (List α)
  | array items => items.mapM decode
  | _ => none

/-- A value or `null`. -/
def nullable? {α : Type} (decode : Json → Option α) : Json → Option (Option α)
  | null => some none
  | value => (decode value).map some

/-- The form that a value has, with its contents. -/
def variant? : Json → Option (String × Json)
  | string name => some (name, null)
  | object [(name, contents)] => some (name, contents)
  | _ => none

/-- A value of an enumeration. -/
def named? {α : Type} [Named α] (value : Json) : Option α :=
  match value.variant? with
  | some (name, null) => Named.ofName? name
  | _ => none

/-- The value of the first member with a name. -/
def member? (name : String) : List (String × Json) → Option Json
  | [] => none
  | (key, value) :: rest => if key = name then some value else member? name rest

/-- The members of an object. -/
def members? : Json → Option (List (String × Json))
  | object members => some members
  | _ => none

/-- A member that has to be there. -/
def memberOf {α : Type} (members : List (String × Json)) (name : String)
    (decode : Json → Option α) : Option α :=
  (member? name members).bind decode

/-- A field of a record, by name or by place. -/
def field? (record : Json) (place : Nat) (name : String) : Option Json :=
  match record with
  | object members => member? name members
  | array items => items[place]?
  | _ => none

/-- Whether a value can be a record of which, as a list, so many fields are
there. -/
def isRecord (value : Json) (least most : Nat) : Bool :=
  match value with
  | object _ => true
  | array items => least ≤ items.length && items.length ≤ most
  | _ => false

/-- A field that has to be there. -/
def required {α : Type} (record : Json) (place : Nat) (name : String)
    (decode : Json → Option α) : Option α :=
  (record.field? place name).bind decode

/-- A field that has a value of its own when it is not there. -/
def defaulted {α : Type} (record : Json) (place : Nat) (name : String)
    (decode : Json → Option α) (default : α) : Option α :=
  match record.field? place name with
  | some value => decode value
  | none => some default

end Json

end CardBattle
