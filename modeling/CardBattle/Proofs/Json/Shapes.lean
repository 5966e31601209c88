/-
Module: CardBattle.Proofs.Json.Shapes
Purpose: Where the records of a JSON tree lie, and what readers make of a tree when members of its
records are taken out or put in.
Main exports:
  Json.Slot, Json.Shape, Json.Fits, Json.Within, Json.Edited, Json.Idle, Json.Loss, Json.Reset,
  Json.Follows, Json.Reads, Json.Follows.record, Json.Follows.reads_edited,
  Json.Follows.reads_without
-/
import CardBattle.Json.Basic
import Mathlib.Data.List.Nodup
import Mathlib.Logic.Relation

/-!
# Records in JSON trees

An object in a tree may be a record, a form with its contents or a table of counters, and only
records may lack members or have others.  A shape says which of the three each object is, and of
a record which fields it has.  A field may have a value with which it can also be left out: the
default of the field, or `null` for a value that may be absent.

`Within` finds one record of a tree, wherever it lies, together with the tree around it.  A reader
that *follows* the shape gives the same answer after an idle edit of that record, none after the
loss of a field that has to be there, and some answer once a field has been set to its default.  For
a record this is put together field by field in the order of reading (`Reads`).
-/

namespace CardBattle.Json

open Relation

/-! ### Shapes -/

/-- A field of a record. -/
structure Slot (σ : Type) where
  name : String
  /-- The value with which the field can also be left out. -/
  default? : Option Json
  /-- The shape of what it holds. -/
  shape : σ

/-- Where the records of a tree are. -/
inductive Shape where
  /-- Neither a list nor an object. -/
  | atom
  /-- Atoms under names that are not fields. -/
  | table
  /-- `null` or something else. -/
  | nullable (shape : Shape)
  | list (shape : Shape)
  /-- A name, or one of these forms. -/
  | choice (forms : List (String × Shape))
  | record (fields : List (Slot Shape))

namespace Slot

/-- A field that has to be there. -/
def needed (name : String) (shape : Shape) : Slot Shape := ⟨name, none, shape⟩

/-- A field that has a default. -/
def defaulting (name : String) (default : Json) (shape : Shape) : Slot Shape :=
  ⟨name, some default, shape⟩

/-- A field whose value may be absent. -/
def optional (name : String) (shape : Shape) : Slot Shape :=
  defaulting name .null (.nullable shape)

end Slot

/-- Whether a value is neither a list nor an object. -/
def IsAtom : Json → Prop
  | array _ | object _ => False
  | _ => True

mutual

/-- A tree as it is written: each object in it is what the shape says. -/
inductive Fits : Shape → Json → Prop where
  | atom {value} : IsAtom value → Fits .atom value
  | table {members} : (∀ member ∈ members, IsAtom member.2) → Fits .table (object members)
  | absent {shape} : Fits (.nullable shape) null
  | present {shape value} : Fits shape value → Fits (.nullable shape) value
  | list {shape items} : (∀ item ∈ items, Fits shape item) → Fits (.list shape) (array items)
  | name {forms name} : Fits (.choice forms) (string name)
  | form {forms name shape contents} : (name, shape) ∈ forms → Fits shape contents →
      Fits (.choice forms) (form name contents)
  | record {fields members} : FitsEach fields members → Fits (.record fields) (object members)

/-- Members that are the fields of a record, one for each and in their order. -/
inductive FitsEach : List (Slot Shape) → List (String × Json) → Prop where
  | nil : FitsEach [] []
  | cons {slot fields value members} : Fits slot.shape value → FitsEach fields members →
      FitsEach (slot :: fields) ((slot.name, value) :: members)

end

/-- A number is an atom, also one that is written as `null`. -/
theorem isAtom_real (x : Binary64) : IsAtom (real x) := by
  cases x <;> trivial

theorem Fits.real {x : Binary64} : Fits .atom (real x) := .atom (isAtom_real x)

theorem Fits.ofList {α : Type} {encode : α → Json} {shape : Shape}
    (each : ∀ a, Fits shape (encode a)) (items : List α) :
    Fits (.list shape) (ofList encode items) :=
  .list fun _ mem => by
    obtain ⟨a, -, rfl⟩ := List.mem_map.mp mem
    exact each a

/-- An absent value fits as `null`, a present one as it is written. -/
theorem Fits.ofOption {α : Type} {encode : α → Json} {shape : Shape}
    (each : ∀ a, Fits shape (encode a)) (value : Option α) :
    Fits (.nullable shape) (ofOption encode value) := by
  cases value with
  | none => exact .absent
  | some a => exact .present (each a)

/-! ### Reading members, fields and absent values -/

@[simp] theorem member?_cons_self (name : String) (value : Json) (rest : List (String × Json)) :
    member? name ((name, value) :: rest) = some value :=
  if_pos rfl

@[simp] theorem member?_cons_ne {key name : String} (differs : key ≠ name) (value : Json)
    (rest : List (String × Json)) :
    member? name ((key, value) :: rest) = member? name rest :=
  if_neg differs

@[simp] theorem isRecord_object (members : List (String × Json)) (least most : Nat) :
    (object members).isRecord least most = true :=
  rfl

/-- In an object a field is found by name; its place only counts where a record
comes as a list. -/
@[simp] theorem required_object {α : Type} (members : List (String × Json)) (place : Nat)
    (name : String) (decode : Json → Option α) :
    (object members).required place name decode = (member? name members).bind decode :=
  rfl

/-- A missing member stands for the default, and one that is there is read
whatever it is. -/
@[simp] theorem defaulted_object {α : Type} (members : List (String × Json)) (place : Nat)
    (name : String) (decode : Json → Option α) (default : α) :
    (object members).defaulted place name decode default =
      (member? name members).elim (some default) decode := by
  have held : (object members).field? place name = member? name members := rfl
  rw [defaulted, held]
  cases member? name members with
  | none => rfl
  | some value => rfl

theorem nullable?_of_ne_null {α : Type} {decode : Json → Option α} {value : Json}
    (present : value ≠ null) : nullable? decode value = (decode value).map some := by
  cases value with
  | null => contradiction
  | _ => rfl

/-! ### Members taken out, put in and replaced -/

/-- The members with other names. -/
def dropMember (name : String) (members : List (String × Json)) : List (String × Json) :=
  members.filter fun member => member.1 ≠ name

/-- The members with the first one of a name replaced. -/
def setMember (name : String) (value : Json) : List (String × Json) → List (String × Json)
  | [] => []
  | (key, old) :: rest =>
      if key = name then (key, value) :: rest else (key, old) :: setMember name value rest

/-- A member that has been taken out is not found, however often it was there. -/
@[simp] theorem member?_dropMember_self (name : String) (members : List (String × Json)) :
    member? name (dropMember name members) = none := by
  induction members with
  | nil => rfl
  | cons head rest ih =>
      by_cases same : head.1 = name
      · simpa [dropMember, same] using ih
      · simpa [dropMember, same, member?] using ih

theorem member?_dropMember_ne {name other : String} (differs : other ≠ name)
    (members : List (String × Json)) :
    member? other (dropMember name members) = member? other members := by
  induction members with
  | nil => rfl
  | cons head rest ih =>
      by_cases same : head.1 = name
      · simpa [dropMember, same, member?, differs.symm] using ih
      · by_cases found : head.1 = other
        · simp [dropMember, member?, found, differs]
        · simpa [dropMember, same, member?, found] using ih

theorem member?_setMember_self {name : String} {members : List (String × Json)} {old : Json}
    (found : member? name members = some old) (value : Json) :
    member? name (setMember name value members) = some value := by
  induction members with
  | nil => simp [member?] at found
  | cons head rest ih =>
      by_cases same : head.1 = name
      · simp [setMember, same]
      · simpa [setMember, member?, same] using ih (by simpa [member?, same] using found)

theorem member?_setMember_ne {name other : String} (differs : other ≠ name) (value : Json)
    (members : List (String × Json)) :
    member? other (setMember name value members) = member? other members := by
  induction members with
  | nil => rfl
  | cons head rest ih =>
      by_cases same : head.1 = name
      · simp [setMember, member?, same, differs.symm]
      · simp [setMember, member?, same, ih]

/-- What a member was replaced by does not matter once it is taken out.
Dropping a field and resetting it are compared with this. -/
theorem dropMember_setMember (name : String) (value : Json) (members : List (String × Json)) :
    dropMember name (setMember name value members) = dropMember name members := by
  induction members with
  | nil => rfl
  | cons head rest ih =>
      by_cases same : head.1 = name
      · simp [setMember, dropMember, same]
      · simpa [setMember, dropMember, same] using ih

/-- Of two replacements of one member the later one stands. -/
theorem setMember_setMember (name : String) (old value : Json)
    (members : List (String × Json)) :
    setMember name value (setMember name old members) = setMember name value members := by
  induction members with
  | nil => rfl
  | cons head rest ih =>
      by_cases same : head.1 = name
      · simp [setMember, same]
      · simp [setMember, same, ih]

/-- A further member, wherever it is put, hides none of another name. -/
theorem member?_insert_ne {name other : String} (differs : other ≠ name) (value : Json)
    (before after : List (String × Json)) :
    member? other (before ++ (name, value) :: after) = member? other (before ++ after) := by
  induction before with
  | nil => simp [differs.symm]
  | cons head rest ih => simp [member?, ih]

/-! ### When there is an answer -/

theorem isSome_bind_iff {α β : Type} {first : Option α} {rest : α → Option β} :
    (first >>= rest).isSome ↔ ∃ value, first = some value ∧ (rest value).isSome := by
  cases first with
  | none => simp
  | some value => simp

/-- A list is read when all of its items are, so one item that is refused makes
the whole refused. -/
theorem isSome_listOf?_iff {α : Type} {decode : Json → Option α} {items : List Json} :
    (listOf? decode (array items)).isSome ↔ ∀ item ∈ items, (decode item).isSome := by
  show (items.mapM decode).isSome ↔ _
  induction items with
  | nil => simp
  | cons item rest ih =>
      rw [List.mapM_cons, isSome_bind_iff, List.forall_mem_cons, ← ih]
      constructor
      · rintro ⟨value, here, others⟩
        obtain ⟨values, found, -⟩ := isSome_bind_iff.mp others
        exact ⟨Option.isSome_of_eq_some here, Option.isSome_of_eq_some found⟩
      · rintro ⟨here, others⟩
        obtain ⟨value, here⟩ := Option.isSome_iff_exists.mp here
        obtain ⟨values, found⟩ := Option.isSome_iff_exists.mp others
        exact ⟨value, here, isSome_bind_iff.mpr ⟨values, found, rfl⟩⟩

/-! ### Records within a tree -/

/-- `Within shape tree fields members rebuild`: a record with these fields and
members lies somewhere in the tree, and `rebuild` gives the tree with other
members in their place. -/
inductive Within : Shape → Json → List (Slot Shape) → List (String × Json) →
    (List (String × Json) → Json) → Prop where
  | here {fields members} : Within (.record fields) (object members) fields members object
  | field {slots slot siblings value fields members rebuild} : slot ∈ slots →
      member? slot.name siblings = some value → Within slot.shape value fields members rebuild →
      Within (.record slots) (object siblings) fields members
        fun other => object (setMember slot.name (rebuild other) siblings)
  | item {shape before value after fields members rebuild} :
      Within shape value fields members rebuild →
      Within (.list shape) (array (before ++ value :: after)) fields members
        fun other => array (before ++ rebuild other :: after)
  | contents {forms name shape value fields members rebuild} : (name, shape) ∈ forms →
      Within shape value fields members rebuild →
      Within (.choice forms) (form name value) fields members fun other => form name (rebuild other)
  | present {shape value fields members rebuild} : Within shape value fields members rebuild →
      Within (.nullable shape) value fields members rebuild

namespace Within

variable {shape : Shape} {tree : Json} {fields : List (Slot Shape)}
  {members : List (String × Json)} {rebuild : List (String × Json) → Json}

/-- Once the record has other members, it is still there, with the same tree
around it. -/
theorem rebuilt (within : Within shape tree fields members rebuild)
    (other : List (String × Json)) : Within shape (rebuild other) fields other rebuild := by
  induction within with
  | here => exact .here
  | field mem found _ ih =>
      simpa only [setMember_setMember] using Within.field mem (member?_setMember_self found _) ih
  | item _ ih => exact .item ih
  | contents mem _ ih => exact .contents mem ih
  | present _ ih => exact .present ih

/-- A tree with a record in it is an object or a list, whatever members the
record has. -/
theorem ne_null (within : Within shape tree fields members rebuild) :
    tree ≠ null ∧ ∀ other, rebuild other ≠ null := by
  induction within with
  | here | field | item | contents => simp [Json.form]
  | present _ ih => exact ih

end Within

/-- `Edited edit shape tree edited`: one record of the tree is edited, wherever
it lies. -/
def Edited (edit : List (Slot Shape) → List (String × Json) → List (String × Json) → Prop)
    (shape : Shape) (tree edited : Json) : Prop :=
  ∃ fields members rebuild other, Within shape tree fields members rebuild ∧
    edit fields members other ∧ edited = rebuild other

/-- An edit that is of no consequence: a field goes that holds its default, or a
member comes that has the name of no field. -/
inductive Idle :
    List (Slot Shape) → List (String × Json) → List (String × Json) → Prop where
  | drop {fields slot members default} : slot ∈ fields → slot.default? = some default →
      member? slot.name members = some default →
      Idle fields members (dropMember slot.name members)
  | add {fields name value before after} : (∀ slot ∈ fields, slot.name ≠ name) →
      Idle fields (before ++ after) (before ++ (name, value) :: after)

/-- A field goes that has to be there. -/
inductive Loss :
    List (Slot Shape) → List (String × Json) → List (String × Json) → Prop where
  | drop {fields slot members} : slot ∈ fields → slot.default? = none →
      Loss fields members (dropMember slot.name members)

/-- A field gets its default in place of what it holds. -/
inductive Reset :
    List (Slot Shape) → List (String × Json) → List (String × Json) → Prop where
  | set {fields slot members default held} : slot ∈ fields → slot.default? = some default →
      member? slot.name members = some held →
      Reset fields members (setMember slot.name default members)

/-! ### Readers that follow a shape -/

/-- A reader that answers edits as it should, of whichever record in its tree. -/
structure Follows {α : Type} (shape : Shape) (decode : Json → Option α) : Prop where
  idle : ∀ {tree fields members rebuild other}, Within shape tree fields members rebuild →
    Idle fields members other → decode (rebuild other) = decode tree
  loss : ∀ {tree fields members rebuild other}, Within shape tree fields members rebuild →
    Loss fields members other → decode (rebuild other) = none
  reset : ∀ {tree fields members rebuild other}, Within shape tree fields members rebuild →
    Reset fields members other → (decode tree).isSome → (decode (rebuild other)).isSome

namespace Follows

variable {α : Type} {decode : Json → Option α}

/-- There is nothing to edit in an atom. -/
theorem atom : Follows .atom decode where
  idle within := nomatch within
  loss within := nomatch within
  reset within := nomatch within

/-- There is nothing to edit in a table. -/
theorem table : Follows .table decode where
  idle within := nomatch within
  loss within := nomatch within
  reset within := nomatch within

/-- What is made of the value that has been read does not matter to the tree, so
the reader follows it as before. -/
theorem map {β : Type} {shape : Shape} (inside : Follows shape decode) (f : α → β) :
    Follows shape fun value => (decode value).map f where
  idle within edit := by rw [inside.idle within edit]
  loss within edit := by rw [inside.loss within edit, Option.map_none]
  reset within edit read := by
    rw [Option.isSome_map] at read ⊢
    exact inside.reset within edit read

/-- A value that may be absent is read like one that may not, once it is there;
and no edit makes it absent, as no record is `null`. -/
theorem nullable {shape : Shape} (inside : Follows shape decode) :
    Follows (.nullable shape) (nullable? decode) where
  idle within edit := by
    cases within with
    | present inner =>
        rw [nullable?_of_ne_null inner.ne_null.1, nullable?_of_ne_null (inner.ne_null.2 _),
          inside.idle inner edit]
  loss within edit := by
    cases within with
    | present inner =>
        rw [nullable?_of_ne_null (inner.ne_null.2 _), inside.loss inner edit, Option.map_none]
  reset within edit read := by
    cases within with
    | present inner =>
        rw [nullable?_of_ne_null inner.ne_null.1, Option.isSome_map] at read
        rw [nullable?_of_ne_null (inner.ne_null.2 _), Option.isSome_map]
        exact inside.reset inner edit read

/-- A list is read item by item, so what happens to one of them happens to the
list.  The items before and after the edited one are read as they were. -/
theorem list {shape : Shape} (inside : Follows shape decode) :
    Follows (.list shape) (listOf? decode) where
  idle within edit := by
    cases within with
    | item inner =>
        simp only [listOf?, List.mapM_append, List.mapM_cons, inside.idle inner edit]
  loss within edit := by
    cases within with
    | item inner => simp [listOf?, List.mapM_append, List.mapM_cons, inside.loss inner edit]
  reset within edit read := by
    cases within with
    | item inner =>
        rw [isSome_listOf?_iff, List.forall_mem_append, List.forall_mem_cons] at read ⊢
        exact ⟨read.1, inside.reset inner edit read.2.1, read.2.2⟩

/-- A choice is followed when each of its forms is.  Edits keep the name of the
form and change its contents. -/
theorem choice {forms : List (String × Shape)}
    (inside : ∀ entry ∈ forms,
      Follows entry.2 fun contents => decode (form entry.1 contents)) :
    Follows (.choice forms) decode where
  idle within edit := by
    cases within with
    | contents mem inner => exact (inside _ mem).idle inner edit
  loss within edit := by
    cases within with
    | contents mem inner => exact (inside _ mem).loss inner edit
  reset within edit read := by
    cases within with
    | contents mem inner => exact (inside _ mem).reset inner edit read

end Follows

/-! ### Records, field by field -/

/-- What idle edits of a record do to one of its fields. -/
inductive Slot.Spared (slot : Slot Shape) : Option Json → Option Json → Prop where
  | same {held} : Spared slot held held
  | dropped {default} : slot.default? = some default → Spared slot (some default) none
  | edited {value fields members rebuild other} :
      Within slot.shape value fields members rebuild → Idle fields members other →
      Spared slot (some value) (some (rebuild other))

/-- What is left of a field after a loss in it. -/
inductive Slot.Bereft (slot : Slot Shape) : Option Json → Prop where
  | dropped : slot.default? = none → Bereft slot none
  | edited {value fields members rebuild other} :
      Within slot.shape value fields members rebuild → Loss fields members other →
      Bereft slot (some (rebuild other))

/-- What setting a field of a record to its default does to each of its fields. -/
inductive Slot.Settled (slot : Slot Shape) : Option Json → Option Json → Prop where
  | same {held} : Settled slot held held
  | set {default held} : slot.default? = some default → Settled slot (some held) (some default)
  | edited {value fields members rebuild other} :
      Within slot.shape value fields members rebuild → Reset fields members other →
      Settled slot (some value) (some (rebuild other))

/-- A reader of members that looks at some fields and follows the shape of each.
It may build on what has been read before, but whether it gives an answer does
not depend on that. -/
structure Reads {γ α : Type} (fields : List (Slot Shape))
    (read : γ → List (String × Json) → Option α) : Prop where
  uniform : ∀ one two {members}, (read one members).isSome → (read two members).isSome
  spared : ∀ given {members edited},
    (∀ slot ∈ fields, slot.Spared (member? slot.name members) (member? slot.name edited)) →
    read given edited = read given members
  bereft : ∀ given {edited slot}, slot ∈ fields → slot.Bereft (member? slot.name edited) →
    read given edited = none
  settled : ∀ given {members edited},
    (∀ slot ∈ fields, slot.Settled (member? slot.name members) (member? slot.name edited)) →
    (read given members).isSome → (read given edited).isSome

namespace Reads

variable {γ α β : Type} {fields : List (Slot Shape)} {name : String} {shape : Shape}
  {decode : Json → Option α}

/-- After the last field there is always an answer. -/
theorem pure (result : γ → α) : Reads [] fun given _ => some (result given) where
  uniform _ _ _ _ := rfl
  spared _ _ _ _ := rfl
  bereft _ _ _ mem := nomatch mem
  settled _ _ _ _ read := read

/-- One field is read, then the others, which may build on it.  An edit touches
the one or the others, and both parts of the reader say what then happens. -/
theorem cons {slot : Slot Shape} {first : List (String × Json) → Option α}
    {rest : γ → α → List (String × Json) → Option β} (head : Reads [slot] fun _ : Unit => first)
    (tail : Reads fields fun given : γ × α => rest given.1 given.2) :
    Reads (slot :: fields) fun given members => first members >>= fun value =>
      rest given value members where
  uniform one two members read := by
    obtain ⟨value, here, others⟩ := isSome_bind_iff.mp read
    exact isSome_bind_iff.mpr ⟨value, here, tail.uniform (one, value) (two, value) others⟩
  spared given members edited spared := by
    obtain ⟨here, others⟩ := List.forall_mem_cons.mp spared
    have same : first edited = first members :=
      head.spared () (List.forall_mem_singleton.mpr here)
    rw [same]
    exact congrArg (first members >>= ·) (funext fun value => tail.spared (given, value) others)
  bereft given edited s mem lost := by
    rcases List.mem_cons.mp mem with rfl | mem
    · have missing : first edited = none := head.bereft () (List.mem_singleton_self s) lost
      rw [missing]
      rfl
    · have missing : (fun value => rest given value edited) = fun _ => none :=
        funext fun value => tail.bereft (given, value) mem lost
      rw [missing]
      exact Option.bind_fun_none _
  settled given members edited settled read := by
    obtain ⟨here, others⟩ := List.forall_mem_cons.mp settled
    obtain ⟨value, found, last⟩ := isSome_bind_iff.mp read
    obtain ⟨value', found'⟩ : ∃ value', first edited = some value' :=
      Option.isSome_iff_exists.mp (head.settled () (List.forall_mem_singleton.mpr here)
        (Option.isSome_of_eq_some found))
    -- The field may be read as something else now, and the others are read all the same.
    have before := tail.uniform (given, value) (given, value') last
    exact isSome_bind_iff.mpr ⟨value', found', tail.settled (given, value') others before⟩

/-- Every object may be a record. -/
theorem guarded {read : γ → List (String × Json) → Option α} {least most : Nat}
    (reads : Reads fields read) :
    Reads fields fun given members => guard ((object members).isRecord least most) >>= fun _ =>
      read given members :=
  reads

/-- Every object has members. -/
theorem ofMembers {read : γ → List (String × Json) → Option α} (reads : Reads fields read) :
    Reads fields fun given members =>
      (object members).members? >>= fun members => read given members :=
  reads

/-- A reader that looks at one member only follows the shape if it answers the
three kinds of change to that member as it should. -/
theorem single {slot : Slot Shape} (look : Option Json → Option α)
    (spared : ∀ {held edited}, slot.Spared held edited → look edited = look held)
    (bereft : ∀ {edited}, slot.Bereft edited → look edited = none)
    (settled : ∀ {held edited}, slot.Settled held edited → (look held).isSome →
      (look edited).isSome) :
    Reads [slot] fun (_ : Unit) members => look (member? slot.name members) where
  uniform _ _ _ read := read
  spared _ _ _ h := spared (h slot (List.mem_singleton_self slot))
  bereft _ _ _ mem lost := by
    obtain rfl := List.mem_singleton.mp mem
    exact bereft lost
  settled _ _ _ h := settled (h slot (List.mem_singleton_self slot))

/-- A member that has to be there: without it there is no answer, and edits
within it are met by its own reader. -/
theorem needed (inside : Follows shape decode) :
    Reads [.needed name shape] fun (_ : Unit) members => memberOf members name decode := by
  refine single (fun held => held.bind decode) (fun h => ?_) (fun h => ?_) (fun h read => ?_)
  · cases h with
    | same => rfl
    | dropped default => cases default
    | edited within edit => exact inside.idle within edit
  · cases h with
    | dropped => rfl
    | edited within edit => exact inside.loss within edit
  · cases h with
    | same => exact read
    | set default => cases default
    | edited within edit => exact inside.reset within edit read

/-- A field of a record that has to be there.  In an object it is read like any
member. -/
theorem required {place : Nat} (inside : Follows shape decode) :
    Reads [.needed name shape]
      fun (_ : Unit) members => (object members).required place name decode :=
  needed inside

/-- A field of a record with a default, which is what its written form is read
as. -/
theorem defaulted {place : Nat} {written : Json} {default : α} (inside : Follows shape decode)
    (agrees : decode written = some default) :
    Reads [.defaulting name written shape]
      fun (_ : Unit) members => (object members).defaulted place name decode default := by
  simp only [defaulted_object]
  refine single (fun held => held.elim (some default) decode) (fun h => ?_) (fun h => ?_)
    (fun h read => ?_)
  · cases h with
    | same => rfl
    | dropped holds =>
        obtain rfl := Option.some.inj holds
        exact agrees.symm
    | edited within edit => exact inside.idle within edit
  · cases h with
    | dropped none => cases none
    | edited within edit => exact inside.loss within edit
  · cases h with
    | same => exact read
    | set holds =>
        obtain rfl := Option.some.inj holds
        exact Option.isSome_of_eq_some agrees
    | edited within edit => exact inside.reset within edit read

/-- A member that may be missing or `null`, both of which are read as no value. -/
theorem optional (inside : Follows shape decode) :
    Reads [.optional name shape]
      fun (_ : Unit) members => nullable? decode ((member? name members).getD .null) := by
  have absent (members : List (String × Json)) :
      nullable? decode ((member? name members).getD .null) =
        (object members).defaulted 0 name (nullable? decode) none := by
    rw [defaulted_object]
    cases member? name members with
    | none => rfl
    | some value => rfl
  simp only [absent]
  exact defaulted inside.nullable rfl

end Reads

/-- What happens to one field of a record happens to none of the others, as
their names differ. -/
theorem only_one {fields : List (Slot Shape)} {slot : Slot Shape}
    {members edited : List (String × Json)}
    {effect : Slot Shape → Option Json → Option Json → Prop}
    (distinct : (fields.map Slot.name).Nodup) (mem : slot ∈ fields)
    (none : ∀ other held, effect other held held)
    (here : effect slot (member? slot.name members) (member? slot.name edited))
    (others : ∀ name, name ≠ slot.name → member? name edited = member? name members) :
    ∀ other ∈ fields,
      effect other (member? other.name members) (member? other.name edited) := by
  intro other mem'
  by_cases same : other.name = slot.name
  · rwa [List.inj_on_of_nodup_map distinct mem' mem same]
  · rw [others _ same]
    exact none other _

/-- A record is followed when its fields have names of their own and are read
one by one. -/
theorem Follows.record {α : Type} {fields : List (Slot Shape)} {decode : Json → Option α}
    (distinct : (fields.map Slot.name).Nodup)
    (reads : Reads fields fun (_ : Unit) members => decode (object members)) :
    Follows (.record fields) decode where
  idle within edit := by
    cases within with
    | here =>
        cases edit with
        | drop mem default held =>
            refine reads.spared () (only_one distinct mem (fun _ _ => .same) ?_ fun _ differs => ?_)
            · rw [held, member?_dropMember_self]
              exact .dropped default
            · exact member?_dropMember_ne differs _
        | add fresh =>
            refine reads.spared () fun slot mem => ?_
            rw [member?_insert_ne (fresh slot mem)]
            exact .same
    | field mem found inner =>
        refine reads.spared () (only_one distinct mem (fun _ _ => .same) ?_ fun _ differs => ?_)
        · rw [found, member?_setMember_self found]
          exact .edited inner edit
        · exact member?_setMember_ne differs _ _
  loss within edit := by
    cases within with
    | here =>
        cases edit with
        | drop mem needed =>
            refine reads.bereft () mem ?_
            rw [member?_dropMember_self]
            exact .dropped needed
    | field mem found inner =>
        refine reads.bereft () mem ?_
        rw [member?_setMember_self found]
        exact .edited inner edit
  reset within edit := by
    cases within with
    | here =>
        cases edit with
        | set mem default held =>
            refine reads.settled () (only_one distinct mem (fun _ _ => .same) ?_
              fun _ differs => ?_)
            · rw [held, member?_setMember_self held]
              exact .set default
            · exact member?_setMember_ne differs _ _
    | field mem found inner =>
        refine reads.settled () (only_one distinct mem (fun _ _ => .same) ?_ fun _ differs => ?_)
        · rw [found, member?_setMember_self found]
          exact .edited inner edit
        · exact member?_setMember_ne differs _ _

/-- However many idle edits are made, the answer stays.  The trees on the way
need not be any that is written. -/
theorem Follows.reads_edited {α : Type} {shape : Shape} {decode : Json → Option α}
    (follows : Follows shape decode) {tree edited : Json}
    (edits : ReflTransGen (Edited Idle shape) tree edited) : decode edited = decode tree := by
  induction edits with
  | refl => rfl
  | tail _ last ih =>
      obtain ⟨_, _, _, _, within, edit, rfl⟩ := last
      rw [follows.idle within edit, ih]

/-- A field with a default may be left out of any record of a tree, whatever it
holds: the tree is then read like the one in which it holds its default. -/
theorem Follows.reads_without {α : Type} {shape : Shape} {decode : Json → Option α}
    (follows : Follows shape decode) {tree : Json} {fields : List (Slot Shape)}
    {members : List (String × Json)} {rebuild : List (String × Json) → Json}
    (within : Within shape tree fields members rebuild) {slot : Slot Shape} (mem : slot ∈ fields)
    {default held : Json} (holds : slot.default? = some default)
    (found : member? slot.name members = some held) (read : (decode tree).isSome) :
    ∃ value, decode (rebuild (dropMember slot.name members)) = some value ∧
      decode (rebuild (setMember slot.name default members)) = some value := by
  obtain ⟨value, settled⟩ :=
    Option.isSome_iff_exists.mp (follows.reset within (.set mem holds found) read)
  have dropped := follows.idle (within.rebuilt (setMember slot.name default members))
    (.drop mem holds (member?_setMember_self found default))
  rw [dropMember_setMember] at dropped
  exact ⟨value, dropped.trans settled, settled⟩

end CardBattle.Json
