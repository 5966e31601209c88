/-
Module: CardBattle.OrderedMap
Purpose: Finite maps kept as a list of entries in ascending order of their keys.
Main exports:
  Ranked, OrderedMap, OrderedMap.find?, OrderedMap.insert, OrderedMap.erase, OrderedMap.filter,
  OrderedMap.ext_find?
-/

/-!
# Ordered maps

A key type is ranked when its values are told apart by a natural number.  A map then has one
form: its entries in strictly ascending rank.  So two maps that answer every question alike are
the same map (`ext_find?`), whatever the order in which they were filled.
-/

namespace CardBattle

/-- Keys told apart by a number. -/
class Ranked (κ : Type) where
  rank : κ → Nat
  rank_injective : ∀ {a b : κ}, rank a = rank b → a = b

open Ranked (rank rank_injective)

/-- A finite map from ranked keys. -/
structure OrderedMap (κ ν : Type) [Ranked κ] where
  entries : List (κ × ν)
  ascending : entries.Pairwise fun a b => rank a.1 < rank b.1
deriving DecidableEq

namespace OrderedMap

variable {κ ν : Type} [Ranked κ]

/-- The map without entries. -/
def empty : OrderedMap κ ν := ⟨[], .nil⟩

instance : Inhabited (OrderedMap κ ν) := ⟨empty⟩

/-- Number of entries. -/
def size (m : OrderedMap κ ν) : Nat := m.entries.length

/-- Whether there is no entry. -/
def isEmpty (m : OrderedMap κ ν) : Bool := m.entries.isEmpty

/-- The keys in ascending order. -/
def keys (m : OrderedMap κ ν) : List κ := m.entries.map (·.1)

/-- The value of the entry for `key` in a list of entries. -/
def findEntry (key : κ) : List (κ × ν) → Option ν
  | [] => none
  | e :: rest => if rank e.1 = rank key then some e.2 else findEntry key rest

/-- The value stored for a key. -/
def find? (m : OrderedMap κ ν) (key : κ) : Option ν := findEntry key m.entries

/-- Whether a key has a value. -/
def contains (m : OrderedMap κ ν) (key : κ) : Bool := (m.find? key).isSome

/-- Put an entry at its place in an ascending list, over an entry with the same
key. -/
def insertEntry (key : κ) (value : ν) : List (κ × ν) → List (κ × ν)
  | [] => [(key, value)]
  | e :: rest =>
      if rank key < rank e.1 then (key, value) :: e :: rest
      else if rank key = rank e.1 then (key, value) :: rest
      else e :: insertEntry key value rest

theorem mem_insertEntry {key : κ} {value : ν} {e : κ × ν} {l : List (κ × ν)}
    (h : e ∈ insertEntry key value l) : e = (key, value) ∨ e ∈ l := by
  induction l with
  | nil => simpa [insertEntry] using h
  | cons head rest ih =>
      unfold insertEntry at h
      split at h
      · simpa using h
      · split at h
        · rcases List.mem_cons.mp h with h | h
          · exact .inl h
          · exact .inr (List.mem_cons_of_mem _ h)
        · rcases List.mem_cons.mp h with h | h
          · exact .inr (h ▸ List.mem_cons_self ..)
          · exact (ih h).imp_right (List.mem_cons_of_mem _)

/-- An insertion keeps the keys ascending: the new one goes before the first
that is greater, or takes the place of its equal. -/
theorem ascending_insertEntry (key : κ) (value : ν) {l : List (κ × ν)}
    (h : l.Pairwise fun a b => rank a.1 < rank b.1) :
    (insertEntry key value l).Pairwise fun a b => rank a.1 < rank b.1 := by
  induction l with
  | nil => simp [insertEntry]
  | cons head rest ih =>
      obtain ⟨above, tail⟩ := List.pairwise_cons.mp h
      unfold insertEntry
      split
      · refine List.pairwise_cons.mpr ⟨fun e mem => ?_, h⟩
        rcases List.mem_cons.mp mem with rfl | mem
        · assumption
        · exact Nat.lt_trans (by assumption) (above e mem)
      · split
        · rename_i same
          exact List.pairwise_cons.mpr ⟨fun e mem => by simpa [same] using above e mem, tail⟩
        · refine List.pairwise_cons.mpr ⟨fun e mem => ?_, ih tail⟩
          rcases mem_insertEntry mem with rfl | mem
          · show rank head.1 < rank key
            omega
          · exact above e mem

/-- Store a value for a key, over an earlier one. -/
def insert (m : OrderedMap κ ν) (key : κ) (value : ν) : OrderedMap κ ν :=
  ⟨insertEntry key value m.entries, ascending_insertEntry key value m.ascending⟩

/-- Keep the entries whose key passes a test. -/
def filter (m : OrderedMap κ ν) (keep : κ → Bool) : OrderedMap κ ν :=
  ⟨m.entries.filter fun e => keep e.1, m.ascending.filter _⟩

/-- Remove the entry of a key. -/
def erase (m : OrderedMap κ ν) (key : κ) : OrderedMap κ ν :=
  m.filter fun k => rank k ≠ rank key

/-- The map with the given entries; of two with one key the later wins. -/
def ofList (entries : List (κ × ν)) : OrderedMap κ ν :=
  entries.foldl (fun m e => m.insert e.1 e.2) empty

/-- Change every value, keeping the keys. -/
def mapValues {μ : Type} (f : ν → μ) (m : OrderedMap κ ν) : OrderedMap κ μ :=
  ⟨m.entries.map fun e => (e.1, f e.2), List.pairwise_map.mpr m.ascending⟩

/-! ### Look-up after each operation -/

theorem findEntry_insertEntry_self (key : κ) (value : ν) (l : List (κ × ν)) :
    findEntry key (insertEntry key value l) = some value := by
  induction l with
  | nil => simp [insertEntry, findEntry]
  | cons head rest ih =>
      unfold insertEntry
      split
      · simp [findEntry]
      · split
        · simp [findEntry]
        · rename_i differs
          simp [findEntry, Ne.symm differs, ih]

/-- An insertion hides no other key.  Keys are told apart by their ranks here. -/
theorem findEntry_insertEntry_ne {key other : κ} (differs : rank other ≠ rank key) (value : ν)
    (l : List (κ × ν)) : findEntry other (insertEntry key value l) = findEntry other l := by
  induction l with
  | nil => simp [insertEntry, findEntry, Ne.symm differs]
  | cons head rest ih =>
      unfold insertEntry
      split
      · simp [findEntry, Ne.symm differs]
      · split
        · rename_i same
          simp [findEntry, Ne.symm differs, ← same]
        · simp [findEntry, ih]

theorem findEntry_filter (keep : κ → Bool) (key : κ) (l : List (κ × ν)) :
    findEntry key (l.filter fun e => keep e.1) = if keep key then findEntry key l else none := by
  induction l with
  | nil => simp [findEntry]
  | cons head rest ih =>
      rw [List.filter_cons]
      by_cases same : rank head.1 = rank key
      · rw [← rank_injective same] at ih ⊢
        by_cases kept : keep head.1 = true
        · simp [kept, findEntry]
        · simpa [kept, findEntry] using ih
      · by_cases kept : keep head.1 = true
        · simp [kept, findEntry, same, ih]
        · simp [kept, findEntry, same, ih]

@[simp] theorem find?_empty (key : κ) : (empty : OrderedMap κ ν).find? key = none := rfl

@[simp] theorem find?_insert_self (m : OrderedMap κ ν) (key : κ) (value : ν) :
    (m.insert key value).find? key = some value :=
  findEntry_insertEntry_self key value m.entries

theorem find?_insert_ne (m : OrderedMap κ ν) {key other : κ} (differs : other ≠ key) (value : ν) :
    (m.insert key value).find? other = m.find? other :=
  findEntry_insertEntry_ne (fun same => differs (rank_injective same)) value m.entries

/-- What a filter keeps is found as before, and the rest is not found at all. -/
@[simp] theorem find?_filter (m : OrderedMap κ ν) (keep : κ → Bool) (key : κ) :
    (m.filter keep).find? key = if keep key then m.find? key else none :=
  findEntry_filter keep key m.entries

@[simp] theorem find?_erase_self (m : OrderedMap κ ν) (key : κ) :
    (m.erase key).find? key = none := by
  simp [erase]

theorem find?_erase_ne (m : OrderedMap κ ν) {key other : κ} (differs : other ≠ key) :
    (m.erase key).find? other = m.find? other := by
  have : rank other ≠ rank key := fun same => differs (rank_injective same)
  simp [erase, this]

/-! ### One form for each map -/

theorem findEntry_eq_none_of_above {key : κ} {l : List (κ × ν)}
    (above : ∀ e ∈ l, rank key < rank e.1) : findEntry key l = none := by
  induction l with
  | nil => rfl
  | cons head rest ih =>
      have : rank head.1 ≠ rank key := Nat.ne_of_gt (above head (List.mem_cons_self ..))
      simpa [findEntry, this] using ih fun e mem => above e (List.mem_cons_of_mem _ mem)

/-- Ascending lists that answer all look-ups alike are the same, by induction
from the least key on. -/
theorem entries_ext {l r : List (κ × ν)}
    (hl : l.Pairwise fun a b => rank a.1 < rank b.1)
    (hr : r.Pairwise fun a b => rank a.1 < rank b.1)
    (same : ∀ key, findEntry key l = findEntry key r) : l = r := by
  induction l generalizing r with
  | nil =>
      cases r with
      | nil => rfl
      | cons head rest => simpa [findEntry] using same head.1
  | cons a l ih =>
      cases r with
      | nil => simpa [findEntry] using same a.1
      | cons b r =>
          obtain ⟨aboveA, tailL⟩ := List.pairwise_cons.mp hl
          obtain ⟨aboveB, tailR⟩ := List.pairwise_cons.mp hr
          have notBefore : ∀ {c d : κ × ν} {t : List (κ × ν)}, (∀ e ∈ t, rank d.1 < rank e.1) →
              findEntry c.1 (d :: t) = some c.2 → ¬ rank c.1 < rank d.1 := by
            intro c d t above found before
            have missing : findEntry c.1 (d :: t) = none := findEntry_eq_none_of_above
              fun e mem => by
                rcases List.mem_cons.mp mem with rfl | mem
                · exact before
                · exact Nat.lt_trans before (above e mem)
            simp [missing] at found
          have foundA : findEntry a.1 (b :: r) = some a.2 := by
            rw [← same a.1]; simp [findEntry]
          have foundB : findEntry b.1 (a :: l) = some b.2 := by
            rw [same b.1]; simp [findEntry]
          have ranks : rank a.1 = rank b.1 :=
            Nat.le_antisymm (Nat.not_lt.mp (notBefore aboveA foundB))
              (Nat.not_lt.mp (notBefore aboveB foundA))
          have keys : a.1 = b.1 := rank_injective ranks
          have values : b.2 = a.2 := by simpa [findEntry, ranks] using foundA
          have heads : a = b := Prod.ext keys values.symm
          subst heads
          refine congrArg (a :: ·) (ih tailL tailR fun key => ?_)
          by_cases here : rank a.1 = rank key
          · rw [← rank_injective here, findEntry_eq_none_of_above aboveA,
              findEntry_eq_none_of_above aboveB]
          · simpa [findEntry, here] using same key

/-- Maps with the same look-ups are the same map, in whatever order they were
filled.  Equality of records can then be shown one look-up at a time. -/
theorem ext_find? {m n : OrderedMap κ ν} (same : ∀ key, m.find? key = n.find? key) : m = n := by
  have := entries_ext m.ascending n.ascending same
  cases m; cases n
  subst this
  rfl

end OrderedMap

end CardBattle
