/-
Module: CardBattle.Proofs.OrderedMap
Purpose: Entries of ordered maps counted by what their look-ups say.
Main exports:
  OrderedMap.find?_insert, OrderedMap.find?_erase, OrderedMap.find?_mapValues,
  OrderedMap.mem_entries,
  OrderedMap.length_le_size, OrderedMap.size_eq_of_inverse, OrderedMap.ofList_entries
-/
import CardBattle.OrderedMap
import Mathlib.Data.List.Nodup
import Mathlib.Data.List.Perm.Subperm
import Mathlib.Data.Prod.Basic

namespace CardBattle.OrderedMap

open Ranked (rank rank_injective)

variable {κ ν : Type} [Ranked κ]

/-- An entry is found under its key, because no earlier one has the same rank. -/
theorem findEntry_eq_some_of_mem {key : κ} {value : ν} {l : List (κ × ν)}
    (ascending : l.Pairwise fun a b => rank a.1 < rank b.1) (mem : (key, value) ∈ l) :
    findEntry key l = some value := by
  induction l with
  | nil => simp at mem
  | cons head rest ih =>
      obtain ⟨above, tail⟩ := List.pairwise_cons.mp ascending
      rcases List.mem_cons.mp mem with rfl | mem
      · simp [findEntry]
      · have differs : rank head.1 ≠ rank key := Nat.ne_of_lt (above _ mem)
        simpa [findEntry, differs] using ih tail mem

theorem mem_of_findEntry_eq_some {key : κ} {value : ν} {l : List (κ × ν)}
    (found : findEntry key l = some value) : (key, value) ∈ l := by
  induction l with
  | nil => simp [findEntry] at found
  | cons head rest ih =>
      unfold findEntry at found
      split at found
      · rename_i same
        rw [← Option.some.inj found, ← rank_injective same]
        exact List.mem_cons_self ..
      · exact List.mem_cons_of_mem _ (ih found)

/-- Looking a key up after an insertion: the new value under its key, and all
else as before. -/
theorem find?_insert [DecidableEq κ] (m : OrderedMap κ ν) (key other : κ) (value : ν) :
    (m.insert key value).find? other = if other = key then some value else m.find? other := by
  by_cases same : other = key
  · rw [if_pos same, same, find?_insert_self]
  · rw [if_neg same, find?_insert_ne m same]

/-- Looking a key up after an erasure: nothing under its key, and all else as
before. -/
theorem find?_erase [DecidableEq κ] (m : OrderedMap κ ν) (key other : κ) :
    (m.erase key).find? other = if other = key then none else m.find? other := by
  by_cases same : other = key
  · rw [if_pos same, same, find?_erase_self]
  · rw [if_neg same, find?_erase_ne m same]

/-- Changing all values changes what the look-ups find, and under which keys
they find something stays. -/
theorem find?_mapValues {μ : Type} (m : OrderedMap κ ν) (f : ν → μ) (key : κ) :
    (m.mapValues f).find? key = (m.find? key).map f := by
  have entries : ∀ l : List (κ × ν),
      findEntry key (l.map fun e => (e.1, f e.2)) = (findEntry key l).map f := by
    intro l
    induction l with
    | nil => rfl
    | cons head rest ih =>
        rw [List.map_cons, findEntry, findEntry, ih]
        split
        · rfl
        · rfl
  exact entries m.entries

/-! ### Entries and keys -/

/-- The entries are what the look-ups find, so a statement about all entries is
one about all keys. -/
theorem mem_entries {m : OrderedMap κ ν} {key : κ} {value : ν} :
    (key, value) ∈ m.entries ↔ m.find? key = some value :=
  ⟨findEntry_eq_some_of_mem m.ascending, mem_of_findEntry_eq_some⟩

theorem mem_keys {m : OrderedMap κ ν} {key : κ} :
    key ∈ m.keys ↔ ∃ value, m.find? key = some value := by
  simp [keys, mem_entries]

theorem contains_eq_false {m : OrderedMap κ ν} {key : κ} :
    m.contains key = false ↔ m.find? key = none :=
  Option.isSome_eq_false_iff.trans Option.isNone_iff_eq_none

/-- No key has two entries, as the ranks of the keys ascend strictly. -/
theorem nodup_keys (m : OrderedMap κ ν) : m.keys.Nodup := by
  refine List.pairwise_map.mpr (m.ascending.imp fun below same => ?_)
  rw [same] at below
  exact Nat.lt_irrefl _ below

theorem nodup_entries (m : OrderedMap κ ν) : m.entries.Nodup :=
  (nodup_keys m).of_map

@[simp] theorem length_keys (m : OrderedMap κ ν) : m.keys.length = m.size := by
  simp [keys, size]

/-- Distinct keys of a map are no more than its entries. -/
theorem length_le_size {m : OrderedMap κ ν} {keys : List κ} (distinct : keys.Nodup)
    (stored : ∀ key ∈ keys, ∃ value, m.find? key = some value) : keys.length ≤ m.size := by
  rw [← length_keys]
  exact (distinct.subperm fun key mem => mem_keys.mpr (stored key mem)).length_le

theorem isEmpty_iff {m : OrderedMap κ ν} :
    m.isEmpty = true ↔ ∀ key, m.find? key = none := by
  constructor
  · intro none key
    have : m.entries = [] := List.isEmpty_iff.mp none
    simp [find?, this, findEntry]
  · intro none
    refine List.isEmpty_iff.mpr (List.eq_nil_iff_forall_not_mem.mpr fun e mem => ?_)
    have found := mem_entries.mp mem
    rw [none] at found
    cases found

/-- Two maps that undo each other have as many entries as one another.  Distinct
keys of the one give distinct keys of the other. -/
theorem size_eq_of_inverse [Ranked ν] {m : OrderedMap κ ν} {n : OrderedMap ν κ}
    (inverse : ∀ key value, m.find? key = some value ↔ n.find? value = some key) :
    m.size = n.size := by
  have turned : (m.entries.map Prod.swap).Nodup :=
    (nodup_entries m).map Prod.swap_injective
  have same : (m.entries.map Prod.swap).Perm n.entries := by
    refine (List.perm_ext_iff_of_nodup turned (nodup_entries n)).mpr fun ⟨value, key⟩ => ?_
    rw [mem_entries, ← inverse, ← mem_entries]
    simp
  simpa [size] using same.length_eq

/-! ### Filling a map in ascending order -/

theorem insertEntry_of_above {key : κ} {value : ν} {l : List (κ × ν)}
    (above : ∀ e ∈ l, rank e.1 < rank key) : insertEntry key value l = l ++ [(key, value)] := by
  induction l with
  | nil => rfl
  | cons head rest ih =>
      obtain ⟨here, others⟩ := List.forall_mem_cons.mp above
      rw [insertEntry, if_neg (Nat.lt_asymm here), if_neg (Nat.ne_of_gt here), ih others,
        List.cons_append]

/-- Filling a map in ascending order writes the entries down one after the
other. -/
theorem entries_foldl_insert {l : List (κ × ν)} {m : OrderedMap κ ν}
    (ascending : (m.entries ++ l).Pairwise fun a b => rank a.1 < rank b.1) :
    (l.foldl (fun m e => m.insert e.1 e.2) m).entries = m.entries ++ l := by
  induction l generalizing m with
  | nil => exact (List.append_nil _).symm
  | cons head rest ih =>
      obtain ⟨-, -, across⟩ := List.pairwise_append.mp ascending
      have last : (m.insert head.1 head.2).entries = m.entries ++ [head] :=
        insertEntry_of_above fun e mem => across e mem head (List.mem_cons_self ..)
      rw [List.append_cons, ← last] at ascending
      rw [List.foldl_cons, ih ascending, last, ← List.append_cons]

/-- A map is filled again from its entries, which is what reading one back comes
to. -/
@[simp] theorem ofList_entries (m : OrderedMap κ ν) : ofList m.entries = m := by
  have same : (ofList m.entries).entries = m.entries := entries_foldl_insert m.ascending
  exact ext_find? fun key => congrArg (findEntry key) same

end CardBattle.OrderedMap
