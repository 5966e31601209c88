/-
Module: CardBattle.Proofs.Chains.Reachability
Purpose: The bounded walk along successors answers exactly which cards can be reached, on any links.
Main exports:
  Chains.reaches_exact, Chains.row, Chains.row_needs_every_check
-/
import CardBattle.Proofs.Chains.Links

/-!
# Reaching a card

`reaches` looks at one card more than there are links.  That is enough on every pair of maps, whether
or not they undo each other and whether or not a walk comes back: looking at more cards never changes
the answer.  It is also no more than enough, since on cards in a row the last one is found by the last
look only.
-/

namespace CardBattle.Chains

/-- On any links, one card reaches another exactly when some number of steps
along successors leads there, and a walk that looks at more cards than `reaches`
does gives the same answer. -/
theorem reaches_exact (chains : Chains) (start target : CardId) :
    (chains.reaches start target = true ↔ ∃ steps, chains.walk steps start = some target) ∧
      ∀ more, chains.reachesWithin target (chains.size + 1 + more) start =
        chains.reaches start target := by
  have exact : chains.reaches start target = true ↔
      ∃ steps, chains.walk steps start = some target := by
    rw [reaches_eq_true_iff, exists_walk_iff]
  refine ⟨exact, fun more => ?_⟩
  rw [Bool.eq_iff_iff, reachesWithin_iff, exact]
  constructor
  · rintro ⟨steps, -, arrives⟩
    exact ⟨steps, arrives⟩
  · intro reachable
    obtain ⟨steps, short, arrives⟩ := exists_walk_le_size reachable
    exact ⟨steps, by omega, arrives⟩

/-- Links that lead into a circle and round it: the first card reaches all, and
none reaches it. -/
example :
    let links := ((OrderedMap.empty.insert ⟨0⟩ ⟨1⟩).insert ⟨1⟩ ⟨2⟩).insert ⟨2⟩ ⟨1⟩
    let chains : Chains := ⟨links, .empty⟩
    chains.reaches ⟨0⟩ ⟨2⟩ = true ∧ chains.reaches ⟨2⟩ ⟨1⟩ = true ∧
      chains.reaches ⟨2⟩ ⟨0⟩ = false := by
  decide

/-! ### Cards in a row -/

/-- Cards in a row: each of them but the last is followed by the next. -/
def row (links : Nat) : Chains where
  next := ⟨(List.range links).map fun i => (⟨i⟩, ⟨i + 1⟩),
    List.pairwise_map.mpr List.pairwise_lt_range⟩
  prev := ⟨(List.range links).map fun i => (⟨i + 1⟩, ⟨i⟩),
    List.pairwise_map.mpr (List.pairwise_lt_range.imp Nat.succ_lt_succ)⟩

theorem size_row (links : Nat) : (row links).size = links := by
  simp [size, OrderedMap.size, row]

/-- Each card of a row but the last is followed by the card with the next
number. -/
theorem successor?_row {links i : Nat} (inside : i < links) :
    (row links).successor? ⟨i⟩ = some ⟨i + 1⟩ :=
  OrderedMap.mem_entries.mp (List.mem_map.mpr ⟨i, List.mem_range.mpr inside, rfl⟩)

theorem walk_row {links steps i : Nat} (inside : i + steps ≤ links) :
    (row links).walk steps ⟨i⟩ = some ⟨i + steps⟩ := by
  induction steps generalizing i with
  | zero => rfl
  | succ steps ih =>
      rw [walk, successor?_row (by omega), Option.bind_some, ih (by omega)]
      congr 2
      omega

/-- The bound is tight for every number of links: along a row the last card is
reached, and a walk with one look less does not find it. -/
theorem row_needs_every_check (links : Nat) :
    (row links).reaches ⟨0⟩ ⟨links⟩ = true ∧
      (row links).reachesWithin ⟨links⟩ (row links).size ⟨0⟩ = false := by
  constructor
  · rw [reaches_eq_true_iff, ← exists_walk_iff]
    exact ⟨links, (walk_row (by omega)).trans (by rw [Nat.zero_add])⟩
  · rw [Bool.eq_false_iff, ne_eq, reachesWithin_iff, size_row]
    rintro ⟨steps, short, arrives⟩
    rw [walk_row (by omega), Nat.zero_add] at arrives
    have same : steps = links := congrArg CardId.number (Option.some.inj arrives)
    omega

end CardBattle.Chains
