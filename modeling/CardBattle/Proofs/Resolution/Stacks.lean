/-
Module: CardBattle.Proofs.Resolution.Stacks
Purpose: Counters that hold whole stacks: when there is one, and what is left when one comes or goes.
Main exports:
  Combatant.status_setStatus_of_ne, Combatant.HoldsStacks, Combatant.HoldsStacks.take,
  Combatant.HoldsStacks.status_give, Combatant.LosesStack, Game.CountsStacks
-/
import CardBattle.Proofs.Binary64.Arithmetic
import CardBattle.Proofs.Game.Table
import CardBattle.Proofs.OrderedMap

/-!
# Stacks

Counters are 64-bit numbers, and one that counts stacks holds a whole number of them.  As long as
there are no more than `2 ^ 53`, a stack is there exactly where the number reaches one, and they can be
added and taken away one by one.
-/

namespace CardBattle

namespace Combatant

/-! ### Writing a counter -/

theorem status_setStatus_of_ne (c : Combatant) {s other : Status} (value : Binary64)
    (apart : other ≠ s) : (c.setStatus s value).status other = c.status other := by
  unfold setStatus status
  dsimp only
  split
  · rw [OrderedMap.find?_erase, if_neg apart]
  · rw [OrderedMap.find?_insert, if_neg apart]

/-- A counter that has been set reads as what could be stored of the value.
Nothing is stored for zero, which then reads as zero too. -/
theorem status_setStatus_self (c : Combatant) (s : Status) (value : Binary64) :
    (c.setStatus s value).status s =
      if (storable s value).equals 0 then 0 else storable s value := by
  unfold setStatus status
  dsimp only
  split
  · rw [OrderedMap.find?_erase, if_pos rfl]
    rfl
  · rw [OrderedMap.find?_insert, if_pos rfl]
    rfl

/-- A counter of stacks that is set to a small whole number holds it. -/
theorem status_setStatus_ofInt (c : Combatant) {s : Status} {n : Nat}
    (counted : s.isFractional = false) (small : n ≤ Binary64.digitsLimit) :
    (c.setStatus s (.ofInt n)).status s = .ofInt n := by
  have stored : storable s (.ofInt n) = .ofInt n := by
    rw [storable, counted, if_neg Bool.false_ne_true, Binary64.floor_ofInt small,
      Binary64.positivePart_ofInt small]
  rw [status_setStatus_self, stored]
  split
  · rename_i zero
    rw [(Binary64.equals_zero_ofInt small).mp zero]
    rfl
  · rfl

theorem wholeStacks_of_status_eq {c : Combatant} {s : Status} {n : Nat}
    (same : c.status s = .ofInt n) (small : n ≤ Binary64.digitsLimit) : c.wholeStacks s = n := by
  rw [wholeStacks, same, Binary64.floorWord_ofInt small]

/-- All stacks are taken away at once. -/
theorem status_takeAll {c : Combatant} {s : Status} {n : Nat} (same : c.status s = .ofInt n)
    (counted : s.isFractional = false) (some : 0 < n) (small : n ≤ Binary64.digitsLimit) :
    (c.addStatus s (-.ofInt n)).status s = .ofInt (0 : Nat) := by
  have full := Binary64.toInt?_ofInt small
  have none : Binary64.ofInt n + -Binary64.ofInt n = .ofInt (0 : Nat) :=
    Binary64.add_of_toInt? full (Binary64.toInt?_neg full) (.inl (Int.natCast_pos.mpr some))
      (Int.add_right_neg _) (Nat.zero_le _)
  rw [addStatus, same, none, status_setStatus_ofInt c counted (Nat.zero_le _)]

/-- Setting a counter writes nothing but the counters. -/
theorem setStatus_eq (c : Combatant) (s : Status) (value : Binary64) :
    c.setStatus s value = { c with statuses := (c.setStatus s value).statuses } := by
  unfold setStatus
  dsimp only
  split <;> rfl

theorem has_congr {c d : Combatant} {s : Status} (same : d.status s = c.status s) :
    d.has s = c.has s := by
  rw [has, has, same]

/-! ### Whole stacks -/

/-- A counter holds that many whole stacks. -/
def HoldsStacks (c : Combatant) (s : Status) (n : Nat) : Prop :=
  (c.status s).toInt? = some (n : Int)

/-- A counter holds whole stacks, and no more than there are exact numbers for. -/
def CountsStacks (c : Combatant) (s : Status) : Prop :=
  ∃ n, n ≤ Binary64.digitsLimit ∧ c.HoldsStacks s n

/-- One stack of a counter goes. -/
def LosesStack (c rest : Combatant) (s : Status) : Prop :=
  ∃ n : Nat, c.HoldsStacks s (n + 1) ∧ rest.HoldsStacks s n

namespace HoldsStacks

variable {c : Combatant} {s : Status} {n : Nat}

/-- There is any of a counter of whole stacks exactly where it holds at least
one. -/
theorem has_iff (holds : c.HoldsStacks s n) : c.has s = true ↔ 0 < n := by
  rw [has, decide_eq_true_iff, Binary64.pos_iff_of_toInt? holds, Int.natCast_pos]

/-- There is a stack to spend exactly where the counter holds at least one; for
whole stacks this is the same test as having any. -/
theorem one_le_iff (holds : c.HoldsStacks s n) : 1 ≤ c.status s ↔ 0 < n := by
  rw [Binary64.one_le_iff_of_toInt? holds, Int.natCast_pos]

theorem of_status (holds : c.HoldsStacks s n) {d : Combatant} (same : d.status s = c.status s) :
    d.HoldsStacks s n := by
  rw [HoldsStacks, same]
  exact holds

/-- A counter cannot hold two different numbers of stacks, as small whole
numbers are stored exactly. -/
theorem unique {m : Nat} (one : c.HoldsStacks s n) (two : c.HoldsStacks s m) : n = m :=
  Int.ofNat.inj (Option.some.inj (one.symm.trans two))

theorem of_status_eq (same : c.status s = .ofInt n) (small : n ≤ Binary64.digitsLimit) :
    c.HoldsStacks s n := by
  rw [HoldsStacks, same, Binary64.toInt?_ofInt small]

/-- One stack is taken away. -/
theorem take (holds : c.HoldsStacks s (n + 1)) (counted : s.isFractional = false)
    (short : n < Binary64.digitsLimit) : (c.addStatus s (-1)).HoldsStacks s n := by
  refine of_status_eq ?_ (Nat.le_of_lt short)
  rw [addStatus, Binary64.add_neg_one short holds,
    status_setStatus_ofInt c counted (Nat.le_of_lt short)]

/-- One stack is added. -/
theorem status_give (holds : c.HoldsStacks s n) (counted : s.isFractional = false)
    (short : n < Binary64.digitsLimit) : (c.addStatus s 1).status s = .ofInt (n + 1 : Nat) := by
  rw [addStatus, Binary64.add_one short holds, status_setStatus_ofInt c counted short]

end HoldsStacks

theorem CountsStacks.of_status {c d : Combatant} {s : Status} (counts : c.CountsStacks s)
    (same : d.status s = c.status s) : d.CountsStacks s := by
  obtain ⟨n, few, here⟩ := counts
  exact ⟨n, few, here.of_status same⟩

/-- If one stack goes from a counter, it also goes from any combatant on which
the counter stood the same before. -/
theorem LosesStack.of_status {c d rest : Combatant} {s : Status} (loses : d.LosesStack rest s)
    (same : d.status s = c.status s) : c.LosesStack rest s := by
  obtain ⟨n, before, after⟩ := loses
  exact ⟨n, before.of_status same.symm, after⟩

theorem spend?_eq_some {c : Combatant} {s : Status} (enough : 1 ≤ c.status s) :
    c.spend? s = some (c.addStatus s (-1)) := if_pos enough

theorem spend?_eq_none {c : Combatant} {s : Status} (short : ¬ 1 ≤ c.status s) :
    c.spend? s = none := if_neg short

end Combatant

/-- Each counter of stacks of both sides holds whole ones. -/
def Game.CountsStacks (g : Game) : Prop :=
  ∀ side s, s.isFractional = false → (g.combatant side).CountsStacks s

/-- A counter that is not stored holds no stack, so the stored ones decide. -/
theorem Game.countsStacks_of_stored {g : Game}
    (stored : ∀ side, ∀ entry ∈ (g.combatant side).statuses.entries,
      entry.1.isFractional = false →
        ∃ n : Nat, n ≤ Binary64.digitsLimit ∧ entry.2.toInt? = some (n : Int)) :
    g.CountsStacks := by
  intro side s counted
  unfold Combatant.CountsStacks Combatant.HoldsStacks Combatant.status
  cases found : (g.combatant side).statuses.find? s with
  | none => exact ⟨0, Nat.zero_le _, Binary64.toInt?_ofInt (n := 0) (by decide)⟩
  | some value => exact stored side (s, value) (OrderedMap.mem_entries.mpr found) counted

namespace Combatant

/-- A counter that holds whole stacks loses one when one is taken away, whatever
else has changed. -/
theorem losesStack_addStatus {c d : Combatant} {s : Status} (counted : s.isFractional = false)
    (counts : c.CountsStacks s) (enough : 1 ≤ c.status s) (same : d.status s = c.status s) :
    c.LosesStack (d.addStatus s (-1)) s := by
  obtain ⟨n, few, here⟩ := counts
  obtain ⟨k, rfl⟩ := Nat.exists_eq_succ_of_ne_zero (Nat.ne_of_gt (here.one_le_iff.mp enough))
  exact ⟨k, here, (here.of_status same).take counted few⟩

end Combatant

end CardBattle
