/-
Module: CardBattle.Proofs.Chains.Links
Purpose: What links between cards keep: both directions undo each other and no walk comes back.
Main exports:
  Chains.Follows, Chains.WellFormed, Chains.reaches_eq_true_iff, Chains.WellFormed.link,
  Chains.WellFormed.unlink
-/
import CardBattle.Card.Chains
import CardBattle.Proofs.OrderedMap
import Mathlib.Data.Nat.Find
import Mathlib.Logic.Relation

/-!
# Links

The links of well-formed chains are a set of paths: every card has one neighbour at most on each
side, and walking on never comes back.  A refusal of `link` rests on `reaches`, a walk with a
bounded number of cards.  The bound is enough on any two maps, also on maps with cycles: a shortest
walk meets no card twice, and each card it leaves is a key of its own.
-/

namespace CardBattle.Chains

open Relation (ReflTransGen TransGen)

/-- One card is to be played right after another. -/
def Follows (chains : Chains) (first second : CardId) : Prop :=
  chains.successor? first = some second

/-- Both directions hold the same links, and no walk along them comes back. -/
structure WellFormed (chains : Chains) : Prop where
  inverse : ∀ {first second},
    chains.successor? first = some second ↔ chains.predecessor? second = some first
  acyclic : ∀ card, ¬ TransGen chains.Follows card card

theorem wellFormed_empty : empty.WellFormed where
  inverse := by simp [successor?, predecessor?, empty]
  acyclic card loop := by
    obtain ⟨next, step, -⟩ := TransGen.head'_iff.mp loop
    cases step

theorem Follows.successor_unique {chains : Chains} {first second third : CardId}
    (one : chains.Follows first second) (two : chains.Follows first third) : second = third :=
  Option.some.inj (one.symm.trans two)

/-- A card follows one card at most.  This needs both directions to agree, as
the entry is stored for the other one. -/
theorem WellFormed.predecessor_unique {chains : Chains} (wf : chains.WellFormed)
    {first second third : CardId} (one : chains.Follows first third)
    (two : chains.Follows second third) : first = second :=
  Option.some.inj ((wf.inverse.mp one).symm.trans (wf.inverse.mp two))

/-- Chains with the links of well-formed chains, or fewer, have no cycle either:
a loop along the fewer links would be one along all of them. -/
theorem WellFormed.acyclic_of_follows {chains fewer : Chains} (wf : chains.WellFormed)
    (sub : ∀ first second, fewer.Follows first second → chains.Follows first second)
    (card : CardId) : ¬ TransGen fewer.Follows card card :=
  fun loop => wf.acyclic card (TransGen.mono sub _ _ loop)

/-! ### Walks -/

/-- The card met after a number of steps along successors. -/
def walk (chains : Chains) : (steps : Nat) → CardId → Option CardId
  | 0, card => some card
  | steps + 1, card => (chains.successor? card).bind (chains.walk steps)

/-- A walk can be cut at any step and taken up again from there. -/
theorem walk_add (chains : Chains) (before after : Nat) (card : CardId) :
    chains.walk (before + after) card = (chains.walk before card).bind (chains.walk after) := by
  induction before generalizing card with
  | zero => simp [walk]
  | succ before ih =>
      rw [Nat.succ_add]
      show (chains.successor? card).bind (chains.walk (before + after)) =
        ((chains.successor? card).bind (chains.walk before)).bind (chains.walk after)
      cases chains.successor? card with
      | none => rfl
      | some next => exact ih next

/-- Walks of any length reach what the links lead to.  This turns steps that are
counted into a closure that is not. -/
theorem exists_walk_iff (chains : Chains) (start target : CardId) :
    (∃ steps, chains.walk steps start = some target) ↔
      ReflTransGen chains.Follows start target := by
  constructor
  · rintro ⟨steps, arrives⟩
    induction steps generalizing start with
    | zero =>
        obtain rfl : start = target := Option.some.inj arrives
        exact .refl
    | succ steps ih =>
        obtain ⟨next, step, rest⟩ := Option.bind_eq_some_iff.mp arrives
        exact .head step (ih next rest)
  · intro path
    induction path using ReflTransGen.head_induction_on with
    | refl => exact ⟨0, rfl⟩
    | @head first next step _ ih =>
        obtain ⟨steps, arrives⟩ := ih
        refine ⟨steps + 1, ?_⟩
        rw [walk, step]
        exact arrives

/-- The bounded search looks at the cards met in fewer steps than the bound. -/
theorem reachesWithin_iff (chains : Chains) (target : CardId) (cards : Nat) (start : CardId) :
    chains.reachesWithin target cards start = true ↔
      ∃ steps < cards, chains.walk steps start = some target := by
  induction cards generalizing start with
  | zero => simp [reachesWithin]
  | succ cards ih =>
      rw [reachesWithin, Bool.or_eq_true, decide_eq_true_iff]
      constructor
      · rintro (rfl | later)
        · exact ⟨0, Nat.succ_pos _, rfl⟩
        · cases step : chains.successor? start with
          | none => simp [step] at later
          | some next =>
              rw [step] at later
              obtain ⟨steps, short, arrives⟩ := (ih next).mp later
              refine ⟨steps + 1, Nat.succ_lt_succ short, ?_⟩
              rw [walk, step]
              exact arrives
      · rintro ⟨_ | steps, short, arrives⟩
        · exact .inl (Option.some.inj arrives)
        · obtain ⟨next, step, rest⟩ := Option.bind_eq_some_iff.mp arrives
          rw [step]
          exact .inr ((ih next).mpr ⟨steps, Nat.lt_of_succ_lt_succ short, rest⟩)

/-- A walk that gets somewhere stands on a card after each of its steps, and
that card has a successor to go on to. -/
theorem exists_of_walk {chains : Chains} {steps : Nat} {start target : CardId}
    (arrives : chains.walk steps start = some target) {before : Nat} (early : before < steps) :
    ∃ card next, chains.walk before start = some card ∧ chains.successor? card = some next := by
  obtain ⟨rest, rfl⟩ := Nat.exists_eq_add_of_lt early
  rw [Nat.add_assoc, walk_add] at arrives
  obtain ⟨card, here, onward⟩ := Option.bind_eq_some_iff.mp arrives
  obtain ⟨next, step, -⟩ := Option.bind_eq_some_iff.mp onward
  exact ⟨card, next, here, step⟩

/-- Two times at which a shortest walk stands on one card are the same time:
what lies between them could be left out. -/
theorem walk_ne_of_shortest {chains : Chains} {steps : Nat} {start target : CardId}
    (arrives : chains.walk steps start = some target)
    (shortest : ∀ fewer < steps, chains.walk fewer start ≠ some target)
    {early late : Nat} (order : early < late) (inside : late < steps) :
    chains.walk early start ≠ chains.walk late start := by
  intro same
  have onward : chains.walk (early + (steps - late)) start = some target := by
    rw [walk_add, same, ← walk_add, Nat.add_sub_cancel' (Nat.le_of_lt inside)]
    exact arrives
  exact shortest _ (by omega) onward

/-- If a card is reached at all, there is a walk to it that does not reach it
any earlier. -/
theorem exists_shortest_walk {chains : Chains} {start target : CardId}
    (reachable : ∃ steps, chains.walk steps start = some target) :
    ∃ steps, chains.walk steps start = some target ∧
      ∀ fewer < steps, chains.walk fewer start ≠ some target := by
  classical
  exact ⟨Nat.find reachable, Nat.find_spec reachable, fun fewer => Nat.find_min reachable⟩

/-- What walks reach, they reach in no more steps than there are links.  A
shortest walk leaves each of its cards by another link. -/
theorem exists_walk_le_size {chains : Chains} {start target : CardId}
    (reachable : ∃ steps, chains.walk steps start = some target) :
    ∃ steps ≤ chains.size, chains.walk steps start = some target := by
  obtain ⟨steps, arrives, shortest⟩ := exists_shortest_walk reachable
  refine ⟨steps, ?_, arrives⟩
  -- The cards that the shortest walk leaves are keys of their own, so there are enough links.
  have stored : ∀ card ∈ (List.range steps).map fun time => (chains.walk time start).getD start,
      ∃ next, chains.next.find? card = some next := by
    intro card mem
    obtain ⟨time, inside, rfl⟩ := List.mem_map.mp mem
    obtain ⟨card, next, here, step⟩ := exists_of_walk arrives (List.mem_range.mp inside)
    rw [here]
    exact ⟨next, step⟩
  have distinct :
      ((List.range steps).map fun time => (chains.walk time start).getD start).Nodup := by
    refine List.pairwise_map.mpr (List.pairwise_lt_range.imp_of_mem ?_)
    intro early late _ inside order same
    have bound := List.mem_range.mp inside
    obtain ⟨card, _, here, -⟩ := exists_of_walk arrives (Nat.lt_trans order bound)
    obtain ⟨other, _, there, -⟩ := exists_of_walk arrives bound
    rw [here, there, Option.getD_some, Option.getD_some] at same
    exact walk_ne_of_shortest arrives shortest order bound (by rw [here, there, same])
  have bound := OrderedMap.length_le_size distinct stored
  rwa [List.length_map, List.length_range] at bound

/-- The bounded walk finds all that can be reached.  Nothing is asked of the
links here, so the answer is right on loops as well. -/
theorem reaches_eq_true_iff (chains : Chains) (start target : CardId) :
    chains.reaches start target = true ↔ ReflTransGen chains.Follows start target := by
  rw [reaches, reachesWithin_iff, ← exists_walk_iff]
  constructor
  · rintro ⟨steps, -, arrives⟩
    exact ⟨steps, arrives⟩
  · intro reachable
    obtain ⟨steps, short, arrives⟩ := exists_walk_le_size reachable
    exact ⟨steps, Nat.lt_succ_of_le short, arrives⟩

/-! ### A further link -/

/-- What has to hold for a link to be made, and what comes of it: one entry in
each direction. -/
theorem of_link_eq_ok {chains linked : Chains} {first second : CardId}
    (ok : chains.link first second = .ok linked) :
    first ≠ second ∧ chains.successor? first = none ∧ chains.predecessor? second = none ∧
      ¬ ReflTransGen chains.Follows second first ∧
      linked = ⟨chains.next.insert first second, chains.prev.insert second first⟩ := by
  unfold link at ok
  split at ok
  · cases ok
  · rename_i differs
    split at ok
    · cases ok
    · rename_i free
      split at ok
      · cases ok
      · rename_i unreached
        rw [Bool.or_eq_true, not_or, Bool.not_eq_true, Bool.not_eq_true,
          OrderedMap.contains_eq_false, OrderedMap.contains_eq_false] at free
        rw [reaches_eq_true_iff] at unreached
        exact ⟨differs, free.1, free.2, unreached, (Except.ok.inj ok).symm⟩

/-- A link that is made adds itself to the links and takes none away. -/
theorem follows_of_link {chains linked : Chains} {first second : CardId}
    (ok : chains.link first second = .ok linked) {a b : CardId} :
    linked.Follows a b ↔ chains.Follows a b ∨ a = first ∧ b = second := by
  obtain ⟨-, free, -, -, rfl⟩ := of_link_eq_ok ok
  have free : chains.next.find? first = none := free
  by_cases same : a = first
  · subst same
    simp [Follows, successor?, free, eq_comm]
  · simp [Follows, successor?, OrderedMap.find?_insert, same]

/-- A walk over the links and one more uses only the links, or comes to the
start of the new link and goes on from its end. -/
theorem transGen_or_through {chains linked : Chains} {first second : CardId}
    (steps : ∀ a b, linked.Follows a b → chains.Follows a b ∨ a = first ∧ b = second)
    {start target : CardId} (path : TransGen linked.Follows start target) :
    TransGen chains.Follows start target ∨
      ReflTransGen chains.Follows start first ∧ ReflTransGen chains.Follows second target := by
  induction path with
  | single step =>
      rcases steps _ _ step with old | ⟨rfl, rfl⟩
      · exact .inl (.single old)
      · exact .inr ⟨.refl, .refl⟩
  | tail _ step ih =>
      rcases steps _ _ step with old | ⟨rfl, rfl⟩
      · rcases ih with before | ⟨before, after⟩
        · exact .inl (before.tail old)
        · exact .inr ⟨before, after.tail old⟩
      · rcases ih with before | ⟨before, -⟩
        · exact .inr ⟨before.to_reflTransGen, .refl⟩
        · exact .inr ⟨before, .refl⟩

/-- A link that is not refused keeps chains well-formed.  A loop through it
would need a walk back, which was looked for. -/
theorem WellFormed.link {chains linked : Chains} (wf : chains.WellFormed) {first second : CardId}
    (ok : chains.link first second = .ok linked) : linked.WellFormed := by
  obtain ⟨-, noNext, noPrev, unreached, shape⟩ := of_link_eq_ok ok
  constructor
  · intro a b
    subst shape
    have old := @wf.inverse a b
    unfold successor? at noNext old ⊢
    unfold predecessor? at noPrev old ⊢
    rw [OrderedMap.find?_insert, OrderedMap.find?_insert]
    by_cases here : a = first <;> by_cases there : b = second
    · simp [here, there]
    · subst here
      rw [noNext] at old
      simp [there, ← old, Ne.symm there]
    · subst there
      rw [noPrev] at old
      simp [here, old, Ne.symm here]
    · simpa [here, there] using old
  · intro card loop
    rcases transGen_or_through (fun a b => (follows_of_link ok).mp) loop with old | ⟨there, back⟩
    · exact wf.acyclic card old
    · exact unreached (back.trans there)

/-! ### Links taken away -/

/-- Cutting the link behind a card takes away its successor and nobody else's. -/
theorem successor?_dropNext (chains : Chains) (card a : CardId) :
    (chains.dropNext card).successor? a = if a = card then none else chains.successor? a := by
  unfold dropNext successor?
  split
  · exact OrderedMap.find?_erase ..
  · rename_i missing
    by_cases same : a = card
    · rw [if_pos same, same, missing]
    · rw [if_neg same]

theorem predecessor?_dropNext (chains : Chains) (card b : CardId) :
    (chains.dropNext card).predecessor? b =
      if chains.successor? card = some b then none else chains.predecessor? b := by
  unfold dropNext predecessor? successor?
  split
  · rename_i next found
    rw [OrderedMap.find?_erase, found]
    by_cases same : b = next
    · simp [same]
    · simp [same, Ne.symm same]
  · rename_i missing
    simp [missing]

theorem successor?_dropPrev (chains : Chains) (card a : CardId) :
    (chains.dropPrev card).successor? a =
      if chains.predecessor? card = some a then none else chains.successor? a := by
  unfold dropPrev predecessor? successor?
  split
  · rename_i leading found
    rw [OrderedMap.find?_erase, found]
    by_cases same : a = leading
    · simp [same]
    · simp [same, Ne.symm same]
  · rename_i missing
    simp [missing]

theorem predecessor?_dropPrev (chains : Chains) (card b : CardId) :
    (chains.dropPrev card).predecessor? b = if b = card then none else chains.predecessor? b := by
  unfold dropPrev predecessor?
  split
  · exact OrderedMap.find?_erase ..
  · rename_i missing
    by_cases same : b = card
    · rw [if_pos same, same, missing]
    · rw [if_neg same]

/-- Both ends of a link forget it together, so the two directions go on
agreeing. -/
theorem WellFormed.dropNext {chains : Chains} (wf : chains.WellFormed) (card : CardId) :
    (chains.dropNext card).WellFormed := by
  constructor
  · intro a b
    rw [successor?_dropNext, predecessor?_dropNext]
    have old := @wf.inverse a b
    by_cases here : a = card
    · subst here
      by_cases there : chains.successor? a = some b
      · simp [there]
      · simp [there, ← old]
    · have apart : chains.successor? card = some b → chains.predecessor? b ≠ some a := by
        intro step back
        exact here (wf.predecessor_unique (wf.inverse.mpr back) step)
      by_cases there : chains.successor? card = some b
      · simp [here, there, old, apart there]
      · simp [here, there, old]
  · refine wf.acyclic_of_follows fun a b step => ?_
    unfold Follows at step
    rw [successor?_dropNext] at step
    split at step
    · cases step
    · exact step

theorem WellFormed.dropPrev {chains : Chains} (wf : chains.WellFormed) (card : CardId) :
    (chains.dropPrev card).WellFormed := by
  constructor
  · intro a b
    rw [successor?_dropPrev, predecessor?_dropPrev]
    have old := @wf.inverse a b
    by_cases there : b = card
    · subst there
      by_cases here : chains.predecessor? b = some a
      · simp [here]
      · simp [here, old]
    · have apart : chains.predecessor? card = some a → chains.successor? a ≠ some b := by
        intro back step
        exact there (Follows.successor_unique step (wf.inverse.mpr back))
      by_cases here : chains.predecessor? card = some a
      · simp [here, there, ← old, apart here]
      · simp [here, there, old]
  · refine wf.acyclic_of_follows fun a b step => ?_
    unfold Follows at step
    rw [successor?_dropPrev] at step
    split at step
    · cases step
    · exact step

/-- Taking a card's links away keeps chains well-formed, as it cuts one link
behind the card and one before it. -/
theorem WellFormed.unlink {chains : Chains} (wf : chains.WellFormed) (card : CardId) :
    (chains.unlink card).WellFormed :=
  (wf.dropNext card).dropPrev card

/-- Exactly the links that touch the card are gone.  The cards on either side of
it are not joined. -/
theorem WellFormed.follows_unlink {chains : Chains} (wf : chains.WellFormed) {card a b : CardId} :
    (chains.unlink card).Follows a b ↔ chains.Follows a b ∧ a ≠ card ∧ b ≠ card := by
  have old := @(wf.dropNext card).inverse a card
  unfold Follows Chains.unlink
  rw [successor?_dropPrev]
  simp only [← old, successor?_dropNext]
  by_cases here : a = card
  · simp [here]
  · by_cases there : chains.successor? a = some card
    · simp only [here, there, if_false, if_true, reduceCtorEq, false_iff, not_and, not_not,
        Option.some.injEq]
      exact fun same _ => same.symm
    · simp only [here, there, if_false, iff_self_and]
      exact fun step => ⟨here, fun same => there (same ▸ step)⟩

end CardBattle.Chains
