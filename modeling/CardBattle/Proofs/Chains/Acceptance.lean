/-
Module: CardBattle.Proofs.Chains.Acceptance
Purpose: Which links are made: those with which the links are still separate paths.
Main exports:
  SeparatePaths, Chains.FollowsWith, Chains.WellFormed.eq_of_follows,
  Chains.WellFormed.link_isOk_iff, Chains.WellFormed.link_comm
-/
import CardBattle.Proofs.Chains.Links

/-!
# Links that are accepted

Links are separate paths when no card has two neighbours on one side and no walk comes back.
Well-formed chains are such paths, and a further link is made exactly when it leaves them so.  This
says nothing about the order in which links are made, and well-formed chains with the same links are
the same chains; so two links that can be made one after the other can also be made the other way
around, with the same outcome.
-/

namespace CardBattle

open Relation (ReflTransGen TransGen)

/-- Each card follows one card at most, one card at most follows it, and no walk
comes back. -/
structure SeparatePaths (follows : CardId → CardId → Prop) : Prop where
  oneNext : ∀ {first second third}, follows first second → follows first third → second = third
  onePrev : ∀ {first second third}, follows first third → follows second third → first = second
  acyclic : ∀ card, ¬ TransGen follows card card

/-- Paths stay separate when links go away: no card gains a neighbour, and no
loop can come about. -/
theorem SeparatePaths.mono {follows fewer : CardId → CardId → Prop} (paths : SeparatePaths follows)
    (sub : ∀ a b, fewer a b → follows a b) : SeparatePaths fewer where
  oneNext one two := paths.oneNext (sub _ _ one) (sub _ _ two)
  onePrev one two := paths.onePrev (sub _ _ one) (sub _ _ two)
  acyclic card loop := paths.acyclic card (TransGen.mono sub _ _ loop)

namespace Chains

/-- The links and one more. -/
def FollowsWith (chains : Chains) (first second a b : CardId) : Prop :=
  chains.Follows a b ∨ a = first ∧ b = second

/-- Where a card has neither neighbour yet, and the second does not lead to the
first, the link is made. -/
theorem link_of_free {chains : Chains} {first second : CardId} (differs : first ≠ second)
    (noNext : chains.successor? first = none) (noPrev : chains.predecessor? second = none)
    (unreached : ¬ ReflTransGen chains.Follows second first) :
    chains.link first second =
      .ok ⟨chains.next.insert first second, chains.prev.insert second first⟩ := by
  have free : ¬ (chains.next.contains first || chains.prev.contains second) = true := by
    rw [Bool.or_eq_true, not_or, Bool.not_eq_true, Bool.not_eq_true,
      OrderedMap.contains_eq_false, OrderedMap.contains_eq_false]
    exact ⟨noNext, noPrev⟩
  rw [← reaches_eq_true_iff] at unreached
  rw [link, if_neg differs, if_neg free, if_neg unreached]

namespace WellFormed

variable {chains : Chains} {first second : CardId}

/-- The links of well-formed chains are separate paths.  This is what a new link
has to keep true. -/
theorem separatePaths (wf : chains.WellFormed) : SeparatePaths chains.Follows where
  oneNext := Follows.successor_unique
  onePrev := wf.predecessor_unique
  acyclic := wf.acyclic

/-- Well-formed chains are given by their links.  The stored directions and the
order of the entries carry nothing beyond these. -/
theorem eq_of_follows {other : Chains} (wf : chains.WellFormed) (wfOther : other.WellFormed)
    (same : ∀ a b, chains.Follows a b ↔ other.Follows a b) : chains = other := by
  have next : chains.next = other.next :=
    OrderedMap.ext_find? fun a => Option.ext fun b => same a b
  have prev : chains.prev = other.prev := by
    apply OrderedMap.ext_find?
    intro b
    apply Option.ext
    intro a
    exact wf.inverse.symm.trans ((same a b).trans wfOther.inverse)
  cases chains
  cases other
  exact congrArg₂ Chains.mk next prev

/-- A link is made exactly when it is new and leaves the links separate paths.
The three checks of the code do not appear, so the order in which they are made
cannot matter. -/
theorem link_isOk_iff (wf : chains.WellFormed) :
    (∃ linked, chains.link first second = .ok linked) ↔
      ¬ chains.Follows first second ∧ SeparatePaths (chains.FollowsWith first second) := by
  constructor
  · rintro ⟨linked, ok⟩
    obtain ⟨-, noNext, -, -, -⟩ := of_link_eq_ok ok
    refine ⟨fun old => ?_, (wf.link ok).separatePaths.mono fun a b => (follows_of_link ok).mpr⟩
    rw [Follows, noNext] at old
    cases old
  · rintro ⟨new, paths⟩
    have added : chains.FollowsWith first second first second := .inr ⟨rfl, rfl⟩
    have differs : first ≠ second := by
      rintro rfl
      exact paths.acyclic first (.single added)
    have noNext : chains.successor? first = none := by
      apply Option.eq_none_iff_forall_ne_some.mpr
      intro next old
      obtain rfl := paths.oneNext (.inl old) added
      exact new old
    have noPrev : chains.predecessor? second = none := by
      apply Option.eq_none_iff_forall_ne_some.mpr
      intro leading old
      have step : chains.Follows leading second := wf.inverse.mpr old
      obtain rfl := paths.onePrev (.inl step) added
      exact new step
    have unreached : ¬ ReflTransGen chains.Follows second first := by
      intro path
      have back : ReflTransGen (chains.FollowsWith first second) second first :=
        ReflTransGen.mono (fun _ _ => Or.inl) _ _ path
      exact paths.acyclic first (.head' added back)
    exact ⟨_, link_of_free differs noNext noPrev unreached⟩

/-- Two links that can be made one after the other can be made the other way
around. -/
theorem link_comm (wf : chains.WellFormed) {third fourth : CardId} {one both : Chains}
    (made : chains.link first second = .ok one) (more : one.link third fourth = .ok both) :
    ∃ other, chains.link third fourth = .ok other ∧ other.link first second = .ok both := by
  have wfOne := wf.link made
  have paths := (wfOne.link more).separatePaths
  have new := (wf.link_isOk_iff.mp ⟨one, made⟩).1
  have newMore := (wfOne.link_isOk_iff.mp ⟨both, more⟩).1
  have follows : ∀ a b, both.Follows a b ↔
      (chains.Follows a b ∨ a = first ∧ b = second) ∨ a = third ∧ b = fourth := by
    intro a b
    rw [follows_of_link more, follows_of_link made]
  have early : ¬ chains.Follows third fourth :=
    fun old => newMore ((follows_of_link made).mpr (.inl old))
  obtain ⟨other, otherMade⟩ := wf.link_isOk_iff.mpr ⟨early, paths.mono fun a b step =>
    (follows a b).mpr (step.imp_left .inl)⟩
  have late : ¬ other.Follows first second := by
    intro old
    rcases (follows_of_link otherMade).mp old with old | ⟨rfl, rfl⟩
    · exact new old
    · exact newMore ((follows_of_link made).mpr (.inr ⟨rfl, rfl⟩))
  have wfOther := wf.link otherMade
  have same : ∀ a b, other.FollowsWith first second a b ↔ both.Follows a b := by
    intro a b
    rw [FollowsWith, follows_of_link otherMade, follows, or_right_comm]
  obtain ⟨last, lastMade⟩ := wfOther.link_isOk_iff.mpr ⟨late, paths.mono fun a b =>
    (same a b).mp⟩
  have equal : last = both := (wfOther.link lastMade).eq_of_follows (wfOne.link more)
    fun a b => (follows_of_link lastMade).trans (same a b)
  exact ⟨other, otherMade, equal ▸ lastMade⟩

end WellFormed

end Chains

end CardBattle
