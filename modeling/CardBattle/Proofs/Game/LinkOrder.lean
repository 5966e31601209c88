/-
Module: CardBattle.Proofs.Game.LinkOrder
Purpose: In every run the order in which cards are chained does not matter.
Main exports:
  Game.relink, Game.chainAll, Game.Reachable.chainCards_eq_ok_iff, Game.Reachable.chainCards_swap,
  Game.Reachable.order_of_links_does_not_matter
-/
import CardBattle.Proofs.Game.Linking

/-!
# The order of chaining

A deck is put in a new order by each link, so two orders of the same links lead through different
decks.  They meet again because nothing of this is remembered: in a run both decks are settled along
the links that there are, and settling a deck along some of the links and then along more of them is
settling it along the latter.  What is left to see is that links are accepted in one order if they
are accepted in another, and this is so for two of them, hence for any number.
-/

namespace CardBattle.Game

/-- The record with other links and with both decks settled along them. -/
def relink (g : Game) (chains : Chains) : Game :=
  { g with
    pool := { g.pool with chains := chains }
    combatants := g.combatants.map (·.settle chains) }

/-- Chain pairs of cards one after the other, up to the first that is refused. -/
def chainAll (g : Game) : List (CardId × CardId) → Except Fault Game
  | [] => .ok g
  | (first, second) :: rest =>
      match g.chainCards first second with
      | .error fault => .error fault
      | .ok next => next.chainAll rest

theorem chainAll_cons_eq_ok_iff {g last : Game} {first second : CardId}
    {rest : List (CardId × CardId)} :
    g.chainAll ((first, second) :: rest) = .ok last ↔
      ∃ next, g.chainCards first second = .ok next ∧ next.chainAll rest = .ok last := by
  rw [chainAll]
  cases g.chainCards first second with
  | error fault => simp
  | ok next => simp

@[simp] theorem combatant_relink (g : Game) (chains : Chains) (side : Side) :
    (g.relink chains).combatant side = (g.combatant side).settle chains :=
  Sides.get_map ..

namespace Reachable

variable {g : Game} (reached : g.Reachable)
include reached

/-- Both decks of a run are settled along the links that there are, so putting
these in place again changes nothing. -/
theorem relink_self : g.relink g.pool.chains = g := by
  have tidy := reached.tidy
  have sides : g.combatants.map (·.settle g.pool.chains) = g.combatants := by
    apply Sides.ext_get
    intro side
    have held := tidy.held side
    rw [Sides.get_map]
    exact Combatant.settle_eq_self tidy.sound.links (reached.cursorsFit side) held.deck_nodup
      held.contiguous
  rw [relink, sides]

/-- Decks settled along some links are settled along more as if it were for the
first time. -/
theorem relink_relink {chains more : Chains} (wf : chains.WellFormed) (wfMore : more.WellFormed)
    (sub : ∀ a b, chains.Follows a b → more.Follows a b) :
    (g.relink chains).relink more = g.relink more := by
  have sides : (g.combatants.map (·.settle chains)).map (·.settle more) =
      g.combatants.map (·.settle more) := by
    apply Sides.ext_get
    intro side
    rw [Sides.get_map, Sides.get_map, Sides.get_map]
    exact Combatant.settle_settle wf (reached.cursorsFit side) (reached.tidy.held side).deck_nodup
      wfMore sub
  simp only [relink, sides]

/-- Chaining two cards settles both decks, since the deck of the other side
respects the new links as it is. -/
theorem rearrange_eq_relink {chains : Chains} {first second : CardId} {owner : Side}
    (stored : g.pool.owner? first = some owner)
    (fits : g.pool.chains.link first second = .ok chains) :
    ({ g with pool := { g.pool with chains := chains } } : Game).rearrange owner =
      g.relink chains := by
  have tidy := reached.tidy
  have other : g.pool.owner? first ≠ some owner.other := by
    simp [stored]
  have held := (tidy.held owner.other).look_on_link fits other
  have still : (g.combatant owner.other).settle chains = g.combatant owner.other :=
    Combatant.settle_eq_self (tidy.sound.links.link fits) (reached.cursorsFit owner.other)
      held.deck_nodup held.contiguous
  have sides : g.combatants.update owner (·.settle chains) =
      g.combatants.map (·.settle chains) := by
    apply Sides.ext_get
    intro party
    rw [Sides.get_map]
    rcases Side.eq_or_eq_other party owner with rfl | rfl
    · exact Sides.get_update_self ..
    · exact (Sides.get_update_other ..).trans still.symm
  rw [relink, ← sides]
  rfl

/-- Two cards are chained when they have one owner and the links take one more.
Both decks are then settled along all of them. -/
theorem chainCards_eq_ok_iff {next : Game} {first second : CardId} :
    g.chainCards first second = .ok next ↔
      ∃ owner chains, g.pool.owner? first = some owner ∧ g.pool.owner? second = some owner ∧
        g.pool.chains.link first second = .ok chains ∧ next = g.relink chains := by
  rw [Game.chainCards_eq_ok_iff]
  constructor
  · rintro ⟨owner, chains, one, two, fits, same⟩
    exact ⟨owner, chains, one, two, fits, same.trans (reached.rearrange_eq_relink one fits)⟩
  · rintro ⟨owner, chains, one, two, fits, same⟩
    exact ⟨owner, chains, one, two, fits, same.trans (reached.rearrange_eq_relink one fits).symm⟩

/-- Two links that are made one after the other can also be made the other way
around. -/
theorem chainCards_swap {one both : Game} {first second third fourth : CardId}
    (made : g.chainCards first second = .ok one) (more : one.chainCards third fourth = .ok both) :
    ∃ other, g.chainCards third fourth = .ok other ∧
      other.chainCards first second = .ok both := by
  have wf := reached.tidy.sound.links
  have reachedOne := reached.chainCards made
  obtain ⟨owner, oneChains, ownFirst, ownSecond, fits, rfl⟩ :=
    reached.chainCards_eq_ok_iff.mp made
  obtain ⟨party, bothChains, ownThird, ownFourth, fitsMore, rfl⟩ :=
    reachedOne.chainCards_eq_ok_iff.mp more
  obtain ⟨otherChains, fitsOther, fitsLast⟩ := wf.link_comm fits fitsMore
  have otherMade : g.chainCards third fourth = .ok (g.relink otherChains) :=
    reached.chainCards_eq_ok_iff.mpr ⟨party, otherChains, ownThird, ownFourth, fitsOther, rfl⟩
  have wfBoth : bothChains.WellFormed := (wf.link fits).link fitsMore
  -- Both ways the decks come to be settled along all links.
  have same : (g.relink oneChains).relink bothChains = (g.relink otherChains).relink bothChains :=
    calc (g.relink oneChains).relink bothChains
        = g.relink bothChains := reached.relink_relink (wf.link fits) wfBoth fun _ _ step =>
          (Chains.follows_of_link fitsMore).mpr (.inl step)
      _ = (g.relink otherChains).relink bothChains :=
          (reached.relink_relink (wf.link fitsOther) wfBoth fun _ _ step =>
            (Chains.follows_of_link fitsLast).mpr (.inl step)).symm
  have lastMade := (reached.chainCards otherMade).chainCards_eq_ok_iff.mpr
    ⟨owner, bothChains, ownFirst, ownSecond, fitsLast, same⟩
  exact ⟨g.relink otherChains, otherMade, lastMade⟩

/-- After links have been made the decks are settled along the old and the new
ones. -/
theorem of_chainAll_eq_ok {last : Game} {links : List (CardId × CardId)}
    (ok : g.chainAll links = .ok last) :
    last = g.relink last.pool.chains ∧ last.pool.chains.WellFormed ∧
      ∀ a b, last.pool.chains.Follows a b ↔ g.pool.chains.Follows a b ∨ (a, b) ∈ links := by
  induction links generalizing g with
  | nil =>
      obtain rfl : g = last := Except.ok.inj ok
      exact ⟨reached.relink_self.symm, reached.tidy.sound.links, fun a b => by simp⟩
  | cons link rest ih =>
      obtain ⟨first, second⟩ := link
      obtain ⟨next, made, others⟩ := chainAll_cons_eq_ok_iff.mp ok
      obtain ⟨settled, wfLast, follows⟩ := ih (reached.chainCards made) others
      obtain ⟨owner, chains, -, -, fits, rfl⟩ := reached.chainCards_eq_ok_iff.mp made
      have step : ∀ a b, (g.relink chains).pool.chains.Follows a b ↔
          g.pool.chains.Follows a b ∨ a = first ∧ b = second :=
        fun a b => Chains.follows_of_link fits
      refine ⟨?_, wfLast, fun a b => ?_⟩
      · have once := reached.relink_relink (reached.tidy.sound.links.link fits) wfLast
          fun a b old => (follows a b).mpr (.inl old)
        exact settled.trans once
      · rw [follows, step, List.mem_cons, Prod.mk.injEq, or_assoc]

/-- Links that can be made in one order can be made in any other, with the same
outcome. -/
theorem chainAll_perm {last : Game} {links shuffled : List (CardId × CardId)}
    (perm : links.Perm shuffled) (ok : g.chainAll links = .ok last) :
    g.chainAll shuffled = .ok last := by
  induction perm generalizing g with
  | nil => exact ok
  | cons link _ ih =>
      obtain ⟨next, made, others⟩ := chainAll_cons_eq_ok_iff.mp ok
      exact chainAll_cons_eq_ok_iff.mpr ⟨next, made, ih (reached.chainCards made) others⟩
  | swap link other rest =>
      obtain ⟨one, made, later⟩ := chainAll_cons_eq_ok_iff.mp ok
      obtain ⟨both, more, others⟩ := chainAll_cons_eq_ok_iff.mp later
      obtain ⟨first, firstMade, secondMade⟩ := reached.chainCards_swap made more
      have later := chainAll_cons_eq_ok_iff.mpr ⟨both, secondMade, others⟩
      exact chainAll_cons_eq_ok_iff.mpr ⟨first, firstMade, later⟩
  | trans _ _ first second => exact second reached (first reached ok)

/-- In every record of a run, links that can be made in one order can be made in
any other, and lead to the same record.  It has the old links and the new ones,
both decks are as if they had been arranged once along all of them, and the
cursors are on the same cards. -/
theorem order_of_links_does_not_matter {last : Game} {links shuffled : List (CardId × CardId)}
    (perm : links.Perm shuffled) (ok : g.chainAll links = .ok last) :
    g.chainAll shuffled = .ok last ∧ last = g.relink last.pool.chains ∧
      (∀ a b, last.pool.chains.Follows a b ↔ g.pool.chains.Follows a b ∨ (a, b) ∈ links) ∧
      ∀ side,
        (last.combatant side).deck = last.pool.chains.arrange (g.combatant side).deck ∧
          (last.combatant side).currentCard? = (g.combatant side).currentCard? := by
  obtain ⟨settled, wfLast, follows⟩ := reached.of_chainAll_eq_ok ok
  have sides : ∀ side, last.combatant side = (g.combatant side).settle last.pool.chains :=
    fun side => (congrArg (combatant · side) settled).trans (combatant_relink ..)
  refine ⟨reached.chainAll_perm perm ok, settled, follows, fun side => ⟨?_, ?_⟩⟩
  · exact congrArg Combatant.deck (sides side)
  · have kept := Combatant.currentCard?_settle wfLast (reached.cursorsFit side)
      (reached.tidy.held side).deck_nodup
    rwa [← sides side] at kept

end Reachable

/-- Five cards of the user in the order of their numbers, with the cursor on the
fourth. -/
def fiveCards : Game :=
  [.addCard .user (.plain "Spark"), .addCard .user (.plain "Block"),
    .addCard .user (.plain "Flame"), .addCard .user (.plain "Guard"),
    .addCard .user (.plain "Strike"), .discardCurrent .user, .discardCurrent .user,
    .discardCurrent .user].foldl after (.fresh .standard 7)

theorem fiveCards_reachable : fiveCards.Reachable :=
  (Reachable.fresh .standard 7).foldl (by simp)

/-- A chain that is put together from its ends and one that is put together from
its start are the same. -/
theorem fiveCards_linked :
    ∃ last, fiveCards.chainAll [(⟨4⟩, ⟨0⟩), (⟨3⟩, ⟨1⟩), (⟨0⟩, ⟨3⟩)] = .ok last ∧
      fiveCards.chainAll [(⟨0⟩, ⟨3⟩), (⟨4⟩, ⟨0⟩), (⟨3⟩, ⟨1⟩)] = .ok last ∧
      (last.combatant .user).deck = [⟨2⟩, ⟨4⟩, ⟨0⟩, ⟨3⟩, ⟨1⟩] ∧
      (last.combatant .user).currentCard? = some ⟨3⟩ := by
  have made : (fiveCards.chainAll [(⟨4⟩, ⟨0⟩), (⟨3⟩, ⟨1⟩), (⟨0⟩, ⟨3⟩)]).map
      (fun last => (last.combatant .user).deck) = .ok [⟨2⟩, ⟨4⟩, ⟨0⟩, ⟨3⟩, ⟨1⟩] := by
    decide +kernel
  obtain ⟨last, ok, deck⟩ := of_map_eq_ok made
  have perm : [(⟨4⟩, ⟨0⟩), (⟨3⟩, ⟨1⟩), (⟨0⟩, ⟨3⟩)].Perm
      [((⟨0⟩ : CardId), (⟨3⟩ : CardId)), (⟨4⟩, ⟨0⟩), (⟨3⟩, ⟨1⟩)] := by
    decide
  have current : (fiveCards.combatant .user).currentCard? = some ⟨3⟩ := by decide +kernel
  obtain ⟨other, -, -, sides⟩ := fiveCards_reachable.order_of_links_does_not_matter perm ok
  exact ⟨last, ok, other, deck, (sides .user).2.trans current⟩

end CardBattle.Game
