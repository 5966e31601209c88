/-
Module: CardBattle.Proofs.Chains.Uniqueness
Purpose: Arranging a deck is the one way to put its chains together without moving the cards that
  lead them past each other.
Main exports:
  Chains.Arranges, Chains.WellFormed.arranges_iff, Chains.WellFormed.arrange_arrange,
  Chains.placeAll, Chains.WellFormed.placeAll_eq_arrange,
  Chains.WellFormed.arrange_is_only_arrangement
-/
import CardBattle.Proofs.Chains.Arrangement

/-!
# The one arrangement of a deck

What an arranged deck has to be can be said without a word about how it is made: it has the cards of
the deck, the two cards of each link stand side by side, and the cards that lead keep their order.
Along well-formed links there is one such order.  A contiguous deck can be read off its leaders,
since each of them is followed by its path, and two orders with the same cards have the same paths.

An arrangement can also be made card by card, each chain behind what has been placed before it.  No
chain then comes to a card that has been placed, because two paths that meet are parts of one path.
-/

namespace CardBattle.Chains

open Relation (ReflTransGen)

/-- What an arranged deck has to be. -/
structure Arranges (chains : Chains) (deck arranged : List CardId) : Prop where
  /-- The cards are those of the deck. -/
  perm : arranged.Perm deck
  /-- A card stands right behind the one that it follows, if both are in the deck. -/
  contiguous : chains.Contiguous arranged
  /-- The cards without a predecessor in the deck are in the order of the deck. -/
  leaders : arranged.filter (chains.leads deck) = deck.filter (chains.leads deck)

/-! ### Decks with the same cards -/

/-- Which cards lead depends on the cards of the deck only, not on the order in
which they lie. -/
theorem leads_of_perm (chains : Chains) {deck other : List CardId} (same : deck.Perm other) :
    chains.leads deck = chains.leads other := by
  funext card
  unfold leads
  cases chains.predecessor? card with
  | none => rfl
  | some leading => simp [same.mem_iff]

/-- What is followed from a card depends on which cards are in the deck, and
they are looked up by the links. -/
theorem followWithin_of_perm (chains : Chains) {deck other : List CardId} (same : deck.Perm other)
    (cards : Nat) (start : CardId) :
    chains.followWithin deck cards start = chains.followWithin other cards start := by
  induction cards generalizing start with
  | zero => rfl
  | succ cards ih =>
      unfold followWithin
      simp only [same.mem_iff, ih]

/-- What follows a card depends on the cards of the deck only. -/
theorem follow_of_perm (chains : Chains) {deck other : List CardId} (same : deck.Perm other) :
    chains.follow deck = chains.follow other := by
  funext start
  unfold follow
  rw [same.length_eq]
  exact followWithin_of_perm chains same _ start

/-! ### The leaders of an arranged deck -/

/-- On the path of a card that leads no other card leads, as each has its
predecessor right before it. -/
theorem WellFormed.filter_leads_follow {chains : Chains} (wf : chains.WellFormed)
    {deck : List CardId} {leader : CardId} (inside : leader ∈ deck)
    (leads : chains.leads deck leader = true) :
    (chains.follow deck leader).filter (chains.leads deck) = [leader] := by
  obtain ⟨rest, path⟩ : ∃ rest, chains.follow deck leader = leader :: rest :=
    ⟨_, wf.follow_eq inside⟩
  have distinct : (leader :: rest).Nodup := path ▸ wf.nodup_followWithin deck _ leader
  have trails : ∀ card ∈ rest, ¬ chains.leads deck card = true := by
    intro card mem first
    have reached : ReflTransGen (chains.FollowsIn deck) leader card := by
      apply (wf.mem_follow inside).mp
      rw [path]
      exact List.mem_cons_of_mem _ mem
    obtain rfl := wf.eq_of_leads first reached
    exact (List.nodup_cons.mp distinct).1 mem
  rw [path, List.filter_cons_of_pos leads, List.filter_eq_nil_iff.mpr trails]

/-- Gathering keeps the leaders in the order of the deck.  It is what makes the
arrangement the only one. -/
theorem WellFormed.filter_leads_gather {chains : Chains} (wf : chains.WellFormed)
    {deck : List CardId} (distinct : deck.Nodup) :
    (chains.gather deck).filter (chains.leads deck) = deck.filter (chains.leads deck) := by
  have alone : ∀ leader ∈ deck.filter (chains.leads deck),
      (chains.follow deck leader).filter (chains.leads deck) = [leader] := by
    intro leader mem
    obtain ⟨inside, leads⟩ := List.mem_filter.mp mem
    exact wf.filter_leads_follow inside leads
  rw [gather_eq_flatMap chains distinct, List.filter_flatMap, List.flatMap_congr alone,
    List.flatMap_singleton']

/-! ### One arrangement -/

/-- An arranged deck is read off its leaders: between two of them there is only
the path of the first. -/
theorem Arranges.eq_gather {chains : Chains} {deck arranged : List CardId}
    (arranges : chains.Arranges deck arranged) (wf : chains.WellFormed) (distinct : deck.Nodup) :
    arranged = chains.gather deck := by
  have once : arranged.Nodup := arranges.perm.nodup_iff.mpr distinct
  calc arranged
      = chains.gather arranged := (arranges.contiguous.gather_eq_self wf once).symm
    _ = (arranged.filter (chains.leads arranged)).flatMap (chains.follow arranged) :=
        gather_eq_flatMap chains once
    _ = (arranged.filter (chains.leads deck)).flatMap (chains.follow deck) := by
        rw [leads_of_perm chains arranges.perm, follow_of_perm chains arranges.perm]
    _ = (deck.filter (chains.leads deck)).flatMap (chains.follow deck) := by
        rw [arranges.leaders]
    _ = chains.gather deck := (gather_eq_flatMap chains distinct).symm

/-- The gathered deck is arranged, so that there is an arrangement at all. -/
theorem WellFormed.arranges_gather {chains : Chains} (wf : chains.WellFormed)
    {deck : List CardId} (distinct : deck.Nodup) : chains.Arranges deck (chains.gather deck) where
  perm := wf.gather_perm distinct
  contiguous := wf.contiguous_gather distinct
  leaders := wf.filter_leads_gather distinct

/-- The shortcut for no links at all does what the general way would do. -/
theorem WellFormed.gather_eq_arrange {chains : Chains} (wf : chains.WellFormed)
    {deck : List CardId} (distinct : deck.Nodup) : chains.gather deck = chains.arrange deck := by
  unfold arrange
  split
  · rename_i none
    have contiguous := Contiguous.of_no_links (not_follows_of_isEmpty none) deck
    exact contiguous.gather_eq_self wf distinct
  · rfl

/-- What the code makes of a deck is an arrangement of it. -/
theorem WellFormed.arranges_arrange {chains : Chains} (wf : chains.WellFormed)
    {deck : List CardId} (distinct : deck.Nodup) :
    chains.Arranges deck (chains.arrange deck) :=
  wf.gather_eq_arrange distinct ▸ wf.arranges_gather distinct

/-- There is one arrangement of a deck and no other.  Any other way of arranging
decks that meets the three rules comes to the same order. -/
theorem WellFormed.arranges_iff {chains : Chains} (wf : chains.WellFormed)
    {deck arranged : List CardId} (distinct : deck.Nodup) :
    chains.Arranges deck arranged ↔ arranged = chains.arrange deck := by
  constructor
  · intro arranges
    rw [arranges.eq_gather wf distinct, wf.gather_eq_arrange distinct]
  · rintro rfl
    exact wf.arranges_arrange distinct

/-! ### Further links -/

/-- A card that leads along more links leads along fewer, since taking links
away gives it no predecessor. -/
theorem WellFormed.leads_of_more {chains more : Chains} (wf : chains.WellFormed)
    (wfMore : more.WellFormed) (sub : ∀ a b, chains.Follows a b → more.Follows a b)
    {deck : List CardId} {card : CardId} (leads : more.leads deck card = true) :
    chains.leads deck card = true := by
  rw [leads_eq_true_iff] at leads ⊢
  intro leading back
  exact leads leading (wfMore.inverse.mp (sub _ _ (wf.inverse.mpr back)))

/-- What has been arranged along some of the links can be arranged along all of
them, and is then as if it had been arranged only once. -/
theorem WellFormed.arrange_arrange {chains more : Chains} (wf : chains.WellFormed)
    (wfMore : more.WellFormed) (sub : ∀ a b, chains.Follows a b → more.Follows a b)
    {deck : List CardId} (distinct : deck.Nodup) :
    more.arrange (chains.arrange deck) = more.arrange deck := by
  have first := wf.arranges_arrange distinct
  have second := wfMore.arranges_arrange (first.perm.nodup_iff.mpr distinct)
  rw [← wfMore.arranges_iff distinct]
  have absorbs : ∀ cards : List CardId,
      (cards.filter (chains.leads deck)).filter (more.leads deck) =
        cards.filter (more.leads deck) := by
    intro cards
    rw [List.filter_filter]
    apply List.filter_congr
    intro card _
    cases leads : more.leads deck card with
    | false => rfl
    | true => rw [wf.leads_of_more wfMore sub leads, Bool.and_self]
  have leaders := second.leaders
  rw [leads_of_perm more first.perm] at leaders
  constructor
  · exact second.perm.trans first.perm
  · exact second.contiguous
  · calc (more.arrange (chains.arrange deck)).filter (more.leads deck)
        = (chains.arrange deck).filter (more.leads deck) := leaders
      _ = ((chains.arrange deck).filter (chains.leads deck)).filter (more.leads deck) :=
          (absorbs _).symm
      _ = (deck.filter (chains.leads deck)).filter (more.leads deck) := by rw [first.leaders]
      _ = deck.filter (more.leads deck) := absorbs deck

/-! ### Card by card -/

/-- Place a card and what follows it, at most `cards` cards, behind the cards
that have been placed, up to the first one that is outside the deck or has been
placed. -/
def place (chains : Chains) (deck : List CardId) :
    (cards : Nat) → List CardId → CardId → List CardId
  | 0, placed, _ => placed
  | cards + 1, placed, card =>
      if card ∈ deck ∧ card ∉ placed then
        match chains.successor? card with
        | some following => chains.place deck cards (placed ++ [card]) following
        | none => placed ++ [card]
      else placed

/-- Go through a deck and place each card that leads, with what follows it. -/
def placeAll (chains : Chains) (deck : List CardId) : List CardId :=
  deck.foldl
    (fun placed card =>
      if chains.leads deck card then chains.place deck deck.length placed card else placed) []

/-- A path none of whose cards has been placed is placed as a whole. -/
theorem WellFormed.place_eq_append {chains : Chains} (wf : chains.WellFormed) {deck : List CardId}
    {cards : Nat} {placed : List CardId} {card : CardId}
    (new : ∀ other ∈ chains.followWithin deck cards card, other ∉ placed) :
    chains.place deck cards placed card = placed ++ chains.followWithin deck cards card := by
  induction cards generalizing placed card with
  | zero => exact (List.append_nil placed).symm
  | succ cards ih =>
      have distinct := wf.nodup_followWithin deck (cards + 1) card
      unfold followWithin at new distinct ⊢
      unfold place
      by_cases inside : card ∈ deck
      · simp only [if_pos inside] at new distinct ⊢
        have unplaced : card ∉ placed := new card (List.mem_cons_self ..)
        rw [if_pos ⟨inside, unplaced⟩]
        cases step : chains.successor? card with
        | none => rfl
        | some following =>
            simp only [step] at new distinct
            have later : ∀ other ∈ chains.followWithin deck cards following,
                other ∉ placed ++ [card] := by
              intro other mem before
              rcases List.mem_append.mp before with before | same
              · exact new other (List.mem_cons_of_mem _ mem) before
              · rw [List.mem_singleton.mp same] at mem
                exact (List.nodup_cons.mp distinct).1 mem
            exact (ih later).trans (List.append_assoc ..)
      · simp [inside]

/-- After part of the deck the paths of its leaders have been placed. -/
theorem WellFormed.foldl_place {chains : Chains} (wf : chains.WellFormed) {deck : List CardId}
    (distinct : deck.Nodup) {before after : List CardId} (split : deck = before ++ after) :
    after.foldl
      (fun placed card =>
        if chains.leads deck card then chains.place deck deck.length placed card else placed)
      ((before.filter (chains.leads deck)).flatMap (chains.follow deck)) =
      chains.gather deck := by
  induction after generalizing before with
  | nil =>
      rw [gather_eq_flatMap chains distinct]
      simp only [List.foldl_nil, split, List.append_nil]
  | cons card rest ih =>
      have later : deck = (before ++ [card]) ++ rest := by simp [split]
      rw [← ih later, List.foldl_cons]
      congr 1
      rw [List.filter_append, List.flatMap_append]
      by_cases leads : chains.leads deck card = true
      · have inside : card ∈ deck := by simp [split]
        have apart : ∀ other ∈ chains.follow deck card,
            other ∉ (before.filter (chains.leads deck)).flatMap (chains.follow deck) := by
          intro other mem placed
          obtain ⟨leader, earlier, onPath⟩ := List.mem_flatMap.mp placed
          obtain ⟨leaderBefore, leaderLeads⟩ := List.mem_filter.mp earlier
          have leaderIn : leader ∈ deck := split ▸ List.mem_append_left _ leaderBefore
          obtain rfl := wf.leader_unique leaderLeads leads ((wf.mem_follow leaderIn).mp onPath)
            ((wf.mem_follow inside).mp mem)
          rw [split] at distinct
          exact (List.nodup_append.mp distinct).2.2 _ leaderBefore _ (List.mem_cons_self ..) rfl
        rw [if_pos leads, List.filter_cons_of_pos leads]
        exact (wf.place_eq_append apart).trans (by simp [follow])
      · rw [if_neg leads, List.filter_cons_of_neg leads]
        simp

/-- Placing chain after chain gives the arranged deck.  The test for cards that
have been placed never finds one. -/
theorem WellFormed.placeAll_eq_arrange {chains : Chains} (wf : chains.WellFormed)
    {deck : List CardId} (distinct : deck.Nodup) :
    chains.placeAll deck = chains.arrange deck :=
  (wf.foldl_place distinct (List.nil_append deck).symm).trans (wf.gather_eq_arrange distinct)

/-! ### The whole of it -/

/-- Arranging a deck without duplicates along well-formed links gives the one
order of its cards in which the cards of each link stand side by side and the
cards that lead keep their order.  So it changes nothing a second time, and
leaves alone exactly the decks in which the cards of each link stand side by
side.  It does what placing chain after chain does, with or without links. -/
theorem WellFormed.arrange_is_only_arrangement {chains : Chains} (wf : chains.WellFormed)
    {deck : List CardId} (distinct : deck.Nodup) :
    (∀ arranged, chains.Arranges deck arranged ↔ arranged = chains.arrange deck) ∧
      chains.arrange (chains.arrange deck) = chains.arrange deck ∧
      (chains.arrange deck = deck ↔ chains.Contiguous deck) ∧
      chains.gather deck = chains.arrange deck ∧
      chains.placeAll deck = chains.arrange deck := by
  refine ⟨fun arranged => wf.arranges_iff distinct, ?_, ?_, wf.gather_eq_arrange distinct,
    wf.placeAll_eq_arrange distinct⟩
  · exact wf.arrange_arrange wf (fun _ _ step => step) distinct
  · constructor
    · intro still
      exact still ▸ wf.contiguous_arrange distinct
    · intro contiguous
      exact contiguous.arrange_eq_self wf distinct

/-- A chain of four cards that runs against their numbers. -/
def backwards : Chains :=
  ⟨.ofList [(⟨3⟩, ⟨0⟩), (⟨0⟩, ⟨2⟩), (⟨2⟩, ⟨1⟩)], .ofList [(⟨0⟩, ⟨3⟩), (⟨2⟩, ⟨0⟩), (⟨1⟩, ⟨2⟩)]⟩

theorem backwards_wellFormed : backwards.WellFormed := by
  have one : (⟨.ofList [(⟨3⟩, ⟨0⟩)], .ofList [(⟨0⟩, ⟨3⟩)]⟩ : Chains).WellFormed :=
    wellFormed_empty.link (show empty.link ⟨3⟩ ⟨0⟩ = .ok _ by decide +kernel)
  have two : (⟨.ofList [(⟨3⟩, ⟨0⟩), (⟨0⟩, ⟨2⟩)], .ofList [(⟨0⟩, ⟨3⟩), (⟨2⟩, ⟨0⟩)]⟩ :
      Chains).WellFormed :=
    one.link (show Chains.link _ ⟨0⟩ ⟨2⟩ = .ok _ by decide +kernel)
  exact two.link (show Chains.link _ ⟨2⟩ ⟨1⟩ = .ok _ by decide +kernel)

/-- Where the card between is missing, the chain falls into two: its last card
keeps its place, and its first two cards stay together. -/
theorem backwards_interrupted :
    [⟨1⟩, ⟨4⟩, ⟨3⟩, ⟨0⟩] = backwards.arrange [⟨0⟩, ⟨1⟩, ⟨4⟩, ⟨3⟩] ∧
      backwards.Arranges [⟨0⟩, ⟨1⟩, ⟨4⟩, ⟨3⟩] [⟨1⟩, ⟨4⟩, ⟨3⟩, ⟨0⟩] ∧
      ¬ backwards.Arranges [⟨0⟩, ⟨1⟩, ⟨4⟩, ⟨3⟩] [⟨3⟩, ⟨0⟩, ⟨1⟩, ⟨4⟩] ∧
      ¬ backwards.Contiguous [⟨0⟩, ⟨1⟩, ⟨4⟩, ⟨3⟩] := by
  obtain ⟨only, -, still, -, -⟩ := backwards_wellFormed.arrange_is_only_arrangement
    (show ([⟨0⟩, ⟨1⟩, ⟨4⟩, ⟨3⟩] : List CardId).Nodup by decide)
  have arranged : [⟨1⟩, ⟨4⟩, ⟨3⟩, ⟨0⟩] = backwards.arrange [⟨0⟩, ⟨1⟩, ⟨4⟩, ⟨3⟩] := by
    decide +kernel
  refine ⟨arranged, (only _).mpr arranged, fun other => ?_, fun contiguous => ?_⟩
  · exact absurd ((only _).mp other) (by decide +kernel)
  · exact absurd (still.mpr contiguous) (by decide +kernel)

end CardBattle.Chains
