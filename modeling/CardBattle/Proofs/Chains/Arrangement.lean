/-
Module: CardBattle.Proofs.Chains.Arrangement
Purpose: What arranging a deck keeps and what it brings about.
Main exports:
  Chains.Contiguous, Chains.Contiguous.filter, Chains.WellFormed.arrange_perm,
  Chains.WellFormed.contiguous_arrange, Chains.Contiguous.arrange_eq_self
-/
import CardBattle.Proofs.Chains.Links
import Mathlib.Data.Fintype.Card
import Mathlib.Data.Fintype.EquivFin
import Mathlib.Data.Fintype.Sets

/-!
# Arrangement

A deck is contiguous when the two cards of each link that it holds stand side by side.  Arranging a
deck without duplicates along well-formed chains gives a contiguous deck with the same cards, and
leaves a contiguous deck as it is.

Within a deck the links make paths again, and each card is on the path of exactly one card that
leads: going back from a card ends, since no walk comes back, and two paths that meet are parts of
one path.
-/

namespace CardBattle.Chains

open Relation (ReflTransGen TransGen)

/-- The two cards of a link stand side by side if both are in the deck. -/
def Contiguous (chains : Chains) (deck : List CardId) : Prop :=
  ∀ first second, chains.Follows first second → first ∈ deck → second ∈ deck →
    [first, second] <:+: deck

/-! ### Contiguous decks -/

theorem Contiguous.nil (chains : Chains) : chains.Contiguous [] :=
  fun _ _ _ inside => absurd inside List.not_mem_nil

theorem Contiguous.of_no_links {chains : Chains} (none : ∀ a b, ¬ chains.Follows a b)
    (deck : List CardId) : chains.Contiguous deck :=
  fun _ _ step => absurd step (none _ _)

/-- A deck stays contiguous when no link between its cards is added.  Links to
cards outside of it may come and go. -/
theorem Contiguous.of_follows {chains other : Chains} {deck : List CardId}
    (contiguous : chains.Contiguous deck)
    (sub : ∀ a b, other.Follows a b → a ∈ deck → b ∈ deck → chains.Follows a b) :
    other.Contiguous deck :=
  fun a b step first second => contiguous a b (sub a b step first second) first second

/-- Taking cards out keeps neighbours that stay side by side, because nothing
can come between two cards by leaving. -/
theorem Contiguous.filter {chains : Chains} {deck : List CardId}
    (contiguous : chains.Contiguous deck) (keep : CardId → Bool) :
    chains.Contiguous (deck.filter keep) := by
  intro first second step inFirst inSecond
  obtain ⟨inFirst, keepFirst⟩ := List.mem_filter.mp inFirst
  obtain ⟨inSecond, keepSecond⟩ := List.mem_filter.mp inSecond
  have both : [first, second].filter keep = [first, second] := by
    simp [keepFirst, keepSecond]
  rw [← both]
  exact (contiguous _ _ step inFirst inSecond).filter keep

/-- A card without links can be put anywhere outside the deck, here below it. -/
theorem Contiguous.append_unlinked {chains : Chains} {deck : List CardId}
    (contiguous : chains.Contiguous deck) {card : CardId}
    (free : ∀ a b, chains.Follows a b → a ≠ card ∧ b ≠ card) :
    chains.Contiguous (deck ++ [card]) := by
  intro first second step inFirst inSecond
  obtain ⟨notFirst, notSecond⟩ := free first second step
  have inFirst : first ∈ deck := by simpa [notFirst] using inFirst
  have inSecond : second ∈ deck := by simpa [notSecond] using inSecond
  exact (contiguous _ _ step inFirst inSecond).trans (List.prefix_append deck [card]).isInfix

/-- The successor of the card at a place is at the next place. -/
theorem Contiguous.getElem?_succ {chains : Chains} {deck : List CardId}
    (contiguous : chains.Contiguous deck) (distinct : deck.Nodup) {first second : CardId}
    (step : chains.Follows first second) (inSecond : second ∈ deck) {place : Nat}
    (here : deck[place]? = some first) : deck[place + 1]? = some second := by
  have inFirst : first ∈ deck := List.mem_of_getElem? here
  obtain ⟨start, fits, agree⟩ := List.infix_iff_getElem?.mp (contiguous _ _ step inFirst inSecond)
  have firstAt : deck[start]? = some first := by simpa using agree 0 (by simp)
  have secondAt : deck[1 + start]? = some second := by simpa using agree 1 (by simp)
  have same : start = place := by
    refine (List.getElem?_inj ?_ distinct).mp (firstAt.trans here.symm)
    exact (List.getElem?_eq_some_iff.mp firstAt).1
  rw [← same, Nat.add_comm]
  exact secondAt

/-! ### Paths within a deck -/

/-- A link between two cards of a deck. -/
def FollowsIn (chains : Chains) (deck : List CardId) (first second : CardId) : Prop :=
  chains.Follows first second ∧ first ∈ deck ∧ second ∈ deck

theorem leads_eq_true_iff (chains : Chains) (deck : List CardId) (card : CardId) :
    chains.leads deck card = true ↔
      ∀ leading, chains.predecessor? card = some leading → leading ∉ deck := by
  unfold leads
  cases chains.predecessor? card <;> simp

/-- A card does not lead where its predecessor is in the deck, which it then
stands behind. -/
theorem leads_eq_false_iff (chains : Chains) (deck : List CardId) (card : CardId) :
    chains.leads deck card = false ↔
      ∃ leading, chains.predecessor? card = some leading ∧ leading ∈ deck := by
  unfold leads
  cases chains.predecessor? card <;> simp

/-- What is followed from a card is reached from it within the deck, and nothing
is followed from outside of the deck. -/
theorem of_mem_followWithin {chains : Chains} {deck : List CardId} {cards : Nat}
    {start card : CardId} (mem : card ∈ chains.followWithin deck cards start) :
    start ∈ deck ∧ ReflTransGen (chains.FollowsIn deck) start card := by
  induction cards generalizing start with
  | zero => simp [followWithin] at mem
  | succ cards ih =>
      unfold followWithin at mem
      split at mem
      · rename_i inside
        rcases List.mem_cons.mp mem with rfl | later
        · exact ⟨inside, .refl⟩
        · cases step : chains.successor? start with
          | none => simp [step] at later
          | some next =>
              rw [step] at later
              obtain ⟨nextInside, path⟩ := ih later
              exact ⟨inside, .head ⟨step, inside, nextInside⟩ path⟩
      · simp at mem

theorem mem_of_followsIn {chains : Chains} {deck : List CardId} {start card : CardId}
    (inside : start ∈ deck) (path : ReflTransGen (chains.FollowsIn deck) start card) :
    card ∈ deck := by
  cases path with
  | refl => exact inside
  | tail _ step => exact step.2.2

/-- No path within a deck comes back, as each of its links is one of the chains. -/
theorem WellFormed.acyclicIn {chains : Chains} (wf : chains.WellFormed) (deck : List CardId)
    (card : CardId) : ¬ TransGen (chains.FollowsIn deck) card card :=
  fun loop => wf.acyclic card (TransGen.mono (fun _ _ step => step.1) _ _ loop)

/-- A card is met once at most along its own path. -/
theorem WellFormed.nodup_followWithin {chains : Chains} (wf : chains.WellFormed)
    (deck : List CardId) (cards : Nat) (start : CardId) :
    (chains.followWithin deck cards start).Nodup := by
  induction cards generalizing start with
  | zero => exact List.nodup_nil
  | succ cards ih =>
      unfold followWithin
      split
      · rename_i inside
        cases step : chains.successor? start with
        | none => simp
        | some next =>
            refine List.nodup_cons.mpr ⟨fun again => ?_, ih next⟩
            obtain ⟨nextInside, path⟩ := of_mem_followWithin again
            exact wf.acyclicIn deck start (.head' ⟨step, inside, nextInside⟩ path)
      · exact List.nodup_nil

/-- Following for one card less is the same path cut off.  The bound can only
shorten what is followed. -/
theorem followWithin_eq_take (chains : Chains) (deck : List CardId) (cards : Nat)
    (start : CardId) :
    chains.followWithin deck cards start =
      (chains.followWithin deck (cards + 1) start).take cards := by
  induction cards generalizing start with
  | zero => rfl
  | succ cards ih =>
      rw [followWithin, followWithin]
      split
      · rw [List.take_succ_cons]
        cases chains.successor? start with
        | none => simp
        | some next => exact congrArg (start :: ·) (ih next)
      · rfl

/-- The deck has room for every path within it, so the bound cuts nothing off.
From here on following is a recursion along the links, without a count. -/
theorem WellFormed.follow_eq {chains : Chains} (wf : chains.WellFormed) {deck : List CardId}
    {card : CardId} (inside : card ∈ deck) :
    chains.follow deck card =
      card ::
        match chains.successor? card with
        | some following => chains.follow deck following
        | none => [] := by
  have room : (chains.followWithin deck (deck.length + 1) card).length ≤ deck.length := by
    refine ((wf.nodup_followWithin deck _ card).subperm fun other mem => ?_).length_le
    exact mem_of_followsIn inside (of_mem_followWithin mem).2
  rw [follow, followWithin_eq_take, List.take_of_length_le room, followWithin, if_pos inside]
  rfl

theorem follow_of_not_mem {chains : Chains} {deck : List CardId} {card : CardId}
    (outside : card ∉ deck) : chains.follow deck card = [] := by
  rw [List.eq_nil_iff_forall_not_mem]
  exact fun other mem => outside (of_mem_followWithin mem).1

/-- Exactly the cards of a path are followed from its start. -/
theorem WellFormed.mem_follow {chains : Chains} (wf : chains.WellFormed) {deck : List CardId}
    {start card : CardId} (inside : start ∈ deck) :
    card ∈ chains.follow deck start ↔ ReflTransGen (chains.FollowsIn deck) start card := by
  constructor
  · exact fun mem => (of_mem_followWithin mem).2
  · intro path
    induction path using ReflTransGen.head_induction_on with
    | refl =>
        rw [wf.follow_eq inside]
        exact List.mem_cons_self ..
    | @head first next step _ ih =>
        rw [wf.follow_eq step.2.1, show chains.successor? first = some next from step.1]
        exact List.mem_cons_of_mem _ (ih step.2.2)

/-- Along a path each card is followed by its successor, with nothing between
the two. -/
theorem WellFormed.infix_follow {chains : Chains} (wf : chains.WellFormed) {deck : List CardId}
    {start first second : CardId} (path : ReflTransGen (chains.FollowsIn deck) start first)
    (last : chains.FollowsIn deck first second) :
    [first, second] <:+: chains.follow deck start := by
  induction path using ReflTransGen.head_induction_on with
  | refl =>
      rw [wf.follow_eq last.2.1, show chains.successor? first = some second from last.1]
      show [first, second] <:+: first :: chains.follow deck second
      rw [wf.follow_eq last.2.2]
      exact ⟨[], _, rfl⟩
  | @head begun next step _ ih =>
      rw [wf.follow_eq step.2.1, show chains.successor? begun = some next from step.1]
      exact List.infix_cons ih

/-! ### The card that leads -/

/-- Going back from a card of the deck ends, at a card that leads.  Otherwise
some card would be met twice. -/
theorem WellFormed.exists_leader {chains : Chains} (wf : chains.WellFormed) {deck : List CardId}
    {card : CardId} (inside : card ∈ deck) :
    ∃ leader ∈ deck, chains.leads deck leader = true ∧
      ReflTransGen (chains.FollowsIn deck) leader card := by
  let before : {card // card ∈ deck} → {card // card ∈ deck} → Prop :=
    fun a b => TransGen (chains.FollowsIn deck) a b
  have : IsTrans _ before := ⟨fun _ _ _ => TransGen.trans⟩
  have : Std.Irrefl before := ⟨fun card => wf.acyclicIn deck card⟩
  have ends : WellFounded before := Finite.wellFounded_of_trans_of_irrefl before
  suffices ∀ card : {card // card ∈ deck}, ∃ leader ∈ deck, chains.leads deck leader = true ∧
      ReflTransGen (chains.FollowsIn deck) leader card from this ⟨card, inside⟩
  intro card
  induction card using ends.induction with
  | _ card ih =>
      by_cases first : chains.leads deck card = true
      · exact ⟨card, card.2, first, .refl⟩
      · obtain ⟨leading, back, leadingIn⟩ :=
          (leads_eq_false_iff chains deck card).mp (Bool.not_eq_true _ ▸ first)
        have step : chains.FollowsIn deck leading card := ⟨wf.inverse.mpr back, leadingIn, card.2⟩
        obtain ⟨leader, leaderIn, leads, path⟩ := ih ⟨leading, leadingIn⟩ (.single step)
        exact ⟨leader, leaderIn, leads, path.tail step⟩

/-- Nothing in the deck comes before a card that leads, so a path to it is
empty. -/
theorem WellFormed.eq_of_leads {chains : Chains} (wf : chains.WellFormed) {deck : List CardId}
    {start leader : CardId} (leads : chains.leads deck leader = true)
    (path : ReflTransGen (chains.FollowsIn deck) start leader) : start = leader := by
  cases path with
  | refl => rfl
  | tail _ step =>
      have outside := (leads_eq_true_iff chains deck leader).mp leads _ (wf.inverse.mp step.1)
      exact absurd step.2.1 outside

/-- Two cards that lead to a common card are on one path. -/
theorem WellFormed.path_or_path {chains : Chains} (wf : chains.WellFormed) {deck : List CardId}
    {first second card : CardId} (one : ReflTransGen (chains.FollowsIn deck) first card)
    (two : ReflTransGen (chains.FollowsIn deck) second card) :
    ReflTransGen (chains.FollowsIn deck) first second ∨
      ReflTransGen (chains.FollowsIn deck) second first := by
  have unique : Relator.RightUnique (Function.swap (chains.FollowsIn deck)) :=
    fun _ _ _ step other => wf.predecessor_unique step.1 other.1
  have back := ReflTransGen.total_of_right_unique unique
    (Relation.reflTransGen_swap.mpr one) (Relation.reflTransGen_swap.mpr two)
  rcases back with path | path
  · exact .inr (Relation.reflTransGen_swap.mp path)
  · exact .inl (Relation.reflTransGen_swap.mp path)

/-- No card is on the paths of two cards that lead.  Together with
`exists_leader` each card of the deck has one leader. -/
theorem WellFormed.leader_unique {chains : Chains} (wf : chains.WellFormed) {deck : List CardId}
    {first second card : CardId} (firstLeads : chains.leads deck first = true)
    (secondLeads : chains.leads deck second = true)
    (one : ReflTransGen (chains.FollowsIn deck) first card)
    (two : ReflTransGen (chains.FollowsIn deck) second card) : first = second := by
  rcases wf.path_or_path one two with path | path
  · exact wf.eq_of_leads secondLeads path
  · exact (wf.eq_of_leads firstLeads path).symm

/-! ### The arranged deck -/

theorem eraseDups_eq_self {cards : List CardId} (distinct : cards.Nodup) :
    cards.eraseDups = cards := by
  induction cards with
  | nil => rfl
  | cons card rest ih =>
      obtain ⟨new, distinct⟩ := List.nodup_cons.mp distinct
      have others : rest.filter (fun other => !other == card) = rest := by
        refine List.filter_eq_self.mpr fun other mem => ?_
        have differs : other ≠ card := fun same => new (same ▸ mem)
        simpa using differs
      rw [List.eraseDups_cons, others, ih distinct]

/-- In a deck that lists each card once there are no repeated leaders to be
struck out. -/
theorem gather_eq_flatMap {deck : List CardId} (chains : Chains) (distinct : deck.Nodup) :
    chains.gather deck = (deck.filter (chains.leads deck)).flatMap (chains.follow deck) := by
  rw [gather, eraseDups_eq_self (distinct.filter _)]

/-- Every card of the deck is gathered, with the path of its leader, and no
other card is. -/
theorem WellFormed.mem_gather {chains : Chains} (wf : chains.WellFormed) {deck : List CardId}
    (distinct : deck.Nodup) {card : CardId} : card ∈ chains.gather deck ↔ card ∈ deck := by
  rw [gather_eq_flatMap chains distinct, List.mem_flatMap]
  constructor
  · rintro ⟨leader, leads, mem⟩
    have leaderIn := (List.mem_filter.mp leads).1
    exact mem_of_followsIn leaderIn ((wf.mem_follow leaderIn).mp mem)
  · intro inside
    obtain ⟨leader, leaderIn, leads, path⟩ := wf.exists_leader inside
    exact ⟨leader, List.mem_filter.mpr ⟨leaderIn, leads⟩, (wf.mem_follow leaderIn).mpr path⟩

/-- No card is gathered twice: paths meet no card twice, and no two leaders
share one. -/
theorem WellFormed.nodup_gather {chains : Chains} (wf : chains.WellFormed) {deck : List CardId}
    (distinct : deck.Nodup) : (chains.gather deck).Nodup := by
  rw [gather_eq_flatMap chains distinct, List.nodup_flatMap]
  refine ⟨fun leader _ => wf.nodup_followWithin deck _ leader, ?_⟩
  refine (distinct.filter _).imp_of_mem fun {first second} inFirst inSecond differs => ?_
  obtain ⟨firstIn, firstLeads⟩ := List.mem_filter.mp inFirst
  obtain ⟨secondIn, secondLeads⟩ := List.mem_filter.mp inSecond
  intro card one two
  have pathOne := (wf.mem_follow firstIn).mp one
  have pathTwo := (wf.mem_follow secondIn).mp two
  exact differs (wf.leader_unique firstLeads secondLeads pathOne pathTwo)

/-- Gathering chains neither loses nor doubles a card, so it is a matter of
order alone. -/
theorem WellFormed.gather_perm {chains : Chains} (wf : chains.WellFormed) {deck : List CardId}
    (distinct : deck.Nodup) : (chains.gather deck).Perm deck :=
  (List.perm_ext_iff_of_nodup (wf.nodup_gather distinct) distinct).mpr
    fun _ => wf.mem_gather distinct

/-- Linked cards come out side by side, as both are on the path of the same
leader. -/
theorem WellFormed.contiguous_gather {chains : Chains} (wf : chains.WellFormed)
    {deck : List CardId} (distinct : deck.Nodup) : chains.Contiguous (chains.gather deck) := by
  intro first second step inFirst inSecond
  have last : chains.FollowsIn deck first second :=
    ⟨step, (wf.mem_gather distinct).mp inFirst, (wf.mem_gather distinct).mp inSecond⟩
  obtain ⟨leader, leaderIn, leads, path⟩ := wf.exists_leader last.2.1
  refine (wf.infix_follow path last).trans ?_
  rw [gather_eq_flatMap chains distinct, List.flatMap_def]
  exact List.infix_of_mem_flatten
    (List.mem_map_of_mem (List.mem_filter.mpr ⟨leaderIn, leads⟩))

/-! ### Contiguous decks stay as they are

Read from a card on, a contiguous deck first shows the rest of that card's path and then a card that
leads. -/

/-- The card before one that does not lead, in a contiguous deck, is its
predecessor. -/
theorem Contiguous.follows_of_leads_eq_false {chains : Chains} {deck : List CardId}
    (contiguous : chains.Contiguous deck) (wf : chains.WellFormed) (distinct : deck.Nodup)
    {place : Nat} {card : CardId} (here : deck[place]? = some card)
    (trails : chains.leads deck card = false) :
    ∃ before leading, place = before + 1 ∧ deck[before]? = some leading ∧
      chains.Follows leading card := by
  obtain ⟨leading, back, inside⟩ := (leads_eq_false_iff chains deck card).mp trails
  have step : chains.Follows leading card := wf.inverse.mpr back
  obtain ⟨before, there⟩ := List.mem_iff_getElem?.mp inside
  have next := contiguous.getElem?_succ distinct step (List.mem_of_getElem? here) there
  refine ⟨before, leading, ?_, there, step⟩
  exact (List.getElem?_inj (List.getElem?_eq_some_iff.mp here).1 distinct).mp
    (here.trans next.symm)

/-- In a contiguous deck the path of a card is written down behind it: it goes
on until the next card that leads. -/
theorem Contiguous.follow_eq {chains : Chains} {deck : List CardId}
    (contiguous : chains.Contiguous deck) (wf : chains.WellFormed) (distinct : deck.Nodup)
    {before after : List CardId} {card : CardId} (split : deck = before ++ card :: after) :
    chains.follow deck card = card :: after.takeWhile fun other => !chains.leads deck other := by
  have inside : card ∈ deck := by simp [split]
  have here : deck[before.length]? = some card := by simp [split]
  induction after generalizing before card with
  | nil =>
      rw [wf.follow_eq inside]
      cases step : chains.successor? card with
      | none => rfl
      | some next =>
          have outside : next ∉ deck := by
            intro nextIn
            have there := contiguous.getElem?_succ distinct step nextIn here
            simp [split] at there
          simp [follow_of_not_mem outside]
  | cons other rest ih =>
      have there : deck[before.length + 1]? = some other := by simp [split]
      rw [wf.follow_eq inside]
      by_cases leads : chains.leads deck other = true
      · rw [List.takeWhile_cons_of_neg (by simp [leads])]
        cases step : chains.successor? card with
        | none => rfl
        | some next =>
            have outside : next ∉ deck := by
              intro nextIn
              have next := contiguous.getElem?_succ distinct step nextIn here
              rw [there] at next
              rw [← Option.some.inj next] at step
              exact (leads_eq_true_iff chains deck other).mp leads card (wf.inverse.mp step) inside
            simp [follow_of_not_mem outside]
      · rw [Bool.not_eq_true] at leads
        obtain ⟨previous, leading, same, leadingAt, step⟩ :=
          contiguous.follows_of_leads_eq_false wf distinct there leads
        obtain rfl : before.length = previous := Nat.succ.inj same
        obtain rfl : card = leading := Option.some.inj (here.symm.trans leadingAt)
        have later : deck = (before ++ [card]) ++ other :: rest := by simp [split]
        have onward : chains.follow deck other =
            other :: rest.takeWhile fun other => !chains.leads deck other := by
          refine ih later (List.mem_of_getElem? there) ?_
          rwa [List.length_append, List.length_singleton]
        rw [show chains.successor? card = some other from step,
          List.takeWhile_cons_of_pos (by simp [leads]), ← onward]

/-- What is gathered from the rest of a contiguous deck is that rest from its
first leader on.  The induction is on the rest, and cards before the leader
belong to a path that was begun earlier. -/
theorem Contiguous.gather_suffix {chains : Chains} {deck : List CardId}
    (contiguous : chains.Contiguous deck) (wf : chains.WellFormed) (distinct : deck.Nodup)
    {before after : List CardId} (split : deck = before ++ after) :
    (after.filter (chains.leads deck)).flatMap (chains.follow deck) =
      after.dropWhile fun other => !chains.leads deck other := by
  induction after generalizing before with
  | nil => rfl
  | cons card rest ih =>
      have later : deck = (before ++ [card]) ++ rest := by simp [split]
      have onward := ih later
      by_cases leads : chains.leads deck card = true
      · rw [List.filter_cons_of_pos leads, List.flatMap_cons, onward,
          contiguous.follow_eq wf distinct split, List.cons_append, List.takeWhile_append_dropWhile,
          List.dropWhile_cons_of_neg (by simp [leads])]
      · rw [List.filter_cons_of_neg leads, onward, List.dropWhile_cons_of_pos (by simp [leads])]

/-- A contiguous deck begins with a leader, so nothing of it is left out or
moved. -/
theorem Contiguous.gather_eq_self {chains : Chains} {deck : List CardId}
    (contiguous : chains.Contiguous deck) (wf : chains.WellFormed) (distinct : deck.Nodup) :
    chains.gather deck = deck := by
  rw [gather_eq_flatMap chains distinct,
    contiguous.gather_suffix wf distinct (List.nil_append deck).symm]
  cases deck with
  | nil => rfl
  | cons card rest =>
      -- The first card leads: it has no place before it for a predecessor.
      have leads : chains.leads (card :: rest) card = true := by
        by_contra trails
        rw [Bool.not_eq_true] at trails
        have start : (card :: rest)[0]? = some card := rfl
        obtain ⟨before, _, impossible, -, -⟩ :=
          contiguous.follows_of_leads_eq_false wf distinct start trails
        cases impossible
      exact List.dropWhile_cons_of_neg (by simp [leads])

/-! ### The shortcut without links -/

theorem not_follows_of_isEmpty {chains : Chains} (none : chains.isEmpty = true)
    (first second : CardId) : ¬ chains.Follows first second := by
  intro step
  rw [Follows, successor?, OrderedMap.isEmpty_iff.mp none first] at step
  cases step

/-- Arranging a deck neither loses nor doubles a card, with the shortcut for no
links as without it. -/
theorem WellFormed.arrange_perm {chains : Chains} (wf : chains.WellFormed) {deck : List CardId}
    (distinct : deck.Nodup) : (chains.arrange deck).Perm deck := by
  unfold arrange
  split
  · exact .refl deck
  · exact wf.gather_perm distinct

/-- Arranging a deck puts the cards of each link side by side, whatever order
the deck was in. -/
theorem WellFormed.contiguous_arrange {chains : Chains} (wf : chains.WellFormed)
    {deck : List CardId} (distinct : deck.Nodup) : chains.Contiguous (chains.arrange deck) := by
  unfold arrange
  split
  · rename_i none
    exact Contiguous.of_no_links (not_follows_of_isEmpty none) deck
  · exact wf.contiguous_gather distinct

/-- Arranging a contiguous deck changes nothing.  A deck that already respects
its links is not reordered by a further request. -/
theorem Contiguous.arrange_eq_self {chains : Chains} {deck : List CardId}
    (contiguous : chains.Contiguous deck) (wf : chains.WellFormed) (distinct : deck.Nodup) :
    chains.arrange deck = deck := by
  unfold arrange
  split
  · rfl
  · exact contiguous.gather_eq_self wf distinct

end CardBattle.Chains
