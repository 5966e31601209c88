/-
Module: CardBattle.Proofs.Game.Linking
Purpose: In every run two cards are chained exactly when the links stay separate paths, and a refusal
  leaves no trace.
Main exports:
  Game.Writes, Game.chainInPlace, Game.on_chainInPlace, Game.LegalLink, Game.AddsLink,
  Game.Reachable.chainCards_accepts_legal_links
-/
import CardBattle.Proofs.Cards.Settling
import CardBattle.Proofs.Chains.Acceptance
import CardBattle.Proofs.Game.Rotation

/-!
# Chaining two cards

Chaining takes four writes: the link in one direction, the link in the other, the deck in its new
order, and the cursor.  A request that is refused must not have made some of them, so `chainInPlace`
makes them one after the other on a record that keeps what was written when a fault occurs.  All its
checks come before the first write, hence it does what `chainCards` does, where a refusal gives no
record at all.

A link is legal when both cards are of one owner, the link is new, and with it the links are still
separate paths.  Exactly the legal links are made, and they change the links, one deck and one cursor.
-/

namespace CardBattle.Game

/-! ### Writing in place -/

/-- Work on a record that a fault can end.  What has been written by then stays. -/
abbrev Writes (α : Type) := ExceptT Fault (StateM Game) α

/-- The outcome of the work, and the record that stands after it. -/
def Writes.on {α : Type} (work : Writes α) (g : Game) : Except Fault α × Game := work.run.run g

/-- Write one of the two maps of the links. -/
def writeChains (change : Chains → Chains) : Writes Unit :=
  modify fun g => { g with pool := { g.pool with chains := change g.pool.chains } }

/-- Check that a link can be made, and write it in one direction and then in the
other. -/
def linkInPlace (first second : CardId) : Writes Unit := do
  let chains := (← get).pool.chains
  if first = second then
    throw (.badLink (.selfLink first))
  else if chains.next.contains first || chains.prev.contains second then
    throw (.badLink (.alreadyLinked first second))
  else if chains.reaches second first then
    throw (.badLink (.cycle first second))
  else
    writeChains fun chains => { chains with next := chains.next.insert first second }
    writeChains fun chains => { chains with prev := chains.prev.insert second first }

/-- Write the deck of a side in the order that the links ask for, and then its
cursor. -/
def rearrangeInPlace (side : Side) : Writes Unit := do
  let g ← get
  let current := (g.combatant side).currentCard?
  modify (·.updateCombatant side fun c => { c with deck := g.pool.chains.arrange c.deck })
  modify (·.updateCombatant side fun c =>
    { c with cursor := (current.bind c.deckPosition?).getD 0 })

/-- Chain two cards by one write after the other. -/
def chainInPlace (first second : CardId) : Writes Unit := do
  let pool := (← get).pool
  match pool.owner? first, pool.owner? second with
  | none, _ => throw (.unknownCard first)
  | some _, none => throw (.unknownCard second)
  | some owner, some other =>
      if owner ≠ other then
        throw (.badLink (.differentOwners first second))
      else
        linkInPlace first second
        rearrangeInPlace owner

/-- Work that is followed by more is carried on from the record it leaves,
unless it has met a fault; what was written before the fault stays written. -/
theorem on_seq (work next : Writes Unit) (g : Game) :
    Writes.on (do work; next) g =
      match work.on g with
      | (.ok (), written) => next.on written
      | (.error fault, written) => (.error fault, written) := by
  unfold Writes.on
  rw [ExceptT.run_bind, StateT.run_bind]
  obtain ⟨outcome, written⟩ := work.run.run g
  cases outcome <;> rfl

/-- A link is written in both directions, or nothing is written and the refusal
is told. -/
theorem on_linkInPlace (g : Game) (first second : CardId) :
    (linkInPlace first second).on g =
      match g.pool.chains.link first second with
      | .ok chains => (.ok (), { g with pool := { g.pool with chains := chains } })
      | .error refusal => (.error (.badLink refusal), g) := by
  -- The record is read before the checks, so they are checks of its links.
  show (ite _ _ (ite _ _ (ite _ _ _)) : Writes Unit).on g = _
  unfold Chains.link
  split
  · rfl
  · split
    · rfl
    · split <;> rfl

/-- Rearranging in place ends in the same record as rearranging by value, and
cannot be refused. -/
theorem on_rearrangeInPlace (g : Game) (side : Side) :
    (rearrangeInPlace side).on g = (.ok (), g.rearrange side) := by
  show (Except.ok (), (g.updateCombatant side _).updateCombatant side _) = _
  rw [updateCombatant_updateCombatant]
  exact congrArg _ (updateCombatant_congr rfl)

/-- Chaining two cards by one write after the other does what chaining them
does, and a refusal comes before the first write. -/
theorem on_chainInPlace (g : Game) (first second : CardId) :
    (chainInPlace first second).on g =
      match g.chainCards first second with
      | .ok next => (.ok (), next)
      | .error fault => (.error fault, g) := by
  show Writes.on (match g.pool.owner? first, g.pool.owner? second with
    | none, _ => _
    | some _, none => _
    | some owner, some other => ite _ _ _) g = _
  unfold Game.chainCards CardPool.link
  cases one : g.pool.owner? first with
  | none => rfl
  | some owner =>
      cases two : g.pool.owner? second with
      | none => rfl
      | some other =>
          dsimp only
          split
          · rfl
          · rw [on_seq, on_linkInPlace]
            cases g.pool.chains.link first second with
            | error refusal => rfl
            | ok chains =>
                have same : CardPool.owner? { g.pool with chains := chains } first = some owner := one
                simp only [same]
                exact on_rearrangeInPlace _ owner

/-! ### Legal links -/

/-- A link between cards of one owner that is new and with which the links are
separate paths. -/
structure LegalLink (g : Game) (first second : CardId) : Prop where
  sameOwner : g.pool.owner? first = g.pool.owner? second
  new : ¬ g.pool.chains.Follows first second
  paths : SeparatePaths (g.pool.chains.FollowsWith first second)

/-- One link is new, the deck of one side has another order with the cursor on
the same card, and all else stays as it is. -/
structure AddsLink (g : Game) (owner : Side) (first second : CardId) (next : Game) : Prop where
  follows : ∀ a b, next.pool.chains.successor? a = some b ↔
    g.pool.chains.FollowsWith first second a b
  mirrored : ∀ a b, next.pool.chains.predecessor? b = some a ↔
    g.pool.chains.FollowsWith first second a b
  deck : (next.combatant owner).deck.Perm (g.combatant owner).deck
  current : (next.combatant owner).currentCard? = (g.combatant owner).currentCard?
  rest : next =
    ({ g with pool := { g.pool with chains := next.pool.chains } } : Game).updateCombatant owner
      fun c => { c with
        deck := (next.combatant owner).deck
        cursor := (next.combatant owner).cursor }

/-- Between stored cards a link is granted exactly when it is legal. -/
theorem Tidy.chainCards_isOk_iff {g : Game} (tidy : g.Tidy) {first second : CardId} {owner : Side}
    (stored : g.pool.owner? first = some owner) :
    (∃ next, g.chainCards first second = .ok next) ↔ g.LegalLink first second := by
  constructor
  · rintro ⟨next, ok⟩
    obtain ⟨_, chains, one, two, fits, -⟩ := chainCards_eq_ok_iff.mp ok
    obtain ⟨new, paths⟩ := tidy.sound.links.link_isOk_iff.mp ⟨chains, fits⟩
    exact ⟨one.trans two.symm, new, paths⟩
  · rintro ⟨same, new, paths⟩
    obtain ⟨chains, fits⟩ := tidy.sound.links.link_isOk_iff.mpr ⟨new, paths⟩
    exact ⟨_, chainCards_eq_ok_iff.mpr ⟨owner, chains, stored, same ▸ stored, fits, rfl⟩⟩

/-- Cards that are stored can only be refused a link, and the fault says which
refusal it was. -/
theorem badLink_of_chainCards_eq_error {g : Game} {first second : CardId} {owner other : Side}
    (one : g.pool.owner? first = some owner) (two : g.pool.owner? second = some other)
    {fault : Fault} (refused : g.chainCards first second = .error fault) :
    ∃ refusal, fault = .badLink refusal := by
  unfold Game.chainCards CardPool.link at refused
  simp only [one, two] at refused
  split at refused
  · rename_i found
    cases refused
    split at found
    · exact ⟨_, (Except.error.inj found).symm⟩
    · split at found
      · exact ⟨_, (Except.error.inj found).symm⟩
      · cases found
  · split at refused <;> cases refused

/-- A link that is granted is added to the others, the deck is arranged for it,
and the cursor stays on its card. -/
theorem Tidy.chainCards_addsLink {g next : Game} (tidy : g.Tidy) (fit : g.CursorsFit)
    {first second : CardId} {owner : Side} (stored : g.pool.owner? first = some owner)
    (ok : g.chainCards first second = .ok next) : g.AddsLink owner first second next := by
  obtain ⟨party, chains, one, -, fits, rfl⟩ := chainCards_eq_ok_iff.mp ok
  obtain rfl : owner = party := Option.some.inj (stored.symm.trans one)
  have wf := tidy.sound.links.link fits
  have settled : (({ g with pool := { g.pool with chains := chains } } : Game).rearrange
      owner).combatant owner = (g.combatant owner).settle chains :=
    combatant_updateCombatant_self ..
  have follows : ∀ a b, chains.Follows a b ↔ g.pool.chains.FollowsWith first second a b :=
    fun _ _ => Chains.follows_of_link fits
  refine ⟨follows, fun a b => wf.inverse.symm.trans (follows a b), ?_, ?_, ?_⟩
  · rw [settled]
    exact wf.arrange_perm (tidy.held owner).deck_nodup
  · rw [settled]
    exact Combatant.currentCard?_settle wf (fit owner) (tidy.held owner).deck_nodup
  · rw [settled]
    exact updateCombatant_congr rfl

/-- In every record of a run, and for any two cards that are stored, exactly the
legal links are made.  A refusal leaves the record as it was, although the
writes are made one after the other. -/
theorem Reachable.chainCards_accepts_legal_links {g : Game} (reached : g.Reachable)
    {first second : CardId} {owner other : Side} (one : g.pool.owner? first = some owner)
    (two : g.pool.owner? second = some other) :
    ((∃ next, g.chainCards first second = .ok next) ↔ g.LegalLink first second) ∧
      (∀ fault, g.chainCards first second = .error fault →
        (∃ refusal, fault = .badLink refusal) ∧
          (chainInPlace first second).on g = (.error fault, g)) ∧
      ∀ next, g.chainCards first second = .ok next →
        g.AddsLink owner first second next ∧
          (chainInPlace first second).on g = (.ok (), next) := by
  refine ⟨reached.tidy.chainCards_isOk_iff one, fun fault refused => ⟨?_, ?_⟩,
    fun next ok => ⟨?_, ?_⟩⟩
  · exact badLink_of_chainCards_eq_error one two refused
  · rw [on_chainInPlace, refused]
  · exact reached.tidy.chainCards_addsLink reached.cursorsFit one ok
  · rw [on_chainInPlace, ok]

/-- The last card of a deck with the cursor on it is linked to the first, which
then comes behind it.  The first card cannot be linked to a card of the other
side. -/
theorem lastCard_links :
    (∃ next, lastCard.chainCards ⟨2⟩ ⟨0⟩ = .ok next ∧ lastCard.AddsLink .user ⟨2⟩ ⟨0⟩ next ∧
        (next.combatant .user).deck = [⟨1⟩, ⟨2⟩, ⟨0⟩] ∧
        (next.combatant .user).currentCard? = some ⟨2⟩) ∧
      (chainInPlace ⟨0⟩ ⟨3⟩).on lastCard =
        (.error (.badLink (.differentOwners ⟨0⟩ ⟨3⟩)), lastCard) := by
  have first : lastCard.pool.owner? ⟨0⟩ = some .user := by decide +kernel
  have last : lastCard.pool.owner? ⟨2⟩ = some .user := by decide +kernel
  have foreign : lastCard.pool.owner? ⟨3⟩ = some .opponent := by decide +kernel
  obtain ⟨-, -, adds⟩ := lastCard_reachable.chainCards_accepts_legal_links last first
  obtain ⟨-, refuses, -⟩ := lastCard_reachable.chainCards_accepts_legal_links first foreign
  have made : (lastCard.chainCards ⟨2⟩ ⟨0⟩).map (fun next => (next.combatant .user).deck) =
      .ok [⟨1⟩, ⟨2⟩, ⟨0⟩] := by
    decide +kernel
  obtain ⟨next, ok, deck⟩ := of_map_eq_ok made
  have current : (lastCard.combatant .user).currentCard? = some ⟨2⟩ := by decide +kernel
  have adds := (adds next ok).1
  have refused : lastCard.chainCards ⟨0⟩ ⟨3⟩ = .error (.badLink (.differentOwners ⟨0⟩ ⟨3⟩)) := by
    decide +kernel
  exact ⟨⟨next, ok, adds, deck, adds.current.trans current⟩, (refuses _ refused).2⟩

end CardBattle.Game
