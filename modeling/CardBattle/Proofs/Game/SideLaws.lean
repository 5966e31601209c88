/-
Module: CardBattle.Proofs.Game.SideLaws
Purpose: Laws about single combatants that hold of both sides in every run.
Main exports:
  SideLaw, Game.Both, Game.both_playLaw, Game.both_kept, Game.Reachable.both
-/
import CardBattle.Proofs.Game.Plays

/-!
# Laws of combatants

Whatever is asked of a run, a combatant changes in a few ways: counters are set or dropped, cards
come, go or are put in another order, and the cursor moves.  A law that asks for nothing but the
deck, the cursor and the counters, and that each of these ways keeps, is kept by all requests.
-/

namespace CardBattle

/-- A law about the deck, the cursor and the counters of a combatant that all
changes keep. -/
structure SideLaw (P : Combatant → Prop) : Prop where
  congr : ∀ {c d : Combatant}, P c → d.deck = c.deck → d.cursor = c.cursor →
    d.statuses = c.statuses → P d
  /-- A combatant between two battles obeys the law. -/
  rested : ∀ {c : Combatant}, c.cursor = 0 → c.statuses = .empty → P c
  setStatus : ∀ {c : Combatant}, P c → ∀ (s : Status) (value : Binary64), P (c.setStatus s value)
  clearTemporary : ∀ {c : Combatant}, P c → P c.clearTemporary
  advanceCursor : ∀ {c : Combatant}, P c → P c.advanceCursor
  dropAt : ∀ {c : Combatant}, P c → ∀ index : Nat, P (c.dropAt index)
  append : ∀ {c : Combatant}, P c → ∀ cards : List CardId, P { c with deck := c.deck ++ cards }
  /-- Cards are put in another order, and the cursor is put at one of them. -/
  arrange : ∀ {c : Combatant} {deck : List CardId} {cursor : Nat}, P c →
    cursor = 0 ∨ cursor < deck.length → P { c with deck := deck, cursor := cursor }

namespace SideLaw

variable {P : Combatant → Prop} {c : Combatant}

/-- Adding stacks is setting a counter, so a law that survives the one survives
the other. -/
theorem addStatus (law : SideLaw P) (start : P c) (s : Status) (addend : Binary64) :
    P (c.addStatus s addend) :=
  law.setStatus start s _

/-- A trashed card leaves the deck.  The trashed pile that it goes to is not
what the law is about. -/
theorem trashAt (law : SideLaw P) (start : P c) (index : Nat) (id : CardId) :
    P (c.trashAt index id) :=
  law.congr (law.dropAt start index) rfl rfl rfl

/-- A card that has been played is trashed or passed over, and the law stands
either of these. -/
theorem putAway (law : SideLaw P) (start : P c) (id : CardId) (trash : Bool) :
    P (c.putAway id trash).1 := by
  unfold Combatant.putAway
  split
  · exact law.trashAt start _ id
  · exact law.advanceCursor start

/-- A card that leaves the run is taken out of the deck if it is there, and
otherwise nothing changes that the law reads. -/
theorem forget (law : SideLaw P) (start : P c) (id : CardId) : P (c.forget id) := by
  unfold Combatant.forget
  split
  · exact law.congr (law.dropAt start _) rfl rfl rfl
  · exact law.congr start rfl rfl rfl

/-- Fields are overwritten with any value, but only counters are the law's
concern among them. -/
theorem assign (law : SideLaw P) (start : P c) {field : Field} {value : Binary64}
    {written : Combatant} (ok : c.assign field value = .ok written) : P written := by
  unfold Combatant.assign at ok
  split at ok
  case h_4 s =>
    cases ok
    exact law.setStatus start s value
  all_goals cases ok
  all_goals exact law.congr start rfl rfl rfl

/-- A turn begins with the temporary counters dropped; the tallies that roll
over are no part of the law. -/
theorem beginTurn (law : SideLaw P) (start : P c) : P c.beginTurn :=
  law.congr (law.clearTemporary start) rfl rfl rfl

/-- Health that comes back is not what the law is about, and the spent stack is
a counter set to less. -/
theorem regenerate (law : SideLaw P) (start : P c) : P c.regenerate := by
  have healed : P { c with health := c.health + c.wholeStacks .regen } :=
    law.congr start rfl rfl rfl
  exact law.addStatus healed .regen (-1)

/-- The cursor is put at the place of a card, or at the start. -/
theorem rearrange (law : SideLaw P) (start : P c) (deck : List CardId) (id? : Option CardId) :
    P { c with deck := deck, cursor := (id?.bind deck.idxOf?).getD 0 } := by
  apply law.arrange start
  cases found : id?.bind deck.idxOf? with
  | none => exact .inl rfl
  | some place =>
      obtain ⟨id, -, here⟩ := Option.bind_eq_some_iff.mp found
      obtain ⟨inside, -⟩ := List.idxOf?_eq_some_iff.mp here
      exact .inr inside

end SideLaw

namespace Game

/-- Both combatants obey a law. -/
def Both (P : Combatant → Prop) (g : Game) : Prop := ∀ side, P (g.combatant side)

namespace Both

variable {P : Combatant → Prop} {g : Game}

/-- A change of the pool and of one side. -/
theorem of_update (both : g.Both P) {pool : CardPool} {side : Side}
    {change : Combatant → Combatant} (own : P (change (g.combatant side))) :
    ({ g with pool := pool }.updateCombatant side change).Both P := by
  intro party
  rcases Side.eq_or_eq_other party side with rfl | rfl
  · rw [combatant_updateCombatant_self]
    exact own
  · rw [combatant_updateCombatant_other]
    exact both _

theorem updateCombatant (both : g.Both P) {side : Side} {change : Combatant → Combatant}
    (own : P (change (g.combatant side))) : (g.updateCombatant side change).Both P :=
  both.of_update own

/-! ### Resolving cards -/

theorem wound {r : Resolution} (both : r.game.Both P) (law : SideLaw P) (source target : Side)
    (amount : Int) : (r.wound source target amount).game.Both P :=
  both.updateCombatant (law.congr (both target) rfl rfl rfl)

/-- The law is kept by each kind of change that a resolving card can make; this
is the case analysis behind the next lemma. -/
theorem of_change {may : EffectKind → Prop} {r after : Resolution} (both : r.game.Both P)
    (law : SideLaw P) (change : Resolution.Change may r after) : after.game.Both P := by
  cases change with
  | counter side s value _ => exact both.updateCombatant (law.setStatus (both side) s value)
  | overwritten side _ written => exact both.updateCombatant (law.assign (both side) written)
  | rolled dice => exact both
  | missed side => exact both
  | healed side amount => exact both.updateCombatant (law.congr (both side) rfl rfl rfl)
  | @struck amount _ =>
      have hurt := both.wound law r.active r.active.other amount
      exact hurt.updateCombatant (law.congr (hurt r.active) rfl rfl rfl)
  | @suffered amount _ => exact both.wound law r.active r.active amount
  | noted => exact both

/-- A card of any lines, repeated as often as it likes, keeps the law, by
induction over its changes. -/
theorem of_changes {may : EffectKind → Prop} {r after : Resolution} (both : r.game.Both P)
    (law : SideLaw P) (changes : Resolution.Changes may r after) : after.game.Both P := by
  induction changes with
  | refl => exact both
  | tail _ change ih => exact ih.of_change law change

/-- Counting the play, resolving the card and putting it away each keep the law. -/
theorem resolveFromDeck (both : g.Both P) (law : SideLaw P) {after : Game} {id : CardId}
    {events : List BattleEvent} (ok : g.resolveFromDeck id = .ok (after, events)) :
    after.Both P := by
  obtain ⟨card, resolved, told, rest, trashed, -, settled, away, rfl, -⟩ :=
    of_resolveFromDeck_eq_ok ok
  have counted : (g.updateCombatant g.active fun c =>
      { c with cardsPlayedThisTurn := c.cardsPlayedThisTurn + 1 }).Both P :=
    both.updateCombatant (law.congr (both g.active) rfl rfl rfl)
  obtain ⟨r, changes, rfl, -⟩ := resolveCard_changes settled
  have settled : r.game.Both P := of_changes counted law changes
  have played : P { r.game.combatant g.active with previousCard := some id } :=
    law.congr (settled g.active) rfl rfl rfl
  have put := law.putAway played id card.trashOnPlay
  rw [away] at put
  exact settled.updateCombatant put

/-! ### Battles and turns -/

/-- The turn's own side begins it, with or without regeneration; the other side
is left alone. -/
theorem startTurn (both : g.Both P) (law : SideLaw P) {next : Game} {events : List BattleEvent}
    (ok : g.startTurn = .ok (next, events)) : next.Both P := by
  obtain ⟨-, c, told, rfl, -, begun⟩ := of_startTurn_eq_ok ok
  have playing : { g with turnPhase := .playing }.Both P := both
  apply playing.updateCombatant
  rcases begun with ⟨rfl, -⟩ | ⟨rfl, -⟩
  · exact law.beginTurn (both g.active)
  · exact law.regenerate (law.beginTurn (both g.active))

theorem endTurn (both : g.Both P) {next : Game} {events : List BattleEvent}
    (ok : g.endTurn = .ok (next, events)) : next.Both P := by
  obtain ⟨-, rfl, -⟩ := of_endTurn_eq_ok ok
  exact both

/-- Stacks that are added from outside a card, as for a play that is spent, keep
the law. -/
theorem addStatus (both : g.Both P) (law : SideLaw P) (side : Side) (s : Status)
    (addend : Binary64) : (g.setCombatant side ((g.combatant side).addStatus s addend)).Both P :=
  both.updateCombatant (law.addStatus (both side) s addend)

theorem consumeExtraPlay (both : g.Both P) (law : SideLaw P) {next : Game}
    (ok : g.consumeExtraPlay = .ok next) : next.Both P := by
  rw [of_consumeExtraPlay_eq_ok ok]
  exact both.addStatus law g.active .extraPlays (-1)

theorem openWounds (both : g.Both P) (law : SideLaw P) (side : Side) :
    (g.openWounds side).Both P := by
  unfold Game.openWounds
  dsimp only
  split
  · exact both.updateCombatant (law.addStatus (both side.other) .bleed _)
  · exact both

theorem startBattle (both : g.Both P) (law : SideLaw P) {next : Game} {events : List BattleEvent}
    (ok : g.startBattle = .ok (next, events)) : next.Both P := by
  unfold Game.startBattle at ok
  split at ok
  · cases ok
    have begun : ({ g with phase := .active, turnPhase := .start }.setTurn 0).Both P := both
    exact (begun.openWounds law .user).openWounds law .opponent
  · cases ok

/-! ### Building decks -/

/-- A new card goes to the end of a deck, which is one of the ways in which the
law lets a deck change. -/
theorem addCard (both : g.Both P) (law : SideLaw P) (side : Side) (card : Card) :
    (g.addCard side card).1.Both P :=
  both.of_update (law.append (both side) _)

theorem addCards (both : g.Both P) (law : SideLaw P) (side : Side) (cards : List Card) :
    (g.addCards side cards).Both P := by
  induction cards generalizing g with
  | nil => exact both
  | cons card rest ih => exact ih (both.addCard law side card)

theorem removeCard (both : g.Both P) (law : SideLaw P) {next : Game} {id : CardId} {card : Card}
    (ok : g.removeCard id = .ok (next, card)) : next.Both P := by
  obtain ⟨owner, -, rfl⟩ := of_removeCard_eq_ok ok
  exact both.of_update (law.forget (both owner) id)

/-- A link puts the owner's deck in another order and the cursor at a card of
it. -/
theorem chainCards (both : g.Both P) (law : SideLaw P) {next : Game} {first second : CardId}
    (ok : g.chainCards first second = .ok next) : next.Both P := by
  obtain ⟨owner, chains, -, -, -, rfl⟩ := chainCards_eq_ok_iff.mp ok
  exact both.of_update (law.rearrange (both owner) _ _)

theorem unlinkCard (both : g.Both P) {next : Game} {id : CardId}
    (ok : g.unlinkCard id = .ok next) : next.Both P := by
  obtain rfl := of_unlinkCard_eq_ok ok
  exact both

/-- The new opponent begins rested, so it obeys the law whatever the one before
it did. -/
theorem loadOpponent (both : g.Both P) (law : SideLaw P) {next : Game} {enemy : Enemy}
    (ok : g.loadOpponent enemy = .ok next) : next.Both P := by
  obtain ⟨-, rfl⟩ := of_loadOpponent_eq_ok ok
  apply addCards _ law
  exact both.updateCombatant (law.rested rfl rfl)

/-! ### Moving cards of a deck -/

theorem discardCurrent (both : g.Both P) (law : SideLaw P) (side : Side) :
    (g.discardCurrent side).1.Both P := by
  unfold Game.discardCurrent
  split
  · exact both.updateCombatant (law.advanceCursor (both side))
  · exact both

theorem trashAt (both : g.Both P) (law : SideLaw P) (side : Side) (index : Nat) :
    (g.trashAt side index).1.Both P := by
  unfold Game.trashAt
  split
  · exact both.updateCombatant (law.trashAt (both side) index _)
  · exact both

theorem shuffleDeck (both : g.Both P) (law : SideLaw P) (side : Side) :
    (g.shuffleDeck side).1.Both P := by
  rw [fst_shuffleDeck]
  have rolled : { g with dice := (g.dice.shuffle (g.combatant side).deck).2 }.Both P := both
  exact rolled.updateCombatant (law.arrange (c := g.combatant side) (both side) (.inl rfl))

end Both

/-! ### Runs -/

/-- Each step of a play keeps a law of combatants for both sides. -/
theorem both_playLaw {P : Combatant → Prop} (law : SideLaw P) :
    PlayLaw (fun _ => False) fun g _ h => g.Both P → h.Both P where
  still _ both := both
  andThen one two both := two (one both)
  startTurn ok both := both.startTurn law ok
  endTurn ok both := both.endTurn ok
  stunned {g _} spent both := by
    rw [Combatant.of_spend?_eq_some spent]
    exact both.addStatus law g.active .stun (-1)
  consumeExtraPlay ok both := both.consumeExtraPlay law ok
  resolveFromDeck _ _ _ ok both := both.resolveFromDeck law ok
  exhaust {g} _ _ both := by
    have ended : { g with phase := .over }.Both P := both
    exact ended.updateCombatant (law.congr (both g.active) rfl rfl rfl)
  decide _ both := both

/-- Each request keeps a law of combatants for both sides. -/
theorem both_kept {P : Combatant → Prop} (law : SideLaw P) : Kept (Both P) where
  startBattle both ok := both.startBattle law ok
  endBattle both ok := by
    obtain ⟨-, -, -, -, rested⟩ := of_endBattle_eq_ok ok
    intro side
    rw [rested]
    exact law.rested rfl rfl
  startTurn both ok := both.startTurn law ok
  playCard both ok := (both_playLaw law).playCard ok (.of_none _ _) both
  consumeExtraPlay both ok := both.consumeExtraPlay law ok
  endTurn both ok := both.endTurn ok
  addCard side card both := both.addCard law side card
  removeCard both ok := both.removeCard law ok
  chainCards both ok := both.chainCards law ok
  unlinkCard both ok := both.unlinkCard ok
  addRelic side _ both := both.updateCombatant (law.congr (both side) rfl rfl rfl)
  loadOpponent both ok := both.loadOpponent law ok
  discardCurrent side both := both.discardCurrent law side
  trashAt side index both := both.trashAt law side index
  shuffleDeck side both := both.shuffleDeck law side
  resetRun _ side := by
    cases side with
    | user => exact law.rested rfl rfl
    | opponent => exact law.rested rfl rfl

/-- A law of combatants holds of both sides in every run. -/
theorem Reachable.both {P : Combatant → Prop} {g : Game} (reached : g.Reachable)
    (law : SideLaw P) : g.Both P := by
  apply (both_kept law).reachable _ reached
  intro rules seed side
  cases side with
  | user => exact law.rested rfl rfl
  | opponent => exact law.rested rfl rfl

end Game

end CardBattle
