/-
Module: CardBattle.Proofs.Game.Disguise
Purpose: Requests to a record in disguise are answered as the record itself answers them.
Main exports:
  Reply.shift, Action.shift, Game.playCard_disguise, Game.runBattle_disguise, Disguise.Suits,
  Game.perform_disguise, Game.answers, Game.answers_disguise
-/
import CardBattle.Proofs.Random.Shuffle
import CardBattle.Proofs.Resolution.Disguise
import CardBattle.Proofs.Resolution.Tally

/-!
# Requests in disguise

A request to a record in disguise names renumbered cards, and so do the reply, the events and the
fault that answer it.  The record that it leaves is the disguise of the one that the request would
leave without.  A few requests see through a disguise: a shuffle rolls the dice, running a turn or a
battle as a whole counts plays, and a new lucky coin gives the dice away.  All others can be made in
a row, as long as nobody has a coin or the dice are the same.
-/

namespace CardBattle

/-! ### Renumbered requests and replies -/

/-- The same report about renumbered cards. -/
def PlayReport.shift (gap : Nat) (report : PlayReport) : PlayReport :=
  { report with events := report.events.map (BattleEvent.shift gap) }

/-- The same result of a battle between renumbered cards. -/
def BattleResult.shift (gap : Nat) (result : BattleResult) : BattleResult :=
  { result with events := result.events.map (BattleEvent.shift gap) }

/-- The same reply about renumbered cards. -/
def Reply.shift (gap : Nat) : Reply → Reply
  | happened events => happened (events.map (BattleEvent.shift gap))
  | played report => played (report.shift gap)
  | fought result => fought (result.map (BattleResult.shift gap))
  | acquired card => acquired (card.shift gap)
  | reply => reply

/-- The same request about renumbered cards. -/
def Action.shift (gap : Nat) : Action → Action
  | removeCard card => removeCard (card.shift gap)
  | chainCards first second => chainCards (first.shift gap) (second.shift gap)
  | unlinkCard card => unlinkCard (card.shift gap)
  | action => action

theorem PlayReport.shift_zero (report : PlayReport) : report.shift 0 = report := by
  rw [shift, BattleEvent.map_shift_zero]

/-- Winner and score name no card, and the events are the same without a gap. -/
theorem BattleResult.shift_zero (result : BattleResult) : result.shift 0 = result := by
  rw [shift, BattleEvent.map_shift_zero]

theorem Reply.shift_zero (reply : Reply) : reply.shift 0 = reply := by
  cases reply with
  | happened events => rw [shift, BattleEvent.map_shift_zero]
  | played report => rw [shift, report.shift_zero]
  | fought result =>
      cases result with
      | none => rfl
      | some result => exact congrArg (fought <| some ·) result.shift_zero
  | _ => rfl

/-- A request without a gap is the request itself, so that a comparison of two
runs needs no renumbering where only the dice differ. -/
theorem Action.shift_zero (action : Action) : action.shift 0 = action := by
  cases action <;> rfl

namespace Disguise

/-- What is told, and the record in disguise. -/
def told (φ : Disguise) (outcome : Game × List BattleEvent) : Game × List BattleEvent :=
  (outcome.1.disguise φ, outcome.2.map (BattleEvent.shift φ.gap))

/-- What a play reports, and the record in disguise. -/
def played (φ : Disguise) (outcome : Game × PlayReport) : Game × PlayReport :=
  (outcome.1.disguise φ, outcome.2.shift φ.gap)

/-- What a request is answered with, and the record in disguise. -/
def answered (φ : Disguise) (outcome : Game × Reply) : Game × Reply :=
  (outcome.1.disguise φ, outcome.2.shift φ.gap)

end Disguise

/-- What a card tells of names no card. -/
theorem BattleEvent.ByCard.shift_eq {side : Side} {event : BattleEvent}
    (byCard : event.ByCard side) (gap : Nat) : event.shift gap = event := by
  cases event with
  | damage source target amount => rfl
  | heal side amount => rfl
  | miss target => rfl
  | _ => exact byCard.elim

variable {φ : Disguise}

/-- Playing a card brings in no relic, so a disguise that hides the dice before
still hides them afterwards. -/
theorem Disguise.Hides.playCard {g next : Game} {report : PlayReport} (hides : φ.Hides g)
    (ok : g.playCard = .ok (next, report)) : φ.Hides next :=
  hides.of_relics (Game.keepsRelics_law.playCard ok (.of_none _ _))

namespace Game

/-- Replacing a combatant by a disguised one is replacing it and disguising the
record. -/
theorem setCombatant_disguise (g : Game) (side : Side) (c : Combatant) :
    (g.disguise φ).setCombatant side (c.shift φ.gap) = (g.setCombatant side c).disguise φ :=
  updateCombatant_disguise_of rfl

/-! ### Battles -/

/-- What relics cut open at the start of a battle is read off the relics alone. -/
theorem openWounds_disguise (g : Game) (side : Side) :
    (g.disguise φ).openWounds side = (g.openWounds side).disguise φ := by
  have bleed : ((g.disguise φ).combatant side).openingBleed =
      (g.combatant side).openingBleed := by
    rw [combatant_disguise]
    rfl
  unfold openWounds
  dsimp only
  rw [bleed]
  split
  · exact updateCombatant_disguise (Combatant.addStatus_shift ..)
  · rfl

/-- A battle begins in disguise, or is refused because one is going on, as it
would without. -/
theorem startBattle_disguise (g : Game) :
    (g.disguise φ).startBattle = Fault.carry φ.gap φ.told g.startBattle := by
  have begun : ({ g.disguise φ with phase := .active, turnPhase := .start }.setTurn 0) =
      ({ g with phase := .active, turnPhase := .start }.setTurn 0).disguise φ := rfl
  unfold startBattle
  dsimp only
  rw [phase_disguise, begun, openWounds_disguise, openWounds_disguise]
  split
  · rfl
  · rfl

theorem winner?_disguise (g : Game) : (g.disguise φ).winner? = g.winner? := by
  have defeated : ∀ side, ((g.disguise φ).combatant side).isDefeated =
      (g.combatant side).isDefeated := by
    intro side
    rw [combatant_disguise]
    rfl
  rw [winner?, defeated, defeated, winner?]

theorem isBattleOver_disguise (g : Game) : (g.disguise φ).isBattleOver = g.isBattleOver := by
  rw [isBattleOver, winner?_disguise, isBattleOver]

/-- Closing a battle counts it for the same side and clears the same fields;
what is left of the piles is renumbered. -/
theorem endBattle_disguise (g : Game) :
    (g.disguise φ).endBattle =
      Fault.carry φ.gap (fun outcome => (outcome.1.disguise φ, outcome.2.shift φ.gap))
        g.endBattle := by
  unfold endBattle
  rw [winner?_disguise]
  cases g.winner? with
  | none => rfl
  | some winner =>
      cases winner with
      | user => rfl
      | opponent => rfl

/-! ### Turns -/

theorem startTurn_disguise (g : Game) :
    (g.disguise φ).startTurn = Fault.carry φ.gap φ.told g.startTurn := by
  have regen : ((g.combatant g.active).beginTurn.shift φ.gap).wholeStacks .regen =
      (g.combatant g.active).beginTurn.wholeStacks .regen := rfl
  have started := setCombatant_disguise (φ := φ) { g with turnPhase := .playing } g.active
  unfold startTurn
  dsimp only
  rw [phase_disguise, active_disguise, combatant_disguise, Combatant.beginTurn_shift, regen,
    Combatant.regenerate_shift]
  split
  · split
    · exact congrArg Except.ok (Prod.ext (started _) rfl)
    · exact congrArg Except.ok (Prod.ext (started _) rfl)
  · rfl

theorem endTurn_disguise (g : Game) :
    (g.disguise φ).endTurn = Fault.carry φ.gap φ.told g.endTurn := by
  unfold endTurn
  rw [phase_disguise]
  split
  · rfl
  · rfl

/-- Whether a turn has to be started first is a matter of the phase, which shows
through the disguise. -/
theorem openTurn_disguise (g : Game) :
    (g.disguise φ).openTurn = Fault.carry φ.gap φ.told g.openTurn := by
  have turnPhase : (g.disguise φ).turnPhase = g.turnPhase := rfl
  unfold openTurn
  rw [turnPhase]
  split
  · exact startTurn_disguise g
  · rfl

theorem consumeExtraPlay_disguise (g : Game) :
    (g.disguise φ).consumeExtraPlay = Fault.carry φ.gap (disguise φ) g.consumeExtraPlay := by
  unfold consumeExtraPlay
  rw [active_disguise, combatant_disguise, Combatant.spend?_shift]
  cases (g.combatant g.active).spend? .extraPlays with
  | none => rfl
  | some rest => exact congrArg Except.ok (setCombatant_disguise ..)

theorem finishTurn_disguise (g : Game) (events : List BattleEvent) :
    (g.disguise φ).finishTurn (events.map (BattleEvent.shift φ.gap)) =
      Fault.carry φ.gap φ.played (g.finishTurn events) := by
  unfold finishTurn
  rw [endTurn_disguise]
  cases g.endTurn with
  | error fault => rfl
  | ok outcome => simp [Disguise.told, Disguise.played, PlayReport.shift]

/-- A side without a card loses the same health in disguise, since its deck is
empty under any numbers. -/
theorem exhaust_disguise (g : Game) (events : List BattleEvent) :
    (g.disguise φ).exhaust (events.map (BattleEvent.shift φ.gap)) =
      φ.played (g.exhaust events) := by
  have health : ((g.combatant g.active).shift φ.gap).health = (g.combatant g.active).health := rfl
  unfold exhaust
  dsimp only
  rw [active_disguise, combatant_disguise, health]
  refine Prod.ext (updateCombatant_disguise (g := { g with phase := .over }) rfl) ?_
  simp [Disguise.played, PlayReport.shift, BattleEvent.shift]

/-- What follows a resolved card depends on health and further plays, so it is
the same outcome with a renumbered log. -/
theorem afterCard_disguise (g : Game) (events : List BattleEvent) :
    (g.disguise φ).afterCard (events.map (BattleEvent.shift φ.gap)) =
      Fault.carry φ.gap φ.played (g.afterCard events) := by
  have left : ((g.combatant g.active).shift φ.gap).wholeStacks .extraPlays =
      (g.combatant g.active).wholeStacks .extraPlays := rfl
  unfold afterCard
  rw [isBattleOver_disguise, active_disguise, combatant_disguise, left, consumeExtraPlay_disguise,
    finishTurn_disguise]
  split
  · rfl
  · split
    · cases g.consumeExtraPlay with
      | error fault => rfl
      | ok spent => rfl
    · rfl

/-- The renumbered card is found in the pool, resolved and put away as the card
would be without the disguise.  This is where the events come to name renumbered
cards. -/
theorem resolveFromDeck_disguise {g : Game} (hides : φ.Hides g) (id : CardId) :
    (g.disguise φ).resolveFromDeck (id.shift φ.gap) =
      Fault.carry φ.gap φ.told (g.resolveFromDeck id) := by
  unfold resolveFromDeck
  rw [pool_disguise, active_disguise, CardPool.get_shift]
  cases g.pool.get id with
  | error fault => rfl
  | ok card =>
      dsimp only [Fault.carry_ok]
      rw [updateCombatant_disguise (by rfl), resolveCard_disguise (hides.of_table
        (table_updateCombatant rfl))]
      cases settled : (g.updateCombatant g.active fun c =>
          { c with cardsPlayedThisTurn := c.cardsPlayedThisTurn + 1 }).resolveCard card with
      | error fault => rfl
      | ok outcome =>
          obtain ⟨resolved, happened⟩ := outcome
          have alike : happened.map (BattleEvent.shift φ.gap) = happened :=
            (List.map_congr_left fun event mem =>
              (resolveCard_byCard settled event mem).shift_eq φ.gap).trans (List.map_id _)
          have played : { (resolved.combatant g.active).shift φ.gap with
              previousCard := some (id.shift φ.gap) } =
              ({ resolved.combatant g.active with previousCard := some id } : Combatant).shift
                φ.gap := rfl
          dsimp only [Fault.carry_ok]
          rw [combatant_disguise, played, Combatant.putAway_shift]
          generalize { resolved.combatant g.active with previousCard := some id }.putAway id
            card.trashOnPlay = away
          rw [setCombatant_disguise]
          simp only [Disguise.told, List.map_append, List.map_cons, alike]
          split
          · rfl
          · rfl

/-- A card is played in disguise as it is without. -/
theorem playCard_disguise {g : Game} (hides : φ.Hides g) :
    (g.disguise φ).playCard = Fault.carry φ.gap φ.played g.playCard := by
  unfold playCard
  rw [phase_disguise, active_disguise, openTurn_disguise]
  split
  · cases opens : g.openTurn with
    | error fault => rfl
    | ok outcome =>
        obtain ⟨opened, opening⟩ := outcome
        dsimp only [Fault.carry_ok, Disguise.told]
        rw [combatant_disguise, Combatant.spend?_shift, Combatant.currentCard?_shift]
        cases (opened.combatant g.active).spend? .stun with
        | some rest =>
            dsimp only [Option.map]
            rw [setCombatant_disguise, ← finishTurn_disguise, List.map_append]
            rfl
        | none =>
            cases (opened.combatant g.active).currentCard? with
            | none => exact congrArg Except.ok (exhaust_disguise ..)
            | some id =>
                have hidden : φ.Hides opened := hides.of_relics (keepsRelics_law.openTurn opens)
                dsimp only [Option.map]
                rw [resolveFromDeck_disguise hidden]
                cases opened.resolveFromDeck id with
                | error fault => rfl
                | ok outcome =>
                    dsimp only [Fault.carry_ok, Disguise.told]
                    rw [← List.map_append, afterCard_disguise]
  · rfl

/-! ### Whole turns and battles -/

/-- Plays in a row stay in step, because each ends in the same outcome and this
is all that decides on another.  The count is the argument here and not yet the
rule. -/
theorem runPlays_disguise (plays : Nat) {g : Game} (hides : φ.Hides g)
    (events : List BattleEvent) :
    runPlays plays (g.disguise φ) (events.map (BattleEvent.shift φ.gap)) =
      Fault.carry φ.gap φ.told (runPlays plays g events) := by
  induction plays generalizing g events with
  | zero => rfl
  | succ plays ih =>
      rw [runPlays, playCard_disguise hides, runPlays]
      cases played : g.playCard with
      | error fault => rfl
      | ok outcome =>
          obtain ⟨next, report⟩ := outcome
          have outcome : (report.shift φ.gap).outcome = report.outcome := rfl
          have told : (report.shift φ.gap).events = report.events.map (BattleEvent.shift φ.gap) :=
            rfl
          dsimp only [Fault.carry_ok, Disguise.played]
          rw [outcome, told, ← List.map_append]
          split
          · exact ih (hides.playCard played) _
          · rfl

/-- Running a turn as a whole reads the number of plays that the rules allow, so
the disguise must leave this number alone. -/
theorem runTurn_disguise {g : Game} (hides : φ.Hides g) (counts : φ.plays = id) :
    (g.disguise φ).runTurn = Fault.carry φ.gap φ.told g.runTurn := by
  have plays : (g.disguise φ).rules.maxPlaysPerTurn = g.rules.maxPlaysPerTurn := by
    show φ.plays g.rules.maxPlaysPerTurn = g.rules.maxPlaysPerTurn
    rw [counts]
    rfl
  rw [runTurn, plays]
  exact runPlays_disguise _ hides []

/-- Turns in a row stay in step, by induction on how many of them may still be
run. -/
theorem runTurns_disguise (turns : Nat) {g : Game} (hides : φ.Hides g) (counts : φ.plays = id) :
    runTurns turns (g.disguise φ) = Fault.carry φ.gap (disguise φ) (runTurns turns g) := by
  induction turns generalizing g with
  | zero => rfl
  | succ turns ih =>
      rw [runTurns, phase_disguise, runTurn_disguise hides counts, runTurns]
      split
      · rfl
      · cases turned : g.runTurn with
        | error fault => rfl
        | ok outcome => exact ih (runTurn_preserves Disguise.Hides.playCard hides turned)

theorem enterBattle_disguise (g : Game) :
    (g.disguise φ).enterBattle = Fault.carry φ.gap (disguise φ) g.enterBattle := by
  unfold enterBattle
  rw [phase_disguise, startBattle_disguise]
  split
  · cases g.startBattle with
    | error fault => rfl
    | ok outcome => rfl
  · rfl

/-- A whole battle ends in disguise with the same winner and score, or stays
undecided after the same turns. -/
theorem runBattle_disguise {g : Game} (hides : φ.Hides g) (counts : φ.plays = id)
    (maxTurns : Nat) :
    (g.disguise φ).runBattle maxTurns =
      Fault.carry φ.gap
        (fun outcome => (outcome.1.disguise φ, outcome.2.map (BattleResult.shift φ.gap)))
        (g.runBattle maxTurns) := by
  unfold runBattle
  rw [enterBattle_disguise]
  cases enters : g.enterBattle with
  | error fault => rfl
  | ok started =>
      have hidden : φ.Hides started := by
        rcases of_enterBattle_eq_ok enters with ⟨events, starts⟩ | ⟨-, rfl⟩
        · exact hides.imp_right fun coinless => Wears.startBattle coinless starts
        · exact hides
      dsimp only [Fault.carry_ok]
      rw [runTurns_disguise maxTurns hidden counts]
      cases runTurns maxTurns started with
      | error fault => rfl
      | ok played =>
          dsimp only [Fault.carry_ok]
          rw [phase_disguise, endBattle_disguise]
          split
          · cases played.endBattle with
            | error fault => rfl
            | ok outcome => rfl
          · rfl

/-! ### Building decks -/

/-- A new card gets numbers that are a gap apart in the two records, and goes to
the bottom of both decks. -/
theorem addCard_disguise (g : Game) (side : Side) (card : Card) :
    (g.disguise φ).addCard side card =
      ((g.addCard side card).1.disguise φ, (g.addCard side card).2.shift φ.gap) := by
  unfold addCard
  rw [pool_disguise, CardPool.insert_shift]
  refine Prod.ext ?_ rfl
  refine updateCombatant_disguise_of (g := { g with pool := (g.pool.insert card side).2 }) ?_
  simp [Combatant.shift]

/-- Cards given one after the other get consecutive numbers in both records. -/
theorem addCards_disguise (g : Game) (side : Side) (cards : List Card) :
    (g.disguise φ).addCards side cards = (g.addCards side cards).disguise φ := by
  induction cards generalizing g with
  | nil => rfl
  | cons card rest ih =>
      rw [addCards, List.foldl_cons, addCard_disguise]
      exact ih _

/-- The same card leaves the run under its renumbered name, and a fault about a
missing one names it so as well. -/
theorem removeCard_disguise (g : Game) (id : CardId) :
    (g.disguise φ).removeCard (id.shift φ.gap) =
      Fault.carry φ.gap (fun outcome => (outcome.1.disguise φ, outcome.2)) (g.removeCard id) := by
  have found : (g.pool.shift φ.gap).cards.find? (id.shift φ.gap) = g.pool.cards.find? id :=
    (OrderedMap.find?_shiftKeys ..).trans Option.map_id'
  unfold removeCard
  rw [pool_disguise, found, CardPool.erase_shift]
  cases g.pool.cards.find? id with
  | none => rfl
  | some entry =>
      refine congrArg (fun next => Except.ok (next, entry.card)) ?_
      exact updateCombatant_disguise_of (g := { g with pool := g.pool.erase id })
        (Combatant.forget_shift ..)

/-- Putting chains together and finding the cursor's card again commute with
renumbering. -/
theorem rearrange_disguise (g : Game) (side : Side) :
    (g.disguise φ).rearrange side = (g.rearrange side).disguise φ := by
  have arranged : (g.disguise φ).pool.chains.arrange ((g.combatant side).shift φ.gap).deck =
      (g.pool.chains.arrange (g.combatant side).deck).map (CardId.shift φ.gap) :=
    Chains.arrange_shift ..
  refine updateCombatant_disguise_of ?_
  dsimp only
  rw [arranged, Combatant.currentCard?_shift, Option.bind_map]
  have position : (fun id => Combatant.deckPosition?
        { (g.combatant side).shift φ.gap with
          deck := (g.pool.chains.arrange (g.combatant side).deck).map (CardId.shift φ.gap) }
        (CardId.shift φ.gap id)) =
      Combatant.deckPosition?
        { g.combatant side with deck := g.pool.chains.arrange (g.combatant side).deck } := by
    funext id
    exact idxOf?_map_shift ..
  rw [Function.comp_def, position]
  rfl

/-- A link is made or refused in disguise as without, and the deck ends in the
same order. -/
theorem chainCards_disguise (g : Game) (first second : CardId) :
    (g.disguise φ).chainCards (first.shift φ.gap) (second.shift φ.gap) =
      Fault.carry φ.gap (disguise φ) (g.chainCards first second) := by
  unfold chainCards
  rw [pool_disguise, CardPool.link_shift]
  cases g.pool.link first second with
  | error fault => rfl
  | ok linked =>
      dsimp only [Fault.carry_ok]
      rw [CardPool.owner?_shift]
      cases linked.owner? first with
      | none => rfl
      | some owner => exact congrArg Except.ok (rearrange_disguise { g with pool := linked } owner)

theorem unlinkCard_disguise (g : Game) (id : CardId) :
    (g.disguise φ).unlinkCard (id.shift φ.gap) =
      Fault.carry φ.gap (disguise φ) (g.unlinkCard id) := by
  unfold unlinkCard
  rw [pool_disguise, CardPool.unlink_shift]
  cases g.pool.unlink id with
  | error fault => rfl
  | ok unlinked => rfl

/-- Relics carry no card numbers, so a new one is the same in disguise. -/
theorem addRelic_disguise (g : Game) (side : Side) (relic : Relic) :
    (g.disguise φ).addRelic side relic = (g.addRelic side relic).disguise φ :=
  updateCombatant_disguise rfl

/-- The enemy's cards are stored under the next numbers of either record.  Those
of the enemy before it leave both pools. -/
theorem loadOpponent_disguise (g : Game) (enemy : Enemy) :
    (g.disguise φ).loadOpponent enemy =
      Fault.carry φ.gap (disguise φ) (g.loadOpponent enemy) := by
  have old : ((g.disguise φ).combatant .opponent).deck ++
      ((g.disguise φ).combatant .opponent).trashed =
      ((g.combatant .opponent).deck ++ (g.combatant .opponent).trashed).map
        (CardId.shift φ.gap) := by
    rw [combatant_disguise, List.map_append]
    rfl
  have cleared (h : Game) (ids : List CardId) :
      (h.disguise φ).discardFromPool (ids.map (CardId.shift φ.gap)) =
        (h.discardFromPool ids).disguise φ := by
    rw [discardFromPool, pool_disguise, CardPool.eraseAll_shift]
    rfl
  unfold loadOpponent
  dsimp only
  rw [phase_disguise, old, updateCombatant_disguise (by rfl), cleared, addCards_disguise]
  split
  · rfl
  · rfl

/-! ### Piles -/

/-- The card under the cursor is passed over, and the event names it by its new
number. -/
theorem discardCurrent_disguise (g : Game) (side : Side) :
    (g.disguise φ).discardCurrent side = φ.told (g.discardCurrent side) := by
  unfold discardCurrent
  rw [combatant_disguise, Combatant.currentCard?_shift]
  cases (g.combatant side).currentCard? with
  | none => rfl
  | some id =>
      exact Prod.ext (updateCombatant_disguise (Combatant.advanceCursor_shift ..)) rfl

/-- A place in the deck is the same in disguise, and so is the card at it but
for its number. -/
theorem trashAt_disguise (g : Game) (side : Side) (index : Nat) :
    (g.disguise φ).trashAt side index = φ.told (g.trashAt side index) := by
  have here : ((g.combatant side).shift φ.gap).deck[index]? =
      (g.combatant side).deck[index]?.map (CardId.shift φ.gap) := List.getElem?_map ..
  unfold trashAt
  rw [combatant_disguise, here]
  cases (g.combatant side).deck[index]? with
  | none => rfl
  | some id => exact Prod.ext (updateCombatant_disguise_of (Combatant.trashAt_shift ..)) rfl

/-- The place after the cursor is the same in disguise, and a single card is
left alone in both. -/
theorem trashNext_disguise (g : Game) (side : Side) :
    (g.disguise φ).trashNext side = φ.told (g.trashNext side) := by
  have length : ((g.combatant side).shift φ.gap).deck.length = (g.combatant side).deck.length :=
    List.length_map ..
  unfold trashNext
  dsimp only
  rw [combatant_disguise, length, trashAt_disguise]
  split
  · rfl
  · rfl

theorem trashCurrent_disguise (g : Game) (side : Side) :
    (g.disguise φ).trashCurrent side = φ.told (g.trashCurrent side) := by
  rw [trashCurrent, combatant_disguise, trashAt_disguise]
  rfl

/-- The same dice shuffle renumbered cards into the same order. -/
theorem shuffleDeck_disguise (g : Game) (side : Side) (rolls : φ.dice = id) :
    (g.disguise φ).shuffleDeck side = φ.told (g.shuffleDeck side) := by
  have dice : (g.disguise φ).dice = g.dice := congrFun rolls g.dice
  have deck : ((g.combatant side).shift φ.gap).deck =
      (g.combatant side).deck.map (CardId.shift φ.gap) := rfl
  have shuffled (order : List CardId) (rest : Dice) :
      ({ g.disguise φ with dice := rest }.updateCombatant side fun c =>
        { c with deck := order.map (CardId.shift φ.gap) }) =
      ({ g with dice := rest }.updateCombatant side fun c =>
        { c with deck := order }).disguise φ := by
    have rolled : { g.disguise φ with dice := rest } = { g with dice := rest }.disguise φ :=
      congrArg (fun dice => { g.disguise φ with dice := dice }) (congrFun rolls rest).symm
    exact (congrArg (updateCombatant · side _) rolled).trans (updateCombatant_disguise_of rfl)
  unfold shuffleDeck
  rw [dice, combatant_disguise, deck, Dice.shuffle_map]
  dsimp only
  rw [shuffled, rearrange_disguise, updateCombatant_disguise (by rfl)]
  rfl

/-- A reset keeps the next number and the dice, and these are just what a
disguise changes; everything else is made anew in both. -/
theorem resetRun_disguise (g : Game) : (g.disguise φ).resetRun = g.resetRun.disguise φ := rfl

end Game

/-! ### Any requests -/

/-- What a disguise has to leave alone, or a request to bring in, for both to go
together. -/
def Disguise.Suits (φ : Disguise) : Action → Prop
  | .runTurn | .runBattle _ => φ.plays = id
  | .shuffleDeck _ => φ.dice = id
  | .addRelic _ relic => φ.dice = id ∨ relic.Diceless
  | .loadOpponent enemy => φ.dice = id ∨ ∀ relic ∈ enemy.relics, relic.Diceless
  | .rewind _ => False
  | _ => True

namespace Game

/-- One request, made in disguise, is answered as it is without. -/
theorem perform_disguise {g : Game} (hides : φ.Hides g) {action : Action} (suits : φ.Suits action) :
    (g.disguise φ).perform (action.shift φ.gap) =
      Fault.carry φ.gap φ.answered (g.perform action) := by
  have tells {outcome shifted : Game × List BattleEvent} (same : shifted = φ.told outcome) :
      Except.ok (shifted.1, Reply.happened shifted.2) =
        Fault.carry φ.gap φ.answered (.ok (outcome.1, .happened outcome.2)) := by
    rw [same]
    rfl
  cases action with
  | startBattle => exact Fault.map_of_eq_carry (startBattle_disguise g) fun _ => rfl
  | endBattle => exact Fault.map_of_eq_carry (endBattle_disguise g) fun _ => rfl
  | startTurn => exact Fault.map_of_eq_carry (startTurn_disguise g) fun _ => rfl
  | playCard => exact Fault.map_of_eq_carry (playCard_disguise hides) fun _ => rfl
  | consumeExtraPlay =>
      have same : Action.consumeExtraPlay.shift φ.gap = .consumeExtraPlay := rfl
      -- Unfolding by evaluation would compute the counter that is spent.
      rw [same, perform, perform]
      exact Fault.map_of_eq_carry (consumeExtraPlay_disguise g) fun _ => rfl
  | endTurn => exact Fault.map_of_eq_carry (endTurn_disguise g) fun _ => rfl
  | runTurn => exact Fault.map_of_eq_carry (runTurn_disguise hides suits) fun _ => rfl
  | runBattle maxTurns =>
      exact Fault.map_of_eq_carry (runBattle_disguise hides suits maxTurns) fun _ => rfl
  | addCard side card =>
      exact congrArg (fun outcome => Except.ok (outcome.1, Reply.acquired outcome.2))
        (addCard_disguise g side card)
  | removeCard id => exact Fault.map_of_eq_carry (removeCard_disguise g id) fun _ => rfl
  | chainCards first second =>
      exact Fault.map_of_eq_carry (chainCards_disguise g first second) fun _ => rfl
  | unlinkCard id => exact Fault.map_of_eq_carry (unlinkCard_disguise g id) fun _ => rfl
  | addRelic side relic =>
      exact congrArg (fun next => Except.ok (next, Reply.done)) (addRelic_disguise g side relic)
  | loadOpponent enemy => exact Fault.map_of_eq_carry (loadOpponent_disguise g enemy) fun _ => rfl
  | discardCurrent side => exact tells (discardCurrent_disguise g side)
  | trashCurrent side => exact tells (trashCurrent_disguise g side)
  | trashNext side => exact tells (trashNext_disguise g side)
  | shuffleDeck side => exact tells (shuffleDeck_disguise g side suits)
  | rewind snapshot => exact suits.elim
  | resetRun => exact congrArg (fun next => Except.ok (next, Reply.done)) (resetRun_disguise g)

/-- A refused request leaves a record as it is, so the records after a request
are in step whether it is granted or not. -/
theorem after_disguise {g : Game} (hides : φ.Hides g) {action : Action}
    (suits : φ.Suits action) :
    (g.disguise φ).after (action.shift φ.gap) = (g.after action).disguise φ := by
  rw [after, perform_disguise hides suits, after]
  cases g.perform action with
  | error fault => rfl
  | ok outcome => rfl

/-- No request that suits a disguise gives away what it hides. -/
theorem hides_after {g : Game} (hides : φ.Hides g) {action : Action} (suits : φ.Suits action) :
    φ.Hides (g.after action) := by
  rcases Classical.em (φ.dice = id) with same | other
  · exact .inl same
  · have kept : KeptBy φ.Suits Coinless :=
      wears_kept (fun _ _ fair => fair.resolve_left other) fun _ fair => fair.resolve_left other
    have coinless : g.Coinless := hides.resolve_left other
    refine .inr ?_
    unfold after
    split
    · rename_i done
      refine kept.perform coinless suits ?_ done
      rintro snapshot rfl
      exact suits.elim
    · exact coinless

/-! ### Requests in a row -/

/-- What requests in a row are answered with.  A refused one leaves the record
as it is. -/
def answers (g : Game) : List Action → List (Except Fault Reply)
  | [] => []
  | action :: rest => (g.perform action).map Prod.snd :: (g.after action).answers rest

/-- Requests in a row, made in disguise, are answered as they are without, and
lead to the same record in disguise. -/
theorem answers_disguise {g : Game} (hides : φ.Hides g) {actions : List Action}
    (suits : ∀ action ∈ actions, φ.Suits action) :
    (g.disguise φ).answers (actions.map (Action.shift φ.gap)) =
        (g.answers actions).map (Fault.carry φ.gap (Reply.shift φ.gap)) ∧
      (actions.map (Action.shift φ.gap)).foldl after (g.disguise φ) =
        (actions.foldl after g).disguise φ := by
  induction actions generalizing g with
  | nil => exact ⟨rfl, rfl⟩
  | cons action rest ih =>
      have now := suits action (List.mem_cons_self ..)
      obtain ⟨answers, last⟩ := ih (hides_after hides now) fun other mem =>
        suits other (List.mem_cons_of_mem _ mem)
      have answer : ((g.disguise φ).perform (action.shift φ.gap)).map Prod.snd =
          Fault.carry φ.gap (Reply.shift φ.gap) ((g.perform action).map Prod.snd) :=
        Fault.map_of_eq_carry (perform_disguise hides now) fun _ => rfl
      have next := after_disguise hides now
      constructor
      · rw [List.map_cons, Game.answers, answer, next, answers]
        rfl
      · rw [List.map_cons, List.foldl_cons, next, last]
        rfl

end Game

end CardBattle
