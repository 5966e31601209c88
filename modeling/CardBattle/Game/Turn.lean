/-
Module: CardBattle.Game.Turn
Purpose: Turns: how one starts, what playing a card does, how it ends, and whole turns and battles.
Main exports:
  PlayOutcome, PlayReport, Game.startTurn, Game.playCard, Game.endTurn, Game.consumeExtraPlay,
  Game.runTurn, Game.runBattle
-/
import CardBattle.Game.Battle
import CardBattle.Resolution.Effects

namespace CardBattle

/-- How playing a card ended. -/
inductive PlayOutcome where
  /-- A further play was spent, and the same side plays again. -/
  | extraPlay
  /-- The turn passed to the other side. -/
  | turnEnded
  /-- The active side had no card and lost all its health. -/
  | deckExhausted
  /-- A combatant has no health left. -/
  | battleOver
deriving Repr, DecidableEq

/-- Written name. -/
def PlayOutcome.name : PlayOutcome → String
  | .extraPlay => "ExtraPlay"
  | .turnEnded => "TurnEnded"
  | .deckExhausted => "DeckExhausted"
  | .battleOver => "BattleOver"

instance : Named PlayOutcome where
  all := [.extraPlay, .turnEnded, .deckExhausted, .battleOver]
  name := PlayOutcome.name
  find_name := fun a => by cases a <;> rfl

/-- What is reported when a card has been played. -/
structure PlayReport where
  outcome : PlayOutcome
  events : List BattleEvent
deriving Repr, DecidableEq

/-- The combatant at the start of its turn: counters that lasted until then are
dropped, and the damage dealt becomes that of the turn before. -/
def Combatant.beginTurn (c : Combatant) : Combatant :=
  { c.clearTemporary with
    cardsPlayedThisTurn := 0
    damageLastTurn := c.damageThisTurn
    damageThisTurn := 0 }

/-- The combatant after its regeneration. -/
def Combatant.regenerate (c : Combatant) : Combatant :=
  { c with health := c.health + c.wholeStacks .regen }.addStatus .regen (-1)

/-- The combatant after playing a card: the card goes to the trashed pile if it
says so and is still in the deck, and otherwise the cursor moves on. -/
def Combatant.putAway (c : Combatant) (id : CardId) (trash : Bool) : Combatant × Bool :=
  match trash, c.deckPosition? id with
  | true, some index => (c.trashAt index id, true)
  | _, _ => (c.advanceCursor, false)

namespace Game

/-- Start the turn of the active side. -/
def startTurn (g : Game) : Except Fault (Game × List BattleEvent) :=
  if g.phase = .active then
    let begun := (g.combatant g.active).beginTurn
    let regen := begun.wholeStacks .regen
    let started := { g with turnPhase := .playing }
    if 0 < regen then
      .ok (started.setCombatant g.active begun.regenerate,
        [.turnStarted g.active g.turn, .heal g.active regen])
    else .ok (started.setCombatant g.active begun, [.turnStarted g.active g.turn])
  else .error (.noBattle .startTurn)

/-- Pass the turn to the other side. -/
def endTurn (g : Game) : Except Fault (Game × List BattleEvent) :=
  if g.phase = .active then
    .ok ({ g with turnPhase := .start }.setTurn (g.turn + 1), [.turnEnded g.active])
  else .error (.noBattle .endTurn)

/-- Start the turn of the active side unless it has started. -/
def openTurn (g : Game) : Except Fault (Game × List BattleEvent) :=
  if g.turnPhase = .start then g.startTurn else .ok (g, [])

/-- Spend one further play of the active side. -/
def consumeExtraPlay (g : Game) : Except Fault Game :=
  match (g.combatant g.active).spend? .extraPlays with
  | some rest => .ok (g.setCombatant g.active rest)
  | none => .error .noExtraPlay

/-- End the turn as the last thing that a play did. -/
def finishTurn (g : Game) (events : List BattleEvent) : Except Fault (Game × PlayReport) :=
  match g.endTurn with
  | .ok (ended, last) => .ok (ended, ⟨.turnEnded, events ++ last⟩)
  | .error fault => .error fault

/-- The loss of a side without a card to play: all its health at once, and no
relic answers. -/
def exhaust (g : Game) (events : List BattleEvent) : Game × PlayReport :=
  let amount := max (g.combatant g.active).health 0
  ({ g with phase := .over }.updateCombatant g.active fun c =>
      { c with health := c.health - amount },
    ⟨.deckExhausted, events ++ [.damage g.active g.active amount]⟩)

/-- What comes after a card has resolved: the battle may be over, the side may
play again, or the turn ends. -/
def afterCard (g : Game) (events : List BattleEvent) : Except Fault (Game × PlayReport) :=
  if g.isBattleOver then .ok ({ g with phase := .over }, ⟨.battleOver, events⟩)
  else if 0 < (g.combatant g.active).wholeStacks .extraPlays then
    match g.consumeExtraPlay with
    | .ok spent => .ok (spent, ⟨.extraPlay, events⟩)
    | .error fault => .error fault
  else g.finishTurn events

/-- Resolve a card from the active side's deck and put it away. -/
def resolveFromDeck (g : Game) (id : CardId) :
    Except Fault (Game × List BattleEvent) :=
  match g.pool.get id with
  | .error fault => .error fault
  | .ok card =>
      let counted := g.updateCombatant g.active fun c =>
        { c with cardsPlayedThisTurn := c.cardsPlayedThisTurn + 1 }
      match counted.resolveCard card with
      | .error fault => .error fault
      | .ok (resolved, happened) =>
          let (rest, trashed) :=
            { resolved.combatant g.active with previousCard := some id }.putAway id
              card.trashOnPlay
          .ok (resolved.setCombatant g.active rest,
            .cardPlayed g.active id :: happened ++
              if trashed then [.cardTrashed g.active id] else [])

/-- Play the active side's current card.  The turn is started if need be; a
stunned side loses its play, and a side without a card loses the battle. -/
def playCard (g : Game) : Except Fault (Game × PlayReport) :=
  if g.phase = .active then
    match g.openTurn with
    | .error fault => .error fault
    | .ok (opened, opening) =>
        match (opened.combatant g.active).spend? .stun with
        | some rest =>
            (opened.setCombatant g.active rest).finishTurn (opening ++ [.stunned g.active])
        | none =>
            match (opened.combatant g.active).currentCard? with
            | none => .ok (opened.exhaust opening)
            | some id =>
                match opened.resolveFromDeck id with
                | .error fault => .error fault
                | .ok (resolved, happened) => resolved.afterCard (opening ++ happened)
  else .error (.noBattle .playCard)

/-- Play cards until the turn passes, the battle is decided, or a number of
plays is made. -/
def runPlays : (plays : Nat) → Game → List BattleEvent → Except Fault (Game × List BattleEvent)
  | 0, g, events => .ok (g, events)
  | plays + 1, g, events =>
      match g.playCard with
      | .error fault => .error fault
      | .ok (played, report) =>
          if report.outcome = .extraPlay then runPlays plays played (events ++ report.events)
          else .ok (played, events ++ report.events)

/-- Play cards until the turn passes or the battle is decided, but at most as
many as the rules allow at once; the next call goes on with the same turn. -/
def runTurn (g : Game) : Except Fault (Game × List BattleEvent) :=
  runPlays g.rules.maxPlaysPerTurn g []

/-- Run turns until the battle is decided or a number of them is made. -/
def runTurns : (turns : Nat) → Game → Except Fault Game
  | 0, g => .ok g
  | turns + 1, g =>
      if g.phase = .over then .ok g
      else
        match g.runTurn with
        | .error fault => .error fault
        | .ok (next, _) => runTurns turns next

/-- Start the battle unless one is going on. -/
def enterBattle (g : Game) : Except Fault Game :=
  if g.phase = .idle then
    match g.startBattle with
    | .ok (started, _) => .ok started
    | .error fault => .error fault
  else .ok g

/-- Run a whole battle and close it; nothing is reported while it is undecided
after `maxTurns` turns. -/
def runBattle (g : Game) (maxTurns : Nat) : Except Fault (Game × Option BattleResult) :=
  match g.enterBattle with
  | .error fault => .error fault
  | .ok started =>
      match runTurns maxTurns started with
      | .error fault => .error fault
      | .ok played =>
          if played.phase = .over then
            match played.endBattle with
            | .ok (closed, result) => .ok (closed, some result)
            | .error fault => .error fault
          else .ok (played, none)

end Game

end CardBattle
