/-
Module: CardBattle.Game.DeckBuilding
Purpose: How cards, links and relics come to a side and leave it, and how opponents are loaded.
Main exports:
  Game.addCard, Game.removeCard, Game.chainCards, Game.unlinkCard, Game.addRelic,
  Game.loadOpponent, Enemy.create
-/
import CardBattle.Game.Basic

namespace CardBattle

/-- An enemy without cards or relics. -/
def Enemy.create (name : String) (health : Int) : Except Fault Enemy :=
  if 0 < health then .ok { name := name, health := health, cards := [] }
  else .error (.notPositive .enemyHealth)

/-- The combatant without a card that has left the run. -/
def Combatant.forget (c : Combatant) (id : CardId) : Combatant :=
  let rest :=
    match c.deckPosition? id with
    | some index => c.dropAt index
    | none => c
  { rest with trashed := rest.trashed.filter fun other => other ≠ id }

/-- The combatant as an enemy brings it into a battle, still without cards. -/
def Combatant.become (c : Combatant) (enemy : Enemy) : Combatant :=
  { c with
    deck := []
    trashed := []
    relics := enemy.relics
    startingHealth := enemy.health
    maxHealth := enemy.health }.resetForBattle

namespace Game

/-- Give a card to a side, at the bottom of its deck. -/
def addCard (g : Game) (side : Side) (card : Card) : Game × CardId :=
  let (id, pool) := g.pool.insert card side
  ({ g with pool := pool }.updateCombatant side fun c => { c with deck := c.deck ++ [id] }, id)

/-- Give cards to a side, one after the other. -/
def addCards (g : Game) (side : Side) (cards : List Card) : Game :=
  cards.foldl (fun g card => (g.addCard side card).1) g

/-- Take a card out of the run, with its links. -/
def removeCard (g : Game) (id : CardId) : Except Fault (Game × Card) :=
  match g.pool.cards.find? id with
  | none => .error (.unknownCard id)
  | some ⟨card, owner⟩ =>
      .ok ({ g with pool := g.pool.erase id }.updateCombatant owner fun c => c.forget id, card)

/-- Put the chains of a side's deck together.  The cursor stays on its card. -/
def rearrange (g : Game) (side : Side) : Game :=
  g.updateCombatant side fun c =>
    let arranged := { c with deck := g.pool.chains.arrange c.deck }
    { arranged with cursor := (c.currentCard?.bind arranged.deckPosition?).getD 0 }

/-- Let one card be played right after another, and reorder their owner's deck. -/
def chainCards (g : Game) (first second : CardId) : Except Fault Game :=
  match g.pool.link first second with
  | .error fault => .error fault
  | .ok pool =>
      let linked := { g with pool := pool }
      match pool.owner? first with
      | some owner => .ok (linked.rearrange owner)
      | none => .ok linked

/-- Remove every link of a card.  The deck keeps its order. -/
def unlinkCard (g : Game) (id : CardId) : Except Fault Game :=
  match g.pool.unlink id with
  | .ok pool => .ok { g with pool := pool }
  | .error fault => .error fault

/-- Give a relic to a side. -/
def addRelic (g : Game) (side : Side) (relic : Relic) : Game :=
  g.updateCombatant side fun c => { c with relics := c.relics ++ [relic] }

/-- Take cards out of the run without looking at the decks. -/
def discardFromPool (g : Game) (ids : List CardId) : Game :=
  { g with pool := ids.foldl CardPool.erase g.pool }

/-- Put a scripted enemy in the opponent's place.  Cards of the opponent before
it leave the run. -/
def loadOpponent (g : Game) (enemy : Enemy) : Except Fault Game :=
  if g.phase = .idle then
    let old := (g.combatant .opponent).deck ++ (g.combatant .opponent).trashed
    let cleared := (g.updateCombatant .opponent fun c => c.become enemy).discardFromPool old
    .ok (cleared.addCards .opponent enemy.cards)
  else .error .opponentBusy

end Game

end CardBattle
