/-
Module: CardBattle.Game.Basic
Purpose: The record of a run: both combatants, all cards, turn, phase, score and dice.
Main exports:
  BattlePhase, TurnPhase, Game, Game.fresh, Game.combatant, Game.updateCombatant, Game.setTurn
-/
import CardBattle.Card.Pool
import CardBattle.Combatant
import CardBattle.Random.Dice
import CardBattle.Rules

namespace CardBattle

/-- Where a run stands between and within battles. -/
inductive BattlePhase where
  /-- Between battles. -/
  | idle
  /-- Cards are being played. -/
  | active
  /-- A combatant has no health left, and the battle waits to be closed. -/
  | over
deriving Repr, Inhabited, DecidableEq

/-- Written name. -/
def BattlePhase.name : BattlePhase → String
  | .idle => "Idle"
  | .active => "Active"
  | .over => "Over"

instance : Named BattlePhase where
  all := [.idle, .active, .over]
  name := BattlePhase.name
  find_name := fun a => by cases a <;> rfl

/-- Where a turn stands. -/
inductive TurnPhase where
  /-- The active side has not begun its turn. -/
  | start
  /-- The active side is playing cards. -/
  | playing
deriving Repr, Inhabited, DecidableEq

/-- Written name. -/
def TurnPhase.name : TurnPhase → String
  | .start => "Start"
  | .playing => "Playing"

instance : Named TurnPhase where
  all := [.start, .playing]
  name := TurnPhase.name
  find_name := fun a => by cases a <;> rfl

/-- The record of a run. -/
structure Game where
  rules : Rules
  combatants : Sides Combatant
  pool : CardPool
  turn : Nat
  /-- The side whose turn it is. -/
  active : Side
  phase : BattlePhase
  turnPhase : TurnPhase
  wins : Nat
  losses : Nat
  dice : Dice
deriving DecidableEq

namespace Game

/-- The record at the start of a run. -/
def fresh (rules : Rules) (seed : UInt64) : Game where
  rules := rules
  combatants := ⟨.withHealth rules.startingHealth, .withHealth rules.opponentHealth⟩
  pool := .empty
  turn := 0
  active := .user
  phase := .idle
  turnPhase := .start
  wins := 0
  losses := 0
  dice := .ofSeed seed

/-- One of the combatants. -/
def combatant (g : Game) (side : Side) : Combatant := g.combatants.get side

/-- Change one of the combatants. -/
def updateCombatant (g : Game) (side : Side) (change : Combatant → Combatant) : Game :=
  { g with combatants := g.combatants.update side change }

/-- Replace one of the combatants. -/
def setCombatant (g : Game) (side : Side) (c : Combatant) : Game :=
  g.updateCombatant side fun _ => c

/-- Set the turn counter and, with it, whose turn it is. -/
def setTurn (g : Game) (turn : Nat) : Game :=
  { g with turn := turn, active := .forTurn turn }

/-- Battles finished in this run. -/
def rounds (g : Game) : Nat := g.wins + g.losses

end Game

end CardBattle
