/-
Module: CardBattle.Proofs.Game.BetweenBattles
Purpose: In every run nothing of a battle is left when none is going on, and closing a battle keeps
  what lasts for the run.
Main exports:
  Combatant.AtRest, Game.AtRest, Game.RestsWhenIdle, Game.restsWhenIdle_kept, Game.Closes,
  Game.nothing_lasts_between_battles
-/
import CardBattle.Proofs.Game.Cards
import CardBattle.Proofs.Game.SideLaws

/-!
# Between battles

A combatant is at rest when it has the health it starts with and nothing else that a battle gives it:
no counters, no tallies, no card played before.  Four requests put a combatant at rest, namely a fresh
run, a closed battle, a run started anew and a loaded opponent.  All others either belong to a battle
or leave what rest is about alone; spending a further play does neither, but it is refused to a
combatant at rest, which has none.
-/

namespace CardBattle

/-- Nothing of a battle is left on the combatant. -/
structure Combatant.AtRest (c : Combatant) : Prop where
  health : c.health = c.startingHealth
  played : c.cardsPlayedThisTurn = 0
  dealt : c.damageThisTurn = 0
  dealtBefore : c.damageLastTurn = 0
  previous : c.previousCard = none
  statuses : ∀ s, c.statuses.find? s = none

namespace Combatant

/-- Whatever a battle has left on a combatant, the reset takes away. -/
theorem atRest_resetForBattle (c : Combatant) : c.resetForBattle.AtRest where
  health := rfl
  played := rfl
  dealt := rfl
  dealtBefore := rfl
  previous := rfl
  statuses := OrderedMap.find?_empty

theorem atRest_withHealth (health : Int) : (withHealth health).AtRest where
  health := rfl
  played := rfl
  dealt := rfl
  dealtBefore := rfl
  previous := rfl
  statuses := OrderedMap.find?_empty

namespace AtRest

variable {c : Combatant} (rest : c.AtRest)
include rest

/-- Rest is read off the vitals, the card played before and the counters; piles,
cursor and relics do not matter to it. -/
theorem congr {d : Combatant} (vitals : d.vitals = c.vitals)
    (previous : d.previousCard = c.previousCard) (statuses : d.statuses = c.statuses) :
    d.AtRest where
  health := (congrArg Vitals.health vitals).trans
    (rest.health.trans (congrArg Vitals.startingHealth vitals).symm)
  played := (congrArg Vitals.cardsPlayedThisTurn vitals).trans rest.played
  dealt := (congrArg Vitals.damageThisTurn vitals).trans rest.dealt
  dealtBefore := (congrArg Vitals.damageLastTurn vitals).trans rest.dealtBefore
  previous := previous.trans rest.previous
  statuses s := (congrArg (OrderedMap.find? · s) statuses).trans (rest.statuses s)

theorem forget (id : CardId) : (c.forget id).AtRest := by
  apply rest.congr (vitals_forget c id)
  · unfold Combatant.forget
    split <;> rfl
  · unfold Combatant.forget
    split <;> rfl

/-- There is nothing to spend. -/
theorem spend?_eq_none (s : Status) : c.spend? s = none := by
  have few : ¬ (1 : Binary64) ≤ 0 := by decide +kernel
  have zero : c.status s = 0 := by rw [status, rest.statuses s, Option.getD_none]
  rw [spend?, zero, if_neg few]

end AtRest

end Combatant

namespace Game

/-- Nothing of a battle is left on the record. -/
structure AtRest (g : Game) : Prop where
  turn : g.turn = 0
  active : g.active = .user
  turnPhase : g.turnPhase = .start
  sides : g.Both Combatant.AtRest

/-- A record outside a battle is at rest. -/
def RestsWhenIdle (g : Game) : Prop := g.phase = .idle → g.AtRest

namespace RestsWhenIdle

variable {g next : Game}

theorem of_running (running : g.phase = .active) : g.RestsWhenIdle := by
  intro waiting
  cases waiting.symm.trans running

theorem fresh (rules : Rules) (seed : UInt64) : (Game.fresh rules seed).RestsWhenIdle := by
  intro _
  refine ⟨rfl, rfl, rfl, fun side => ?_⟩
  cases side with
  | user => exact Combatant.atRest_withHealth _
  | opponent => exact Combatant.atRest_withHealth _

/-- A reset brings rest from any record, also from the middle of a battle. -/
theorem resetRun (g : Game) : g.resetRun.RestsWhenIdle := by
  intro _
  refine ⟨rfl, rfl, rfl, fun side => ?_⟩
  cases side with
  | user => exact Combatant.atRest_resetForBattle _
  | opponent => exact Combatant.atRest_resetForBattle _

/-- Closing a battle resets both combatants, which is where the rest comes from. -/
theorem endBattle {result : BattleResult} (ok : g.endBattle = .ok (next, result)) :
    next.RestsWhenIdle := by
  intro _
  obtain ⟨-, -, stage, -, sides⟩ := of_endBattle_eq_ok ok
  constructor
  · exact congrArg Stage.turn stage
  · exact congrArg Stage.active stage
  · exact congrArg Stage.turnPhase stage
  · intro side
    rw [sides side]
    exact Combatant.atRest_resetForBattle _

section

variable (rests : g.RestsWhenIdle)
include rests

/-- Rest is not about cards and dice. -/
theorem of_store {pool : CardPool} {dice : Dice} :
    { g with pool := pool, dice := dice }.RestsWhenIdle := by
  intro waiting
  have rest := rests waiting
  exact ⟨rest.turn, rest.active, rest.turnPhase, rest.sides⟩

/-- A change of one side that keeps its rest. -/
theorem of_update {side : Side} {change : Combatant → Combatant}
    (own : (g.combatant side).AtRest → (change (g.combatant side)).AtRest) :
    (g.updateCombatant side change).RestsWhenIdle := by
  intro waiting
  have rest := rests waiting
  exact ⟨rest.turn, rest.active, rest.turnPhase,
    rest.sides.updateCombatant (own (rest.sides side))⟩

/-- A change of cards and of one side that leaves alone what rest is about.  All
requests that build decks are changes of this kind. -/
theorem of_change {pool : CardPool} {dice : Dice} {side : Side}
    {change : Combatant → Combatant}
    (vitals : (change (g.combatant side)).vitals = (g.combatant side).vitals)
    (previous : (change (g.combatant side)).previousCard = (g.combatant side).previousCard)
    (statuses : (change (g.combatant side)).statuses = (g.combatant side).statuses) :
    ({ g with pool := pool, dice := dice }.updateCombatant side change).RestsWhenIdle :=
  rests.of_store.of_update fun rest => rest.congr vitals previous statuses

/-- At rest there is no further play to spend, so this request is not granted
there. -/
theorem consumeExtraPlay (ok : g.consumeExtraPlay = .ok next) : next.RestsWhenIdle := by
  intro waiting
  have phase : next.phase = g.phase :=
    congrArg Stage.phase (stage_of_standing (standing_consumeExtraPlay ok))
  have rest := (rests (phase.symm.trans waiting)).sides g.active
  unfold Game.consumeExtraPlay at ok
  split at ok
  · rename_i spent
    cases (rest.spend?_eq_none .extraPlays).symm.trans spent
  · cases ok

theorem addCard (side : Side) (card : Card) : (g.addCard side card).1.RestsWhenIdle :=
  rests.of_change rfl rfl rfl

theorem addCards (side : Side) (cards : List Card) : (g.addCards side cards).RestsWhenIdle := by
  induction cards generalizing g with
  | nil => exact rests
  | cons card others ih => exact ih (rests.addCard side card)

/-- The owner of a card that leaves the run stays at rest, and the other side is
not touched. -/
theorem removeCard {id : CardId} {card : Card} (ok : g.removeCard id = .ok (next, card)) :
    next.RestsWhenIdle := by
  obtain ⟨owner, -, rfl⟩ := of_removeCard_eq_ok ok
  exact rests.of_store.of_update fun rest => rest.forget id

theorem chainCards {first second : CardId} (ok : g.chainCards first second = .ok next) :
    next.RestsWhenIdle := by
  obtain ⟨owner, chains, -, -, -, rfl⟩ := chainCards_eq_ok_iff.mp ok
  exact rests.of_change rfl rfl rfl

theorem unlinkCard {id : CardId} (ok : g.unlinkCard id = .ok next) : next.RestsWhenIdle := by
  obtain rfl := of_unlinkCard_eq_ok ok
  exact rests.of_store

theorem addRelic (side : Side) (relic : Relic) : (g.addRelic side relic).RestsWhenIdle :=
  rests.of_change rfl rfl rfl

/-- A new opponent comes in rested at its own health. -/
theorem loadOpponent {enemy : Enemy} (ok : g.loadOpponent enemy = .ok next) :
    next.RestsWhenIdle := by
  obtain ⟨-, rfl⟩ := of_loadOpponent_eq_ok ok
  have replaced : (g.updateCombatant .opponent fun c => c.become enemy).RestsWhenIdle :=
    rests.of_update fun _ => Combatant.atRest_resetForBattle _
  exact replaced.of_store.addCards .opponent enemy.cards

theorem discardCurrent (side : Side) : (g.discardCurrent side).1.RestsWhenIdle := by
  unfold Game.discardCurrent
  split
  · exact rests.of_change rfl rfl rfl
  · exact rests

theorem trashAt (side : Side) (index : Nat) : (g.trashAt side index).1.RestsWhenIdle := by
  unfold Game.trashAt
  split
  · exact rests.of_change rfl rfl rfl
  · exact rests

theorem shuffleDeck (side : Side) : (g.shuffleDeck side).1.RestsWhenIdle := by
  rw [fst_shuffleDeck]
  exact rests.of_change rfl rfl rfl

end

end RestsWhenIdle

/-- Every request leaves a record at rest if it does not leave it in a battle.
Only closing a battle and a reset have anything to bring about. -/
theorem restsWhenIdle_kept : Kept RestsWhenIdle where
  startBattle _ ok := .of_running (phase_startBattle ok)
  endBattle _ ok := .endBattle ok
  startTurn _ ok := .of_running (phase_startTurn ok)
  playCard _ ok := fun waiting => absurd waiting (phase_playCard_ne_idle ok)
  consumeExtraPlay rests ok := rests.consumeExtraPlay ok
  endTurn _ ok := by
    obtain ⟨running, rfl, -⟩ := of_endTurn_eq_ok ok
    exact .of_running running
  addCard side card rests := rests.addCard side card
  removeCard rests ok := rests.removeCard ok
  chainCards rests ok := rests.chainCards ok
  unlinkCard rests ok := rests.unlinkCard ok
  addRelic side relic rests := rests.addRelic side relic
  loadOpponent rests ok := rests.loadOpponent ok
  discardCurrent side rests := rests.discardCurrent side
  trashAt side index rests := rests.trashAt side index
  shuffleDeck side rests := rests.shuffleDeck side
  resetRun _ := .resetRun _

/-- Between battles every record of a run is at rest, by induction over its
requests. -/
theorem Reachable.restsWhenIdle {g : Game} (reached : g.Reachable) : g.RestsWhenIdle :=
  restsWhenIdle_kept.reachable RestsWhenIdle.fresh reached

/-! ### Closing a battle -/

/-- What lasts for the run is kept, both sides begin with the first card again,
and one side of the score goes up by one. -/
structure Closes (g : Game) (winner : Side) (next : Game) : Prop where
  rules : next.rules = g.rules
  pool : next.pool = g.pool
  dice : next.dice = g.dice
  deck : ∀ side, (next.combatant side).deck = (g.combatant side).deck
  trashed : ∀ side, (next.combatant side).trashed = (g.combatant side).trashed
  relics : ∀ side, (next.combatant side).relics = (g.combatant side).relics
  startingHealth : ∀ side,
    (next.combatant side).startingHealth = (g.combatant side).startingHealth
  maxHealth : ∀ side, (next.combatant side).maxHealth = (g.combatant side).maxHealth
  cursor : ∀ side, (next.combatant side).cursor = 0
  score : winner = .user ∧ next.wins = g.wins + 1 ∧ next.losses = g.losses ∨
    winner = .opponent ∧ next.wins = g.wins ∧ next.losses = g.losses + 1

/-- Closing a battle rolls no dice, and counts it for the winner and not for the
other side. -/
theorem endBattle_counts {g next : Game} {result : BattleResult}
    (ok : g.endBattle = .ok (next, result)) :
    next.dice = g.dice ∧
      (result.winner = .user ∧ next.wins = g.wins + 1 ∧ next.losses = g.losses ∨
        result.winner = .opponent ∧ next.wins = g.wins ∧ next.losses = g.losses + 1) := by
  unfold endBattle at ok
  split at ok
  · cases ok
  · rename_i winner _
    cases ok
    cases winner with
    | user => exact ⟨rfl, .inl ⟨rfl, rfl, rfl⟩⟩
    | opponent => exact ⟨rfl, .inr ⟨rfl, rfl, rfl⟩⟩

/-- What closing a battle keeps and what it resets, for any record in which a
side has won. -/
theorem endBattle_closes {g next : Game} {result : BattleResult}
    (ok : g.endBattle = .ok (next, result)) : g.Closes result.winner next := by
  obtain ⟨-, pool, stage, -, sides⟩ := of_endBattle_eq_ok ok
  obtain ⟨dice, score⟩ := endBattle_counts ok
  constructor
  case rules => exact congrArg Stage.rules stage
  case pool => exact pool
  case dice => exact dice
  case deck | trashed | relics | startingHealth | maxHealth | cursor =>
    intro side
    rw [sides side]
    rfl
  case score => exact score

/-- In every record of a run that is not in a battle nothing of a battle is
left; and closing a battle, in whatever record it is not refused, keeps all that
lasts for the run. -/
theorem nothing_lasts_between_battles :
    (∀ g : Game, g.Reachable → g.phase = .idle → g.AtRest) ∧
      ∀ (g next : Game) (result : BattleResult), g.endBattle = .ok (next, result) →
        g.Closes result.winner next :=
  ⟨fun _ reached => reached.restsWhenIdle, fun _ _ _ ok => endBattle_closes ok⟩

/-- A battle that the user has won with a card that makes it stronger and lowers
its starting health, and after which another card comes next. -/
def worn : Game :=
  [.addCard .user
      { name := "Rage"
        effects := [.giveStatus .strength 2, .assign .startingHealth 7, .damage 500] },
    .addCard .user (.plain "Spark"), .startBattle, .playCard].foldl after (.fresh .standard 7)

/-- The example is a record of a run, from a fresh one up to a battle that is
decided and waits to be closed. -/
theorem worn_reachable : worn.Reachable :=
  (Reachable.fresh .standard 7).foldl (by simp)

/-- In the example stacks, the card played before and the cursor are left from
the battle, and starting health has been overwritten; closing the battle clears
the ones and uses the other. -/
theorem worn_recovers :
    ((worn.combatant .user).statuses.find? .strength = some 2 ∧
        (worn.combatant .user).previousCard = some ⟨0⟩ ∧ (worn.combatant .user).cursor = 1) ∧
      ∃ next result, worn.endBattle = .ok (next, result) ∧ next.AtRest ∧
        (next.combatant .user).deck = (worn.combatant .user).deck ∧
        (next.combatant .user).cursor = 0 ∧ (next.combatant .user).health = 7 ∧
        next.wins + next.losses = 1 := by
  obtain ⟨rests, closes⟩ := nothing_lasts_between_battles
  have stronger : (worn.combatant .user).statuses.find? .strength = some 2 := by decide +kernel
  have played : (worn.combatant .user).previousCard = some ⟨0⟩ := by decide +kernel
  have second : (worn.combatant .user).cursor = 1 := by decide +kernel
  have start : (worn.combatant .user).startingHealth = 7 := by decide +kernel
  have score : worn.wins = 0 ∧ worn.losses = 0 := by decide +kernel
  have won : (worn.endBattle.map fun outcome => outcome.1.phase) = .ok .idle := by decide +kernel
  obtain ⟨⟨next, result⟩, ok, waiting⟩ := of_map_eq_ok won
  have rest := rests next (worn_reachable.endBattle ok) waiting
  have closed := closes worn next result ok
  refine ⟨⟨stronger, played, second⟩, next, result, ok, rest, closed.deck .user,
    closed.cursor .user, ?_, ?_⟩
  · exact (rest.sides .user).health.trans ((closed.startingHealth .user).trans start)
  · have counted := closed.score
    omega

end Game

end CardBattle
