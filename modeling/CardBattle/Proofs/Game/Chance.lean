/-
Module: CardBattle.Proofs.Game.Chance
Purpose: Where nobody has a lucky coin and nothing is shuffled, chance plays no part.
Main exports:
  Action.LeavesDice, Game.answers_withDice, Game.dice_matter_only_to_coins_and_shuffles
-/
import CardBattle.Proofs.Game.Disguise

/-!
# Chance

Dice are rolled for lucky coins and for shuffles.  As long as nobody has a coin and nothing is
shuffled, a record with any dice whatever is only in disguise: it answers as the record itself does,
and at the end it has the dice that it started with.
-/

namespace CardBattle

/-- Requests for which no dice are rolled where nobody has a lucky coin, and
which bring in none. -/
def Action.LeavesDice : Action → Prop
  | .shuffleDeck _ | .rewind _ => False
  | .addRelic _ relic => relic.Diceless
  | .loadOpponent enemy => ∀ relic ∈ enemy.relics, relic.Diceless
  | _ => True

/-- The disguise that only puts other dice in the place of those of the record. -/
def Disguise.withDice (dice : Dice) : Disguise := ⟨0, fun _ => dice, id⟩

/-- A request that leaves the dice alone suits a disguise that changes only
them. -/
theorem Disguise.withDice_suits (dice : Dice) {action : Action} (leaves : action.LeavesDice) :
    (withDice dice).Suits action := by
  cases action with
  | runTurn => rfl
  | runBattle maxTurns => rfl
  | addRelic side relic => exact .inr leaves
  | loadOpponent enemy => exact .inr leaves
  | shuffleDeck side => exact leaves.elim
  | rewind snapshot => exact leaves.elim
  | _ => trivial

namespace Game

theorem disguise_withDice (g : Game) (dice : Dice) :
    g.disguise (.withDice dice) = { g with dice := dice } :=
  congrArg (fun h : Game => { h with dice := dice }) g.shift_zero

/-- Other dice change neither what is answered nor, but for themselves, what
comes of it. -/
theorem answers_withDice {g : Game} (coinless : g.Coinless) {actions : List Action}
    (leaves : ∀ action ∈ actions, action.LeavesDice) (dice : Dice) :
    { g with dice := dice }.answers actions = g.answers actions ∧
      actions.foldl after { g with dice := dice } =
        { actions.foldl after g with dice := dice } := by
  have requests : actions.map (Action.shift 0) = actions := by
    rw [List.map_congr_left fun action _ => action.shift_zero, List.map_id']
  have replies (answers : List (Except Fault Reply)) :
      answers.map (Fault.carry 0 (Reply.shift 0)) = answers := by
    have same : Reply.shift 0 = id := funext Reply.shift_zero
    refine (List.map_congr_left fun answer _ => ?_).trans (List.map_id _)
    rw [Fault.carry_zero, same, Except.map_id]
  obtain ⟨answers, last⟩ := answers_disguise (φ := .withDice dice) (.inr coinless)
    fun action mem => Disguise.withDice_suits dice (leaves action mem)
  rw [show (Disguise.withDice dice).gap = 0 from rfl, requests, disguise_withDice] at answers last
  rw [disguise_withDice] at last
  exact ⟨answers.trans (replies _), last⟩

/-- Take two records that are the same but for their dice, without a lucky coin
on either side.  Requests in a row that shuffle nothing, do not go back, and
bring no coin in are answered alike by both, be it with replies, events or
faults; the records that they lead to are again the same but for their dice, and
those are where they were at the start. -/
theorem dice_matter_only_to_coins_and_shuffles {g h : Game} (same : h = { g with dice := h.dice })
    (coinless : g.Coinless) {actions : List Action}
    (leaves : ∀ action ∈ actions, action.LeavesDice) :
    h.answers actions = g.answers actions ∧
      actions.foldl after h = { actions.foldl after g with dice := h.dice } ∧
      (actions.foldl after g).dice = g.dice ∧ (actions.foldl after h).dice = h.dice := by
  obtain ⟨answers, last⟩ := answers_withDice coinless leaves h.dice
  -- With its own dice in the place of its dice, a record is not in disguise at all.
  obtain ⟨-, own⟩ := answers_withDice coinless leaves g.dice
  have still := congrArg Game.dice own
  rw [← same] at answers last
  refine ⟨answers, last, still, ?_⟩
  rw [last]

/-- A user with a fang and no coin. -/
def fang : Game :=
  [.addCard .user { name := "Bite", effects := [.damage 3] }, .addCard .opponent (.plain "Block"),
    .addRelic .user { kind := .vampireFang, value := 1 }].foldl after (.fresh .standard 7)

/-- In the example the fang adds a share of lifesteal and throws no coin, so
other dice give the same answers. -/
theorem fang_bites :
    { fang with dice := ⟨8, 40⟩ }.answers [.startBattle, .runTurn] =
        [.ok (.happened [.battleStarted]),
          .ok (.happened [.turnStarted .user 0, .cardPlayed .user ⟨0⟩, .heal .user 3,
            .damage .user .opponent 3, .turnEnded .user])] ∧
      ([Action.startBattle, .runTurn].foldl after fang).dice = ⟨7, 0⟩ := by
  have coinless : fang.Coinless := by
    intro side
    cases side
    · decide +kernel
    · decide +kernel
  have leaves : ∀ action ∈ [Action.startBattle, .runTurn], action.LeavesDice := by
    simp [Action.LeavesDice]
  obtain ⟨answers, -, still, -⟩ :=
    dice_matter_only_to_coins_and_shuffles (h := { fang with dice := ⟨8, 40⟩ }) rfl coinless leaves
  refine ⟨answers.trans ?_, still.trans ?_⟩
  · decide +kernel
  · decide +kernel

end Game

end CardBattle
