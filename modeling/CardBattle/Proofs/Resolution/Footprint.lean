/-
Module: CardBattle.Proofs.Resolution.Footprint
Purpose: What resolving a card leaves alone, and what of a combatant only an overwriting line
  reaches.
Main exports:
  Combatant.fixtures, Resolution.Changes.fixtures_eq, Resolution.Changes.damageThisTurn_other,
  Game.resolveCard_footprint
-/
import CardBattle.Proofs.Resolution.Changes

/-!
# The footprint of a card

A card that has been played goes back to where it was found, so nothing that it does may move the
cards.  The table keeps everything that is safe from every card; of what is left, four numbers of a
combatant change only where a line overwrites a field, and the damage that a side has dealt in its
turn changes only for the side whose card it is.
-/

namespace CardBattle

/-- Numbers of a combatant that a card can only overwrite. -/
structure Fixtures where
  startingHealth : Int
  maxHealth : Int
  cardsPlayedThisTurn : Nat
  damageLastTurn : Int

namespace Combatant

/-- The fixtures of a combatant. -/
def fixtures (c : Combatant) : Fixtures :=
  ⟨c.startingHealth, c.maxHealth, c.cardsPlayedThisTurn, c.damageLastTurn⟩

/-- Counters are kept apart from the figures that only an overwriting card
changes. -/
@[simp] theorem fixtures_setStatus (c : Combatant) (s : Status) (value : Binary64) :
    (c.setStatus s value).fixtures = c.fixtures := by
  unfold setStatus
  dsimp only
  split <;> rfl

end Combatant

namespace Resolution

variable {may : EffectKind → Prop} {r after : Resolution}

/-- Neither hits nor counters nor heals touch the fixtures. -/
theorem Changes.fixtures_eq (spares : ∀ field, ¬ may (.set field)) (changes : Changes may r after)
    (side : Side) : (after.combatant side).fixtures = (r.combatant side).fixtures := by
  refine changes.view_eq Combatant.fixtures ?_
  constructor
  case counter => exact fun c s value _ => Combatant.fixtures_setStatus c s value
  case overwritten => exact fun cause _ => absurd cause (spares _)
  case health => exact fun _ _ => rfl
  case dealt => exact fun _ _ _ => rfl

/-- Only the active side deals damage to the other. -/
theorem Changes.damageThisTurn_other (spares : ∀ field, ¬ may (.set field))
    (changes : Changes may r after) :
    (after.combatant r.active.other).damageThisTurn =
      (r.combatant r.active.other).damageThisTurn := by
  refine changes.view_eq Combatant.damageThisTurn ?_
  constructor
  case counter => exact fun c s value _ => Combatant.damageThisTurn_setStatus c s value
  case overwritten => exact fun cause _ => absurd cause (spares _)
  case health => exact fun _ _ => rfl
  case dealt => exact fun own => absurd own (Side.other_ne _)

end Resolution

namespace Game

/-- Whatever its lines are and however often they are carried out, a card leaves
the table alone: the rules, all cards with their links, both decks and trashed
piles, relics, cursors and cards played before, the turn, the phase and the
score.  A card that overwrites nothing also leaves alone the starting and the
greatest health of both sides, the cards they have played in their turn and the
damage of their turn before, and the damage that the side not playing has dealt. -/
theorem resolveCard_footprint {g after : Game} {card : Card} {events : List BattleEvent}
    (ok : g.resolveCard card = .ok (after, events)) :
    after.table = g.table ∧
      ((∀ field, ¬ card.Carries (.set field)) →
        (∀ side, (after.combatant side).fixtures = (g.combatant side).fixtures) ∧
        (after.combatant g.active.other).damageThisTurn =
          (g.combatant g.active.other).damageThisTurn) := by
  obtain ⟨r, changes, rfl, -⟩ := resolveCard_changes ok
  refine ⟨changes.table_eq, fun plain => ?_⟩
  have spares : ∀ field, ¬ card.MayChange (.set field) :=
    fun field change => plain field change.carries
  exact ⟨changes.fixtures_eq spares, changes.damageThisTurn_other spares⟩

/-- A battle that is going on, with relics that answer to whatever the user does
to itself. -/
def rehearsal : Game :=
  { Game.fresh .standard 7 with
    combatants :=
      ⟨{ Combatant.withHealth 20 with
          maxHealth := 25
          deck := [⟨0⟩]
          relics := [{ kind := .thornMirror, value := 1 }, { kind := .bloodPact, value := 1 }]
          cardsPlayedThisTurn := 2
          damageLastTurn := 6
          previousCard := some ⟨0⟩ },
        { Combatant.withHealth 15 with
          damageThisTurn := 4
          statuses := .insert .empty .bleed 3 }⟩
    phase := .active
    turnPhase := .playing }

/-- A card that hits its owner, strikes twice as long as the other side stands,
and mends, three times over. -/
def flail : Card where
  name := "Flail"
  effects :=
    [{ target := .own, kind := .damage, value := .literal 2 },
      { target := .opponent
        kind := .damage
        value := .literal 1
        hits := some (.literal 2)
        condition := some (.against (.field .opponent .health none) .greater 0) },
      .heal 3, .giveStatus .dodge 1]
  repeats := some { value := .literal 2 }

/-- In the example a card hits both sides, mends and gives a dodge, three times
over.  The table stands as it did, so do the user's fixtures, and the other side
has dealt nothing. -/
theorem rehearsal_footprint :
    ∃ after events, rehearsal.resolveCard flail = .ok (after, events) ∧
      (after.combatant .opponent).health = -4 ∧ after.table = rehearsal.table ∧
      (after.combatant .user).fixtures = ⟨20, 25, 2, 6⟩ ∧
      (after.combatant .opponent).damageThisTurn = 4 := by
  have kinds : ∀ effect ∈ flail.effects, effect.kind ∈ [.damage, .heal, .status .dodge] := by
    decide
  have plain : ∀ field, ¬ flail.Carries (.set field) :=
    fun field => Card.not_carries kinds (by simp)
  have beaten : (rehearsal.resolveCard flail).toOption.map
      (fun outcome => (outcome.1.combatant .opponent).health) = some (-4) := by decide +kernel
  cases ok : rehearsal.resolveCard flail with
  | error fault =>
    rw [ok] at beaten
    cases beaten
  | ok outcome =>
    obtain ⟨after, events⟩ := outcome
    rw [ok] at beaten
    obtain ⟨table, numbers⟩ := resolveCard_footprint ok
    obtain ⟨fixtures, dealt⟩ := numbers plain
    exact ⟨after, events, rfl, Option.some.inj beaten, table, fixtures .user, dealt⟩

end Game

end CardBattle
