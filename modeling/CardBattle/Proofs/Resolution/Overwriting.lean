/-
Module: CardBattle.Proofs.Resolution.Overwriting
Purpose: A field that a card overwrites reads as it was set, and every other field as before.
Main exports:
  Field.settled, Combatant.figure, Game.read_congr, Combatant.figure_assign,
  Combatant.figure_assign_of_ne, Resolution.apply_set_then_read
-/
import CardBattle.Proofs.Binary64.Floor
import CardBattle.Proofs.Resolution.Blows
import CardBattle.Proofs.Resolution.Progress

/-!
# Overwritten fields

Fields are read in one place and written in another, and counters are stored in a map that keeps no
zeros.  Both sides name the same storage: what is read of a combatant alone is a figure of it, writing
a field moves its own figure and no other, and everything that is worked out when it is read rests on
what no overwriting line touches.
-/

namespace CardBattle

/-- The number that a field reads as after it has been set: whole numbers are
rounded down, a count of cards stays within 32 bits, and a counter never falls
below zero and keeps its fraction only if it is a share. -/
def Field.settled (field : Field) (value : Binary64) : Binary64 :=
  match field with
  | .cardsPlayedThisTurn => value.floor.within 0 4294967295
  | .status s => (if s.isFractional then value else value.floor).positivePart
  | _ => value.floor

namespace Combatant

/-- The number that a field reads as where it is stored with the combatant. -/
def figure (c : Combatant) : Field → Option Binary64
  | .health => some (.ofInt c.health)
  | .startingHealth => some (.ofInt c.startingHealth)
  | .maxHealth => some (.ofInt c.maxHealth)
  | .status s => some (c.status s)
  | .cardsPlayedThisTurn => some (.ofInt c.cardsPlayedThisTurn)
  | .damageThisTurn => some (.ofInt c.damageThisTurn)
  | .damageLastTurn => some (.ofInt c.damageLastTurn)
  | _ => none

theorem figure_setStatus_of_ne (c : Combatant) {s : Status} {other : Field} (value : Binary64)
    (apart : other ≠ .status s) : (c.setStatus s value).figure other = c.figure other := by
  rw [setStatus_eq]
  cases other with
  | status t =>
      have counters : t ≠ s := fun same => apart (congrArg Field.status same)
      have kept := status_setStatus_of_ne c value counters
      exact congrArg some kept
  | _ => rfl

/-- Writing a field moves no other figure. -/
theorem figure_assign_of_ne {c written : Combatant} {field other : Field} {value : Binary64}
    (ok : c.assign field value = .ok written) (apart : other ≠ field) :
    written.figure other = c.figure other := by
  cases field with
  | status s =>
      obtain rfl := Except.ok.inj ok
      exact figure_setStatus_of_ne c value apart
  | health =>
      obtain rfl := Except.ok.inj ok
      cases other with
      | health => exact absurd rfl apart
      | _ => rfl
  | startingHealth =>
      obtain rfl := Except.ok.inj ok
      cases other with
      | startingHealth => exact absurd rfl apart
      | _ => rfl
  | maxHealth =>
      obtain rfl := Except.ok.inj ok
      cases other with
      | maxHealth => exact absurd rfl apart
      | _ => rfl
  | cardsPlayedThisTurn =>
      obtain rfl := Except.ok.inj ok
      cases other with
      | cardsPlayedThisTurn => exact absurd rfl apart
      | _ => rfl
  | damageThisTurn =>
      obtain rfl := Except.ok.inj ok
      cases other with
      | damageThisTurn => exact absurd rfl apart
      | _ => rfl
  | damageLastTurn =>
      obtain rfl := Except.ok.inj ok
      cases other with
      | damageLastTurn => exact absurd rfl apart
      | _ => rfl
  | _ => cases ok

/-- A small number that is rounded down, kept in a word and read again is the
number rounded down. -/
theorem ofInt_floorWord_equals {value : Binary64} (small : value.Small) :
    (Binary64.ofInt value.floorWord).equals value.floor = true := by
  obtain ⟨-, n, -, whole, -, -, bound⟩ := Binary64.exists_floor small
  rw [Binary64.floorWord_of_toInt? whole bound]
  exact Binary64.equals_of_toInt? (Binary64.toInt?_ofInt_of_natAbs bound) whole

/-- A count that is stored from a small number is the whole part of that number,
kept between zero and the largest count. -/
theorem ofInt_count_equals {value : Binary64} (small : value.Small) :
    (Binary64.ofInt (min value.floorWord.toNat 0xffffffff : Nat)).equals
      (value.floor.within 0 4294967295) = true := by
  obtain ⟨-, n, -, whole, -, -, bound⟩ := Binary64.exists_floor small
  have zero : Binary64.toInt? 0 = some 0 := Binary64.toInt?_ofInt (n := 0) (by decide)
  have most : Binary64.toInt? 4294967295 = some 4294967295 :=
    Binary64.toInt?_ofInt (n := 4294967295) (by decide)
  have count : ((min n.toNat 0xffffffff : Nat) : Int) = max 0 (min 4294967295 n) := by omega
  rw [Binary64.floorWord_of_toInt? whole bound]
  refine Binary64.equals_of_toInt? ?_ (Binary64.toInt?_within zero most whole (by decide))
  rw [← count]
  exact Binary64.toInt?_ofInt (by rw [Binary64.digitsLimit_eq]; omega)

/-- A counter reads as the number that was kept of what it was set to. -/
theorem status_setStatus_equals (c : Combatant) (s : Status) (value : Binary64) :
    ((c.setStatus s value).status s).equals (storable s value) = true := by
  rw [status_setStatus_self]
  split
  · rename_i zero
    exact Binary64.equals_symm zero
  · obtain ⟨place, here⟩ := Binary64.exists_position_positivePart
      (if s.isFractional then value else value.floor)
    exact Binary64.equals_self here

/-- Writing a field gives it the figure that it settles at. -/
theorem figure_assign {c written : Combatant} {field : Field} {value : Binary64}
    (small : value.Small) (ok : c.assign field value = .ok written) :
    ∃ figure, written.figure field = some figure ∧ figure.equals (field.settled value) = true := by
  cases field with
  | status s =>
      obtain rfl := Except.ok.inj ok
      exact ⟨_, rfl, status_setStatus_equals c s value⟩
  | cardsPlayedThisTurn =>
      obtain rfl := Except.ok.inj ok
      exact ⟨_, rfl, ofInt_count_equals small⟩
  | health | startingHealth | maxHealth | damageThisTurn | damageLastTurn =>
      obtain rfl := Except.ok.inj ok
      exact ⟨_, rfl, ofInt_floorWord_equals small⟩
  | _ => cases ok

end Combatant

namespace Game

/-- A figure that is stored is what a card text reads, in whatever scope. -/
theorem read_of_figure {g : Game} {side : Side} {field : Field} {figure : Binary64}
    (here : (g.combatant side).figure field = some figure) (scope : Scope) :
    g.read scope side field = figure := by
  cases field with
  | deckSize | trashSize | relicCount | turns | tribeShare | previousTribe | damageThisCard => cases here
  | _ => exact Option.some.inj here

/-- What a field reads as rests on its figure, or on the table and the scope. -/
theorem read_congr {g h : Game} {side : Side} {field : Field} (table : h.table = g.table)
    (figure : (h.combatant side).figure field = (g.combatant side).figure field) (scope : Scope) :
    h.read scope side field = g.read scope side field := by
  have belongings := belongings_of_table table side
  have deck : (h.combatant side).deck = (g.combatant side).deck :=
    congrArg Belongings.deck belongings
  have trashed : (h.combatant side).trashed = (g.combatant side).trashed :=
    congrArg Belongings.trashed belongings
  have relics : (h.combatant side).relics = (g.combatant side).relics :=
    congrArg Belongings.relics belongings
  have previous : (h.combatant side).previousCard = (g.combatant side).previousCard :=
    congrArg Belongings.previousCard belongings
  have pool : h.pool = g.pool := congrArg Table.pool table
  have turn : h.turn = g.turn := congrArg Table.turn table
  cases field with
  | deckSize => simp only [read, deck]
  | trashSize => simp only [read, trashed]
  | relicCount => simp only [read, relics]
  | turns => simp only [read, turn]
  | tribeShare tribe => simp only [read, countTribe, deck, pool]
  | previousTribe tribe =>
      have same : h.previousInTribe side tribe = g.previousInTribe side tribe := by
        rw [previousInTribe, previousInTribe, previous, pool]
      rw [read, read, same]
  | damageThisCard => rfl
  | _ => exact Option.some.inj figure

end Game

namespace Resolution

/-- An effect that sets a field works out its number first and overwrites the
field of its target with it. -/
theorem perform_set {effect : Effect} {field : Field} (kind : effect.kind = .set field)
    (r : Resolution) :
    perform effect r =
      r.overwrite (effect.target.resolve r.active) field (r.game.effectValue r.scope effect) := by
  unfold perform
  dsimp only
  rw [kind]

/-- Overwriting a field of one side leaves all other readings on both sides as
they were. -/
theorem overwrite_reads {r : Resolution} {side : Side} {field : Field} {value : Binary64}
    {written : Combatant} (small : value.Small)
    (ok : (r.combatant side).assign field value = .ok written) :
    let after := r.update side fun _ => written
    (after.game.read after.scope side field).equals (field.settled value) = true ∧
      ∀ party other, ¬ (party = side ∧ other = field) →
        after.game.read after.scope party other = r.game.read r.scope party other := by
  dsimp only
  have self : (r.game.updateCombatant side fun _ => written).combatant side = written :=
    Game.combatant_updateCombatant_self ..
  constructor
  · obtain ⟨figure, here, settled⟩ := Combatant.figure_assign small ok
    rw [← self] at here
    have reads := Game.read_of_figure here r.scope
    exact (congrArg (Binary64.equals · _) reads).trans settled
  · intro party other apart
    have table : (r.game.updateCombatant side fun _ => written).table = r.game.table :=
      Game.table_updateCombatant (belongings_assign (c := r.game.combatant side) ok)
    refine Game.read_congr table ?_ r.scope
    rcases Side.eq_or_eq_other party side with rfl | rfl
    · have elsewhere : other ≠ field := fun same => apart ⟨rfl, same⟩
      exact (congrArg (Combatant.figure · other) self).trans
        (Combatant.figure_assign_of_ne ok elsewhere)
    · exact congrArg (Combatant.figure · other) (Game.combatant_updateCombatant_other ..)

/-- A line that overwrites a field with a fixed number from `-2 ^ 53` to
`2 ^ 53`.  Where the field is stored it is carried out: the field of the side it
meets then reads as the number settles, and neither another field of that side,
stored or worked out, nor any field of the other side, nor the log or anything
else of the scope is touched.  Where the field is worked out when it is read,
the line is refused. -/
theorem apply_set_then_read (r : Resolution) (target : Target) (field : Field) (value : Binary64)
    (small : -9007199254740992 ≤ value ∧ value ≤ 9007199254740992) :
    let line : Effect := { target := target, kind := .set field, value := .literal value }
    let side := target.resolve r.active
    (field.isWritable = true → ∃ after, apply line r = .ok after ∧
        (after.game.read after.scope side field).equals (field.settled value) = true ∧
        (∀ party other, ¬ (party = side ∧ other = field) →
          after.game.read after.scope party other = r.game.read r.scope party other) ∧
        after.scope = r.scope) ∧
      (field.isWritable = false → apply line r = .error (.derivedField field)) := by
  intro line side
  have carried : apply line r = r.overwrite side field value :=
    (apply_once rfl rfl r).trans (perform_set rfl r)
  rw [carried, overwrite]
  constructor
  · intro stored
    obtain ⟨written, ok⟩ := Combatant.assign_isOk_iff.mpr stored
    obtain ⟨settled, others⟩ := overwrite_reads small ok
    exact ⟨_, by rw [ok], settled, others, rfl⟩
  · intro derived
    have refused : (r.combatant side).assign field value = .error (.derivedField field) := by
      cases field with
      | health | startingHealth | maxHealth | status | cardsPlayedThisTurn | damageThisTurn
      | damageLastTurn => cases derived
      | _ => rfl
    rw [refused]

/-- A bleeding opponent of a user that has some lifesteal. -/
def vigil : Resolution where
  game :=
    { Game.fresh .standard 7 with
      combatants :=
        ⟨{ Combatant.withHealth 20 with statuses := .insert .empty .lifesteal (1 / 2) },
          { Combatant.withHealth 15 with statuses := .insert .empty .bleed 2 }⟩ }
  scope := .bare .user

/-- In the example health is set to a fraction below zero and reads as the whole
number under it.  The bleeding and the other side's health read as before. -/
theorem vigil_reads :
    (-9007199254740992 ≤ (-7 / 2 : Binary64) ∧ (-7 / 2 : Binary64) ≤ 9007199254740992) ∧
      ∃ after,
        apply { target := .opponent, kind := .set .health, value := .literal (-7 / 2) } vigil =
          .ok after ∧
        (after.game.read after.scope .opponent .health).equals (-4) = true ∧
        after.game.read after.scope .opponent (.status .bleed) = 2 ∧
        after.game.read after.scope .user .health = 20 ∧ after.scope.events = #[] := by
  have small : -9007199254740992 ≤ (-7 / 2 : Binary64) ∧ (-7 / 2 : Binary64) ≤ 9007199254740992 := by
    decide +kernel
  obtain ⟨after, ok, settled, others, scope⟩ :=
    (apply_set_then_read vigil .opponent .health (-7 / 2) small).1 rfl
  have down : Field.settled .health (-7 / 2) = -4 := by decide +kernel
  rw [down] at settled
  refine ⟨small, after, ok, settled, ?_, ?_, by rw [scope]; rfl⟩
  · rw [others .opponent (.status .bleed) (by decide)]
    decide +kernel
  · rw [others .user .health (by decide)]
    decide +kernel

end Resolution

end CardBattle
