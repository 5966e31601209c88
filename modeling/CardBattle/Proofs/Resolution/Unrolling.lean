/-
Module: CardBattle.Proofs.Resolution.Unrolling
Purpose: A card that repeats its lines a fixed number of times resolves like the card on which all of
  them are written out.
Main exports:
  Effect.CountsFixed, Effect.copies, Card.Unrolls, Card.rounds, Resolution.applyAll_append,
  Resolution.applyAll_copies, Resolution.activate_eq, Game.resolveCard_eq_of_writtenOut
-/
import CardBattle.Proofs.Resolution.Blows

/-!
# Writing cards out

Repetitions, lines and hits are three loops around one resolution, and nothing happens between two
rounds of any of them.  So a list of lines may be cut anywhere, a line with a fixed count stands for
so many copies of itself, and a card with a fixed repetition for a longer card.  The count of a line
is read once and its guard is looked at once, which is why a line with a count must not have a guard
if it is to be written out.
-/

namespace CardBattle

/-- Where an effect has a count, the count is a fixed number and no guard stands
before it. -/
def Effect.CountsFixed (effect : Effect) : Prop :=
  effect.hits = none ∨ effect.condition = none ∧ ∃ count, effect.hits = some (.literal count)

/-- An effect without its count, as often as the count says. -/
def Effect.copies (effect : Effect) : List Effect :=
  match effect.hits with
  | some (.literal count) => List.replicate count.floorWord.toNat { effect with hits := none }
  | _ => [effect]

/-- Repetition and counts of a card are fixed numbers. -/
structure Card.Unrolls (card : Card) : Prop where
  repeats : card.repeats = none ∨ ∃ again, card.repeats = some { value := .literal again }
  lines : ∀ effect ∈ card.effects, effect.CountsFixed

/-- How often the lines of a card are carried out: once, and again as often as
its fixed repetition says, up to the greatest word of 32 bits. -/
def Card.rounds (card : Card) : Nat :=
  match card.repeats with
  | some { value := .literal again, condition := none } =>
      min (1 + again.floorWord.toNat) 0xffffffff
  | _ => 1

namespace Resolution

/-! ### Loops over lines -/

/-- A list of effects can be cut anywhere: the first part is carried out, and
the second follows unless the first has met a fault. -/
theorem applyAll_append (first second : List Effect) (r : Resolution) :
    applyAll (first ++ second) r = (applyAll first r).bind (applyAll second) := by
  induction first generalizing r with
  | nil => rfl
  | cons effect rest ih =>
      rw [List.cons_append, applyAll, applyAll]
      cases apply effect r with
      | error fault => rfl
      | ok after => exact ih after

theorem applyAll_singleton (effect : Effect) (r : Resolution) :
    applyAll [effect] r = apply effect r := by
  rw [applyAll]
  cases apply effect r with
  | error fault => rfl
  | ok after => rfl

/-- Lines written out so many times are as many rounds of them. -/
theorem applyAll_flatten_replicate (lines : List Effect) (times : Nat) (r : Resolution) :
    applyAll (List.replicate times lines).flatten r = repeatTimes (applyAll lines) times r := by
  induction times generalizing r with
  | zero => rfl
  | succ times ih =>
      rw [List.replicate_succ, List.flatten_cons, applyAll_append, repeatTimes]
      cases applyAll lines r with
      | error fault => rfl
      | ok after => exact ih after

/-- One line written out so many times is as many rounds of it. -/
theorem applyAll_replicate (effect : Effect) (times : Nat) (r : Resolution) :
    applyAll (List.replicate times effect) r = repeatTimes (apply effect) times r := by
  induction times generalizing r with
  | zero => rfl
  | succ times ih =>
      rw [List.replicate_succ, applyAll, repeatTimes]
      cases apply effect r with
      | error fault => rfl
      | ok after => exact ih after

/-! ### Copies of a line -/

/-- The number of an effect is worked out anew each time, and from the same text
in each copy. -/
theorem applyAll_copies {effect : Effect} (fixed : effect.CountsFixed) (r : Resolution) :
    applyAll effect.copies r = apply effect r := by
  rcases fixed with single | ⟨unguarded, count, counted⟩
  · have alone : effect.copies = [effect] := by rw [Effect.copies, single]
    rw [alone, applyAll_singleton]
  · have copies : effect.copies =
        List.replicate count.floorWord.toNat { effect with hits := none } := by
      rw [Effect.copies, counted]
    have each : apply { effect with hits := none } = perform effect :=
      funext (@apply_once { effect with hits := none } unguarded rfl)
    have times : r.game.effectHits r.scope effect = count.floorWord.toNat := by
      rw [Game.effectHits, counted]
      rfl
    calc applyAll effect.copies r
        = repeatTimes (perform effect) count.floorWord.toNat r := by
          rw [copies, applyAll_replicate, each]
      _ = apply effect r := by
          rw [apply, unguarded, Game.allows, if_pos rfl, times]

/-- Writing out each line as often as it is carried out changes nothing, where
the counts are fixed. -/
theorem applyAll_flatMap_copies {effects : List Effect}
    (fixed : ∀ effect ∈ effects, effect.CountsFixed) (r : Resolution) :
    applyAll (effects.flatMap Effect.copies) r = applyAll effects r := by
  induction effects generalizing r with
  | nil => rfl
  | cons effect rest ih =>
      rw [List.flatMap_cons, applyAll_append, applyAll_copies (fixed effect (List.mem_cons_self ..)),
        applyAll]
      cases apply effect r with
      | error fault => rfl
      | ok after => exact ih (fun other mem => fixed other (List.mem_cons_of_mem _ mem)) after

/-! ### Rounds of a card -/

/-- A card without lines is no case of its own: so many rounds of nothing are
nothing. -/
theorem activate_eq (card : Card) (r : Resolution) :
    activate card r = repeatTimes (applyAll card.effects) (r.game.activations r.scope card) r := by
  unfold activate
  split
  · rename_i none
    rw [List.isEmpty_iff.mp none]
    generalize r.game.activations r.scope card = times
    induction times with
    | zero => rfl
    | succ times ih => exact ih
  · rfl

end Resolution

/-- A fixed repetition is the same in every record. -/
theorem Card.Unrolls.activations {card : Card} (unrolls : card.Unrolls) (g : Game) (scope : Scope) :
    g.activations scope card = card.rounds := by
  rcases unrolls.repeats with once | ⟨again, repeats⟩
  · rw [Game.activations, rounds, once]
    rfl
  · have count : (again.floor.truncate 0 0xfffffffe).toNat + 1 =
        min (1 + again.floorWord.toNat) 0xffffffff := by
      have low : Binary64.leastWord = -9223372036854775808 := rfl
      have high : Binary64.greatestWord = 9223372036854775807 := rfl
      rw [Binary64.floorWord, Binary64.toWord, Binary64.truncate, Binary64.truncate]
      cases again.floor.position with
      | none => rfl
      | some place =>
          dsimp only
          omega
    rw [Game.activations, rounds, repeats]
    exact (Nat.add_comm ..).trans count

namespace Game

/-- A card whose repetition and counts are fixed numbers resolves like the card
with its tribe and lifesteal that is not repeated and has all lines written out:
to the same record, dice included, with the same events, or with the same fault. -/
theorem resolveCard_eq_of_writtenOut {card flat : Card} (unrolls : card.Unrolls)
    (tribe : flat.tribe = card.tribe) (lifesteal : flat.lifesteal = card.lifesteal)
    (once : flat.repeats = none)
    (lines : flat.effects =
      (List.replicate card.rounds (card.effects.flatMap Effect.copies)).flatten) (g : Game) :
    g.resolveCard flat = g.resolveCard card := by
  have scope : Scope.ofCard g.active flat = Scope.ofCard g.active card := by
    rw [Scope.ofCard, Scope.ofCard, tribe, lifesteal]
  have single (r : Resolution) : r.game.activations r.scope flat = 1 := by
    rw [activations, once]
    rfl
  have written : Resolution.applyAll (card.effects.flatMap Effect.copies) =
      Resolution.applyAll card.effects :=
    funext fun r => Resolution.applyAll_flatMap_copies unrolls.lines r
  have same (r : Resolution) : Resolution.activate flat r = Resolution.activate card r :=
    calc Resolution.activate flat r
        = Resolution.repeatTimes (Resolution.applyAll flat.effects) 1 r := by
          rw [Resolution.activate_eq, single]
      _ = Resolution.applyAll flat.effects r := by
          rw [← Resolution.applyAll_flatten_replicate, List.replicate_one, List.flatten_singleton]
      _ = Resolution.repeatTimes (Resolution.applyAll card.effects) card.rounds r := by
          rw [lines, Resolution.applyAll_flatten_replicate, written]
      _ = Resolution.activate card r := by
          rw [Resolution.activate_eq, unrolls.activations]
  unfold resolveCard
  rw [scope, same]

/-- A card that hits twice and makes its user stronger, all of it once more. -/
def barrage : Card where
  name := "Barrage"
  effects := [{ Effect.damage 1 with hits := some (.literal 2) }, .giveStatus .strength 1]
  repeats := some { value := .literal (3 / 2) }

/-- The same card with its six lines. -/
def longBarrage : Card where
  name := "Long barrage"
  effects := [.damage 1, .damage 1, .giveStatus .strength 1, .damage 1, .damage 1,
    .giveStatus .strength 1]

/-- In the example the card with a count and a repetition tells of the same four
hits as the card with its six lines, and leaves the same record. -/
theorem barrage_written_out :
    ∃ after, (Game.fresh .standard 7).resolveCard barrage =
        .ok (after, [1, 1, 2, 2].map fun hit => .damage .user .opponent hit) ∧
      (Game.fresh .standard 7).resolveCard longBarrage =
        (Game.fresh .standard 7).resolveCard barrage := by
  have unrolls : barrage.Unrolls := by
    refine ⟨.inr ⟨3 / 2, rfl⟩, fun effect line => ?_⟩
    rcases List.mem_cons.mp line with rfl | line
    · exact .inr ⟨rfl, 2, rfl⟩
    · obtain rfl := List.mem_singleton.mp line
      exact .inl rfl
  have lines : longBarrage.effects =
      (List.replicate barrage.rounds (barrage.effects.flatMap Effect.copies)).flatten := by
    decide +kernel
  have told : ((Game.fresh .standard 7).resolveCard longBarrage).toOption.map Prod.snd =
      some ([1, 1, 2, 2].map fun hit => .damage .user .opponent hit) := by
    decide +kernel
  have tribe : longBarrage.tribe = barrage.tribe := rfl
  have lifesteal : longBarrage.lifesteal = barrage.lifesteal := rfl
  have same := resolveCard_eq_of_writtenOut unrolls tribe lifesteal rfl lines (.fresh .standard 7)
  cases ok : (Game.fresh .standard 7).resolveCard longBarrage with
  | error fault =>
      rw [ok] at told
      cases told
  | ok outcome =>
      obtain ⟨after, events⟩ := outcome
      rw [ok] at told same
      obtain rfl := Option.some.inj told
      exact ⟨after, same.symm, same⟩

end Game

end CardBattle
