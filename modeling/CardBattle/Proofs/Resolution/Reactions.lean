/-
Module: CardBattle.Proofs.Resolution.Reactions
Purpose: A single hit is answered by relics once at most, and writes what its events tell.
Main exports:
  Resolution.hitWith, Resolution.hitWith_hitWith, Resolution.Inflicts,
  Resolution.reduceHealth_inflicts, Resolution.Hardens, Resolution.reduceHealth_answered_once
-/
import CardBattle.Proofs.Game.TurnBooks
import CardBattle.Proofs.Resolution.Hits

/-!
# Answers to hits

The damage that relics pass on is dealt as a hit of its own, which could be answered in turn.
`hitWith` says what one hit does and leaves open how the hit that is passed on is dealt.  That hit goes
to the other side, and nothing answers such a hit; so the second time nothing is passed on, and two
rounds are all that a hit ever takes, whatever relics there are on both sides.

What a hit writes is what its one or two events tell: health, the tally of the card and the damage that
a side has dealt in its turn.  Apart from these it can give strength to a side that has hurt itself.
-/

namespace CardBattle

namespace Combatant

/-- The combatant with health lost, damage dealt to the other side, and other
counters. -/
def struck (c : Combatant) (lost dealt : Int) (counters : OrderedMap Status Binary64) : Combatant :=
  { c with
    health := c.health - lost
    damageThisTurn := c.damageThisTurn + dealt
    statuses := counters }

/-- Losses and damage dealt add up, and of counters the later ones stand. -/
theorem struck_struck (c : Combatant) (lost dealt moreLost moreDealt : Int)
    (counters last : OrderedMap Status Binary64) :
    (c.struck lost dealt counters).struck moreLost moreDealt last =
      c.struck (lost + moreLost) (dealt + moreDealt) last := by
  simp only [struck, Int.sub_sub, Int.add_assoc]

theorem struck_zero (c : Combatant) : c.struck 0 0 c.statuses = c := by
  rw [struck, Int.sub_zero, Int.add_zero]

/-- Setting a counter is a change of this form in which no health is lost and
none dealt. -/
theorem setStatus_eq_struck (c : Combatant) (s : Status) (value : Binary64) :
    c.setStatus s value = c.struck 0 0 (c.setStatus s value).statuses := by
  rw [struck, Int.sub_zero, Int.add_zero]
  exact setStatus_eq ..

theorem find?_setStatus_of_ne (c : Combatant) {s other : Status} (value : Binary64)
    (apart : other ≠ s) : (c.setStatus s value).statuses.find? other = c.statuses.find? other := by
  unfold setStatus
  dsimp only
  split
  · exact OrderedMap.find?_erase_ne _ apart
  · exact OrderedMap.find?_insert_ne _ apart _

/-- Which counters there are after a change of one depends on the counters
alone. -/
theorem statuses_addStatus_congr {c d : Combatant} (same : d.statuses = c.statuses) (s : Status)
    (addend : Binary64) : (d.addStatus s addend).statuses = (c.addStatus s addend).statuses := by
  unfold addStatus setStatus status
  dsimp only
  rw [same]
  split <;> rfl

end Combatant

/-- An event of damage counts as dealt where it goes from a side to the one
across the table. -/
theorem dealtSum_damage (side source target : Side) (amount : Int) :
    dealtSum side [.damage source target amount] =
      if source = side ∧ target = side.other then amount else 0 := by
  rw [dealtSum_singleton, BattleEvent.dealtBy?]
  split <;> rfl

namespace Resolution

/-! ### One round -/

/-- What a hit does, where `again` deals the hit that relics pass on. -/
def hitWith (again : Resolution → Side → Side → Int → Resolution × Int) (r : Resolution)
    (source target : Side) (amount : Int) : Resolution × Int :=
  let counted := max amount 0
  let taken :=
    if source ≠ target ∧ 0 < counted then
      (r.combatant source).leastHit?.elim counted (max counted)
    else counted
  let hurt := r.wound source target taken
  if source ≠ target then
    (hurt.update source fun c => { c with damageThisTurn := c.damageThisTurn + taken }, taken)
  else
    let response := (hurt.combatant target).damageResponse taken (target = hurt.game.active)
    let stronger :=
      if 0 < response.strength then
        hurt.update target fun c => c.addStatus .strength response.strength
      else hurt
    if 0 < response.mirrored then
      ((again stronger target target.other response.mirrored).1, taken)
    else (stronger, taken)

/-- How far a hit on the other side is raised, said without a case for the relic
that is missing. -/
theorem raisedHit_eq (dealer : Combatant) (amount : Int) :
    raisedHit dealer amount =
      if 0 < amount then dealer.leastHit?.elim amount (max amount) else max amount 0 := by
  unfold raisedHit
  split
  · cases dealer.leastHit? <;> rfl
  · rename_i none
    exact (Int.max_eq_right (Int.not_lt.mp none)).symm

/-- The health that a hit takes: what it counts, raised where it is a positive
hit on the other side. -/
theorem hitSize_eq (r : Resolution) (source target : Side) (amount : Int) :
    r.hitSize source target amount =
      if source ≠ target ∧ 0 < amount then
        (r.combatant source).leastHit?.elim amount (max amount)
      else max amount 0 := by
  unfold hitSize
  by_cases own : source = target
  · rw [if_pos own, if_neg fun both => both.1 own]
  · rw [if_neg own, raisedHit_eq]
    simp only [ne_eq, own, not_false_eq_true, true_and]

/-- A hit on the other side is not answered. -/
theorem hitWith_other (again : Resolution → Side → Side → Int → Resolution × Int) (r : Resolution)
    (source : Side) (amount : Int) :
    hitWith again r source source.other amount = r.hitOther source amount := by
  have raised : (if source ≠ source.other ∧ 0 < max amount 0 then
      (r.combatant source).leastHit?.elim (max amount 0) (max (max amount 0)) else max amount 0) =
        raisedHit (r.combatant source) amount := by
    rw [raisedHit_eq]
    by_cases positive : 0 < amount
    · rw [Int.max_eq_left (Int.le_of_lt positive), if_pos ⟨Side.ne_other source, positive⟩,
        if_pos positive]
    · have counted := Int.max_eq_right (Int.not_lt.mp positive)
      rw [counted, if_neg fun both => Int.lt_irrefl 0 both.2, if_neg positive]
  unfold hitWith hitOther
  dsimp only
  rw [raised, if_pos (Side.ne_other source)]

/-- A hit of a side on itself, step by step. -/
theorem hitWith_self (again : Resolution → Side → Side → Int → Resolution × Int) (r : Resolution)
    (side : Side) (amount : Int) :
    hitWith again r side side amount =
      let taken := max amount 0
      let response := (r.combatant side).damageResponse taken (side = r.game.active)
      let hurt := (r.wound side side taken).hardened side response.strength
      (if 0 < response.mirrored then (again hurt side side.other response.mirrored).1 else hurt,
        taken) := by
  have own : ¬ side ≠ side := fun apart => apart rfl
  have unraised : ¬ (side ≠ side ∧ 0 < max amount 0) := fun both => own both.1
  have answered : ((r.wound side side (max amount 0)).combatant side).damageResponse
      (max amount 0) (side = r.game.active) =
        (r.combatant side).damageResponse (max amount 0) (side = r.game.active) :=
    Combatant.damageResponse_congr (relics_wound ..) ..
  unfold hitWith hardened
  dsimp only
  rw [if_neg own, if_neg unraised,
    show (r.wound side side (max amount 0)).game.active = r.game.active from rfl, answered]
  split <;> rfl

/-- After two rounds nothing is left to be dealt: `again` is never called. -/
theorem hitWith_hitWith (again : Resolution → Side → Side → Int → Resolution × Int) (r : Resolution)
    (source target : Side) (amount : Int) :
    hitWith (hitWith again) r source target amount = r.reduceHealth source target amount := by
  rcases Side.eq_or_eq_other target source with rfl | rfl
  · rw [hitWith_self, reduceHealth, if_pos rfl, hitSelf_eq]
    dsimp only
    rw [hitWith_other]
  · rw [hitWith_other, reduceHealth, if_neg (Side.ne_other source)]

/-! ### What is written -/

/-- Events of damage are told, and nothing is written but what they tell and
counters. -/
structure Inflicts (r : Resolution) (told : List BattleEvent) (after : Resolution) : Prop where
  log : after.log = r.log ++ told
  tally : ∀ side, after.scope.damageTaken.get side =
    r.scope.damageTaken.get side + damageSum side told
  combatant : ∀ side, after.combatant side =
    (r.combatant side).struck (damageSum side told) (dealtSum side told)
      (after.combatant side).statuses
  game : after.game = { r.game with combatants := after.game.combatants }
  scope : after.scope =
    { r.scope with damageTaken := after.scope.damageTaken, events := after.scope.events }

namespace Inflicts

variable {r mid after : Resolution} {first second : List BattleEvent}

theorem refl (r : Resolution) : r.Inflicts [] r where
  log := (List.append_nil _).symm
  tally _ := (Int.add_zero _).symm
  combatant _ := (Combatant.struck_zero _).symm
  game := rfl
  scope := rfl

/-- What is told in two steps adds up, in the log as in health and tallies. -/
theorem trans (one : r.Inflicts first mid) (two : mid.Inflicts second after) :
    r.Inflicts (first ++ second) after where
  log := by rw [two.log, one.log, List.append_assoc]
  tally side := by rw [two.tally, one.tally, damageSum_append, Int.add_assoc]
  combatant side := by
    rw [damageSum_append, dealtSum_append, ← Combatant.struck_struck, ← one.combatant]
    exact two.combatant side
  game := by
    rw [two.game, one.game]
  scope := by
    rw [two.scope, one.scope]

end Inflicts

variable {r : Resolution}

/-- A hit on the other side writes what its one event tells: the target's health
and the dealer's tally. -/
theorem hitOther_inflicts (r : Resolution) (source : Side) (amount : Int) :
    r.Inflicts [.damage source source.other (raisedHit (r.combatant source) amount)]
      (r.hitOther source amount).1 where
  log := log_hitOther ..
  tally side := by
    show (r.scope.damageTaken.update source.other (· + _)).get side = _
    rw [Sides.get_update, damageSum_damage]
    split <;> simp
  combatant side := by
    rw [damageSum_damage, dealtSum_damage]
    cases source <;> cases side <;>
      simp [hitOther, wound, update, Resolution.combatant, Game.combatant, Game.updateCombatant,
        Sides.update, Sides.get, Side.other, Combatant.struck]
  game := rfl
  scope := rfl

/-- A side that hits itself loses health and deals nothing. -/
theorem wound_inflicts (r : Resolution) (side : Side) (amount : Int) :
    r.Inflicts [.damage side side amount] (r.wound side side amount) where
  log := log_wound ..
  tally party := by
    show (r.scope.damageTaken.update side (· + amount)).get party = _
    rw [Sides.get_update, damageSum_damage]
    split <;> simp
  combatant party := by
    rw [damageSum_damage, dealtSum_damage]
    cases side <;> cases party <;>
      simp [wound, Resolution.combatant, Game.combatant, Game.updateCombatant, Sides.update,
        Sides.get, Side.other, Combatant.struck]
  game := rfl
  scope := rfl

/-- A change of nothing but counters tells of no damage. -/
theorem update_inflicts {r : Resolution} {side : Side} {change : Combatant → Combatant}
    (counters : ∀ c, change c = c.struck 0 0 (change c).statuses) :
    r.Inflicts [] (r.update side change) where
  log := (List.append_nil _).symm
  tally _ := (Int.add_zero _).symm
  combatant party := by
    show (r.game.updateCombatant side change).combatant party =
      (r.game.combatant party).struck 0 0 ((r.game.updateCombatant side change).combatant party).statuses
    rcases Side.eq_or_eq_other party side with rfl | rfl
    · rw [Game.combatant_updateCombatant_self]
      exact counters _
    · rw [Game.combatant_updateCombatant_other, Combatant.struck_zero]
  game := rfl
  scope := rfl

/-- Strength for damage to oneself is a counter, and no event tells of it. -/
theorem hardened_inflicts (r : Resolution) (side : Side) (strength : Binary64) :
    r.Inflicts [] (r.hardened side strength) := by
  unfold hardened
  split
  · exact update_inflicts fun c => c.setStatus_eq_struck ..
  · exact .refl r

/-- What is written by a hit, with all that answers it, is what its events tell. -/
theorem reduceHealth_inflicts (r : Resolution) (source target : Side) (amount : Int) :
    r.Inflicts (r.hitEvents source target (r.hitSize source target amount))
      (r.reduceHealth source target amount).1 := by
  unfold hitEvents hitSize
  rcases Side.eq_or_eq_other target source with rfl | rfl
  · rw [if_pos rfl, if_pos rfl, reduceHealth, if_pos rfl, hitSelf_eq, passedOn]
    dsimp only
    generalize (r.combatant target).damageResponse (max amount 0) (target = r.game.active) = answer
    have hurt := (r.wound_inflicts target (max amount 0)).trans
      (hardened_inflicts _ target answer.strength)
    split
    · have relics := (relics_hardened (r.wound target target (max amount 0)) target answer.strength
        target).trans (relics_wound ..)
      have passed := hurt.trans (hitOther_inflicts _ target answer.mirrored)
      rwa [raisedHit_congr relics] at passed
    · exact hurt
  · rw [if_neg (Side.ne_other source), if_neg (Side.ne_other source), reduceHealth,
      if_neg (Side.ne_other source)]
    exact hitOther_inflicts ..

/-! ### Strength -/

/-- The strength that relics give a side for damage that it has done to itself,
and no counter of either side moves but that. -/
structure Hardens (r : Resolution) (source target : Side) (taken : Int) (after : Resolution) :
    Prop where
  gained : ∀ side, (after.combatant side).statuses =
    let strength := ((r.combatant target).damageResponse taken (target = r.game.active)).strength
    if side = target ∧ source = target ∧ 0 < strength then
      ((r.combatant side).addStatus .strength strength).statuses
    else (r.combatant side).statuses
  kept : ∀ side s,
    (after.combatant side).statuses.find? s ≠ (r.combatant side).statuses.find? s →
      s = .strength ∧ side = target ∧ source = target

/-- A change that leaves the counters of the side it changes leaves them on
both. -/
theorem statuses_update {side : Side} {change : Combatant → Combatant}
    (kept : (change (r.combatant side)).statuses = (r.combatant side).statuses) (party : Side) :
    ((r.update side change).combatant party).statuses = (r.combatant party).statuses :=
  Game.view_updateCombatant Combatant.statuses kept party

theorem statuses_wound (r : Resolution) (source target : Side) (amount : Int) (party : Side) :
    ((r.wound source target amount).combatant party).statuses = (r.combatant party).statuses :=
  Game.view_updateCombatant Combatant.statuses rfl party

theorem statuses_hitOther (r : Resolution) (source : Side) (amount : Int) (party : Side) :
    ((r.hitOther source amount).1.combatant party).statuses = (r.combatant party).statuses :=
  (statuses_update rfl party).trans (statuses_wound ..)

/-- The side that has hurt itself gains the strength that its relics give, and
the other side gains none. -/
theorem statuses_hardened (r : Resolution) (side : Side) (strength : Binary64) (party : Side) :
    ((r.hardened side strength).combatant party).statuses =
      if party = side ∧ 0 < strength then ((r.combatant party).addStatus .strength strength).statuses
      else (r.combatant party).statuses := by
  unfold hardened
  by_cases some : 0 < strength
  · rw [if_pos some]
    rcases Side.eq_or_eq_other party side with rfl | rfl
    · rw [if_pos ⟨rfl, some⟩]
      exact congrArg Combatant.statuses (Game.combatant_updateCombatant_self ..)
    · rw [if_neg fun both => Side.other_ne side both.1]
      exact congrArg Combatant.statuses (Game.combatant_updateCombatant_other ..)
  · rw [if_neg some, if_neg fun both => some both.2]

/-- All that a hit on oneself stores in counters is this strength.  What is
passed on stores nothing. -/
theorem statuses_hitSelf (r : Resolution) (side : Side) (amount : Int) (party : Side) :
    ((r.hitSelf side amount).1.combatant party).statuses =
      let strength :=
        ((r.combatant side).damageResponse (max amount 0) (side = r.game.active)).strength
      if party = side ∧ 0 < strength then ((r.combatant party).addStatus .strength strength).statuses
      else (r.combatant party).statuses := by
  rw [hitSelf_eq]
  dsimp only
  generalize (r.combatant side).damageResponse (max amount 0) (side = r.game.active) = answer
  have hurt := statuses_hardened (r.wound side side (max amount 0)) side answer.strength party
  rw [Combatant.statuses_addStatus_congr (statuses_wound ..), statuses_wound] at hurt
  split
  · rw [statuses_hitOther, hurt]
  · exact hurt

/-- Only a hit of a side on itself moves a counter. -/
theorem reduceHealth_hardens (r : Resolution) (source target : Side) (amount : Int) :
    r.Hardens source target (r.hitSize source target amount)
      (r.reduceHealth source target amount).1 := by
  have gained : ∀ side, ((r.reduceHealth source target amount).1.combatant side).statuses =
      let strength := ((r.combatant target).damageResponse (r.hitSize source target amount)
        (target = r.game.active)).strength
      if side = target ∧ source = target ∧ 0 < strength then
        ((r.combatant side).addStatus .strength strength).statuses
      else (r.combatant side).statuses := by
    intro side
    rcases Side.eq_or_eq_other target source with rfl | rfl
    · rw [reduceHealth, hitSize, if_pos rfl, if_pos rfl, statuses_hitSelf]
      simp only [true_and]
    · rw [reduceHealth, if_neg (Side.ne_other source), statuses_hitOther]
      simp
  refine ⟨gained, fun side s moved => ?_⟩
  rw [gained side] at moved
  dsimp only at moved
  split at moved
  · rename_i hardened
    refine ⟨?_, hardened.1, hardened.2.1⟩
    by_contra other
    exact moved (Combatant.find?_setStatus_of_ne _ _ other)
  · exact absurd rfl moved

/-! ### Main result -/

/-- A hit is over after two rounds, whatever would be done in a third, and tells
one or two events.  The first is its own: its size is what it takes, never below
zero, and raised by the dealer's relics only where it is a positive hit on the
other side.  A second is told only where the side whose turn it is has really
hurt itself, and then as a positive hit on the other side.  Health, the tally
and the damage dealt change by exactly these events; of all counters only the
strength of a side that has hurt itself can move, by what its relics give for
the first event alone; and nothing else of the record or the scope is written. -/
theorem reduceHealth_answered_once (r : Resolution) (source target : Side) (amount : Int) :
    ∃ after taken further,
      r.reduceHealth source target amount = (after, taken) ∧
      (∀ again, hitWith (hitWith again) r source target amount = (after, taken)) ∧
      taken = (if source ≠ target ∧ 0 < amount then
        (r.combatant source).leastHit?.elim amount (max amount) else max amount 0) ∧
      (further = [] ∨ (source = target ∧ target = r.game.active ∧ 0 < taken) ∧
        ∃ passed, 0 < passed ∧ further = [.damage target target.other passed]) ∧
      r.Inflicts (.damage source target taken :: further) after ∧
      r.Hardens source target taken after := by
  have taken : (r.reduceHealth source target amount).2 = r.hitSize source target amount :=
    snd_reduceHealth ..
  refine ⟨_, r.hitSize source target amount, _, Prod.ext rfl taken, fun again => ?_, hitSize_eq ..,
    ?_, reduceHealth_inflicts .., reduceHealth_hardens ..⟩
  · rw [hitWith_hitWith]
    exact Prod.ext rfl taken
  · split
    · rename_i own
      rcases passedOn_cases r source (r.hitSize source target amount) with
        none | ⟨⟨inTurn, positive⟩, passed, counted, told⟩
      · exact .inl none
      · subst own
        exact .inr ⟨⟨rfl, inTurn, positive⟩, passed, counted, told⟩
    · exact .inl rfl

end Resolution

end CardBattle
