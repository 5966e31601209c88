/-
Module: CardBattle.Proofs.Resolution.Volleys
Purpose: What a damage effect of many hits comes to against a side that bleeds.
Main exports:
  Resolution.volley, Resolution.Score, Resolution.Unaided, Resolution.Unaided.damage,
  Resolution.score_strikeOnce, Resolution.repeatTimes_volleyOf, Resolution.apply_volley
-/
import CardBattle.Proofs.Resolution.Blows
import Mathlib.Algebra.Ring.Int.Defs

/-!
# Volleys

Where nothing but strength and bleeding plays a part, every hit of a damage effect is of one size,
and each of the first is followed by a further one for as long as the other side bleeds.  What a hit
does to health, tallies and log is kept in one score, so that a volley is the list of its hits
entered into it.
-/

namespace CardBattle

namespace Resolution

/-! ### The hits of a volley -/

/-- Sizes of so many hits on a side with some stacks of bleed: a further hit
follows each of the first ones, until the bleeding stops. -/
def volley (hits bled : Nat) (size further : Int) : List Int :=
  (List.replicate (min hits bled) [size, further]).flatten ++ List.replicate (hits - bled) size

section Sizes

variable (hits bled : Nat) (size further : Int)

theorem volley_zero : volley 0 bled size further = [] := by
  simp [volley]

/-- A volley unfolds from its front: a hit, the further one if a stack of bleed
is left, and the rest with one stack less. -/
theorem volley_succ :
    volley (hits + 1) bled size further =
      [size] ++ (if 0 < bled then [further] else []) ++
        volley hits (bled - 1) size further := by
  cases bled with
  | zero => simp [volley, List.replicate_succ]
  | succ bled => simp [volley, Nat.add_min_add_right, List.replicate_succ]

/-- Each hit of a volley is followed by a further one for as long as there are
stacks of bleed. -/
theorem length_volley : (volley hits bled size further).length = hits + min hits bled := by
  simp only [volley, List.length_append, List.length_flatten, List.map_replicate, List.length_cons,
    List.length_nil, List.sum_replicate_nat, List.length_replicate]
  omega

/-- What a volley takes in all, from the sizes of its two sorts of hits. -/
theorem sum_volley :
    (volley hits bled size further).sum = hits * size + min hits bled * further := by
  induction hits generalizing bled with
  | zero => simp [volley_zero]
  | succ hits ih =>
    rw [volley_succ, List.sum_append, ih]
    cases bled with
    | zero =>
      simp only [Nat.lt_irrefl, if_false, List.append_nil, List.sum_cons, List.sum_nil,
        Nat.zero_sub, Nat.min_zero, Int.natCast_succ, Int.add_mul, Int.one_mul]
      omega
    | succ bled =>
      simp only [Nat.zero_lt_succ, if_true, List.cons_append, List.nil_append, List.sum_cons,
        List.sum_nil, Nat.add_one_sub_one, Nat.add_min_add_right, Int.natCast_succ, Int.add_mul,
        Int.one_mul]
      omega

end Sizes

/-! ### The score -/

/-- What hits of one side on the other are entered into. -/
structure Score where
  log : List BattleEvent
  /-- Health of the side that is hit. -/
  health : Int
  /-- Damage that the other one has dealt in its turn. -/
  dealt : Int
  /-- Damage that the side has taken while the card resolves. -/
  taken : Int

/-- The score with some more hits. -/
def Score.enter (score : Score) (dealer : Side) (sizes : List Int) : Score where
  log := score.log ++ sizes.map fun size => .damage dealer dealer.other size
  health := score.health - sizes.sum
  dealt := score.dealt + sizes.sum
  taken := score.taken + sizes.sum

theorem Score.enter_nil (score : Score) (dealer : Side) : score.enter dealer [] = score := by
  simp [enter]

/-- Entering hits in two goes is entering them at once, in their order. -/
theorem Score.enter_enter (score : Score) (dealer : Side) (first second : List Int) :
    (score.enter dealer first).enter dealer second = score.enter dealer (first ++ second) := by
  simp only [enter, List.map_append, List.sum_append, List.append_assoc, Score.mk.injEq, true_and]
  omega

/-- The score of the active side. -/
def score (r : Resolution) : Score where
  log := r.log
  health := (r.combatant r.active.other).health
  dealt := (r.combatant r.active).damageThisTurn
  taken := r.scope.damageTaken.get r.active.other

variable {r : Resolution}

/-- A hit on the other side is entered with what it takes, into health, both
tallies and the log alike. -/
theorem score_hitOther (r : Resolution) (amount : Int) :
    (r.hitOther r.active amount).1.score =
      r.score.enter r.active [raisedHit (r.combatant r.active) amount] := by
  generalize size : raisedHit (r.combatant r.active) amount = taken
  have hurt : ((r.hitOther r.active amount).1.combatant r.active.other).health =
      (r.combatant r.active.other).health - taken := by
    rw [← size]
    exact (congrArg Combatant.health (Game.combatant_updateCombatant_other ..)).trans
      (congrArg Combatant.health (Game.combatant_updateCombatant_self ..))
  have dealt : ((r.hitOther r.active amount).1.combatant r.active).damageThisTurn =
      (r.combatant r.active).damageThisTurn + taken := by
    rw [← size]
    refine (congrArg Combatant.damageThisTurn (Game.combatant_updateCombatant_self ..)).trans ?_
    exact congrArg (fun c : Combatant => c.damageThisTurn + _) (Sides.get_update_of_other ..)
  have counted : (r.hitOther r.active amount).1.scope.damageTaken.get r.active.other =
      r.scope.damageTaken.get r.active.other + taken := by
    rw [← size]
    exact Sides.get_update_self ..
  change (⟨(r.hitOther r.active amount).1.log,
    ((r.hitOther r.active amount).1.combatant r.active.other).health,
    ((r.hitOther r.active amount).1.combatant r.active).damageThisTurn,
    (r.hitOther r.active amount).1.scope.damageTaken.get r.active.other⟩ : Score) = _
  rw [log_hitOther, hurt, dealt, counted, size]
  simp [Score.enter, score]

theorem score_noteDamage (r : Resolution) (target : Side) :
    (r.noteDamage target).score = r.score := by
  unfold noteDamage
  split <;> rfl

theorem score_addStatus (r : Resolution) (side : Side) (s : Status) (addend : Binary64) :
    (r.update side fun c => c.addStatus s addend).score = r.score := by
  have health (party : Side) :
      ((r.update side fun c => c.addStatus s addend).combatant party).health =
        (r.combatant party).health :=
    Game.view_updateCombatant Combatant.health (Combatant.health_setStatus ..) party
  have dealt (party : Side) :
      ((r.update side fun c => c.addStatus s addend).combatant party).damageThisTurn =
        (r.combatant party).damageThisTurn :=
    Game.view_updateCombatant Combatant.damageThisTurn (Combatant.damageThisTurn_setStatus ..) party
  unfold score
  rw [health, dealt]
  rfl

/-! ### A hit that nothing adds to -/

/-- The active side strikes by its strength alone, and the other side has
nothing against it that counts hits except its bleeding. -/
structure Unaided (r : Resolution) : Prop where
  relics : (r.combatant r.active).relics = []
  crit : (r.combatant r.active).has .crit = false
  fireCrit : r.scope.tribe = .fire → (r.combatant r.active).has .tempFireCrit = false
  lifesteal : (r.combatant r.active).has .lifesteal = false
  burnLifesteal : (r.combatant r.active).has .burnLifesteal = false
  granted : r.scope.lifesteal = none
  standing : ¬ (r.combatant r.active.other).CanDodge
  shock : (r.combatant r.active.other).has .shock = false

/-- A number with the strength of the active side. -/
def strengthened (r : Resolution) (value : Binary64) : Binary64 :=
  value + ((r.combatant r.active).status .strength + (r.combatant r.active).status .tempStrength)

/-- One hit on the other side, with the note that is taken of it. -/
def strike (r : Resolution) (amount : Int) : Resolution :=
  (r.hitOther r.active amount).1.noteDamage r.active.other

/-- One hit on the other side, with the further one while it bleeds. -/
def strikeOnce (r : Resolution) (amount : Int) : Resolution :=
  (r.strike amount).bleedOut r.active.other

/-- Without relics a hit takes its own amount, and nothing if that is negative. -/
theorem raisedHit_of_no_relics {c : Combatant} (none : c.relics = []) (amount : Int) :
    raisedHit c amount = max amount 0 := by
  have free : c.leastHit? = .none := by
    rw [Combatant.leastHit?, Combatant.relicsOf, none]
    rfl
  rw [raisedHit, free]
  dsimp only
  omega

namespace Unaided

/-- A side that strikes by its strength alone has nothing that makes its hits
critical. -/
theorem strikesCritically (unaided : r.Unaided) :
    strikesCritically r.scope (r.combatant r.active) = false := by
  rw [Resolution.strikesCritically, unaided.crit, Bool.false_or]
  by_cases fire : r.scope.tribe = .fire
  · rw [unaided.fireCrit fire, Bool.and_false]
  · rw [decide_eq_false fire, Bool.false_and]

/-- Nothing doubles the blow and no health comes back from it: no relic throws a
coin, and no share of lifesteal is left. -/
theorem aim (unaided : r.Unaided) (value : Binary64) :
    ∃ share, ¬ 0 < share ∧
      r.aim r.active.other value = .ok (⟨r.strengthened value, share⟩, r) := by
  have hit : (r.combatant r.active).outgoingHit false r.game.dice =
      .ok (⟨false, 0⟩, r.game.dice) := by
    simp [Combatant.outgoingHit, Combatant.relicsOf, unaided.relics, Combatant.rollCritical]
  have own : ¬ 0 < (r.combatant r.active).status .lifesteal :=
    of_decide_eq_false unaided.lifesteal
  have burn : ¬ 0 < (r.combatant r.active).status .burnLifesteal :=
    of_decide_eq_false unaided.burnLifesteal
  have card : r.cardLifesteal = 0 := by rw [cardLifesteal, unaided.granted]
  have share := Binary64.not_pos_add (Binary64.not_pos_add own Binary64.not_zero_pos)
    Binary64.not_zero_pos
  refine ⟨if (r.combatant r.active.other).has .burn then
      (r.combatant r.active).status .lifesteal + 0 + 0 +
        (r.combatant r.active).status .burnLifesteal
    else (r.combatant r.active).status .lifesteal + 0 + 0, ?_, ?_⟩
  · split
    · exact Binary64.not_pos_add share burn
    · exact share
  · rw [Resolution.aim, if_neg (Side.other_ne _)]
    dsimp only
    rw [unaided.strikesCritically, hit, card]
    rfl

end Unaided

theorem drain_eq_self {amount : Int} {share : Binary64} (counted : 0 ≤ amount)
    (none : ¬ 0 < share) (r : Resolution) (target : Side) : r.drain target amount share = r := by
  have kept : ¬ 0 < (Binary64.ofInt amount * share).floorWord := by
    rw [Binary64.floorWord_pos_iff]
    exact fun enough =>
      Binary64.not_pos_ofInt_mul counted none (Binary64.pos_of_one_le enough)
  unfold drain
  dsimp only
  rw [if_neg kept, ite_self]

theorem buildShock_eq_self {c : Combatant} (calm : c.has .shock = false) (threshold : Int) :
    buildShock threshold c = c := by
  rw [buildShock, calm, if_neg Bool.false_ne_true]

/-- A blow without a share of lifesteal meets a side without shock, and nothing
comes of it before the hit. -/
theorem Unaided.meet (unaided : r.Unaided) {blow : Blow} (none : ¬ 0 < blow.lifesteal) :
    r.meet r.active.other blow = r := by
  unfold Resolution.meet
  split
  · rename_i positive
    have calm : buildShock r.game.rules.shockThreshold (r.combatant r.active.other) =
        r.combatant r.active.other := buildShock_eq_self unaided.shock _
    have still : r.update r.active.other (buildShock r.game.rules.shockThreshold) =
        r.update r.active.other fun c => c := update_congr calm
    rw [drain_eq_self (Int.le_of_lt positive) none, still, update_id]
  · rfl

/-- Damage with its number is one hit, with the further one on a bleeding side,
and there is no dodge in between. -/
theorem Unaided.damage (unaided : r.Unaided) {value : Binary64}
    (positive : 0 < (r.strengthened value).floorWord) :
    r.damage r.active.other value =
      .ok (r.strikeOnce (r.strengthened value).floorWord) := by
  obtain ⟨share, none, aims⟩ := unaided.aim value
  have size : r.blowSize r.active.other ⟨r.strengthened value, share⟩ =
      (r.strengthened value).floorWord := by
    rw [blowSize, hitSize, if_neg (Side.ne_other _), raisedHit_of_no_relics unaided.relics]
    dsimp only
    omega
  have felt : r.feel r.active.other ⟨r.strengthened value, share⟩ =
      (r.hitOther r.active (r.strengthened value).floorWord).1 := by
    rw [feel, unaided.meet none, reduceHealth, if_neg (Side.ne_other _)]
  unfold Resolution.damage
  rw [dodge?_eq_none unaided.standing]
  dsimp only
  rw [aims]
  dsimp only
  rw [land_eq, size, if_pos positive, felt, strikeOnce, strike]

/-! ### What one hit leaves -/

/-- What a hit on the other side is followed by while it bleeds. -/
def furtherHit (r : Resolution) : List Int :=
  if (r.combatant r.active.other).has .bleed then [max r.game.rules.bleedDamage 0] else []

/-- The further hit is entered while the side bleeds, and nothing otherwise. -/
theorem score_bleedOut (relics : (r.combatant r.active).relics = []) :
    (r.bleedOut r.active.other).score = r.score.enter r.active r.furtherHit := by
  unfold bleedOut furtherHit
  split
  · rw [score_addStatus, reduceHealth, if_neg (Side.ne_other _), score_hitOther,
      raisedHit_of_no_relics relics]
  · rw [Score.enter_nil]

/-- The further hit moves no counter but the bleeding, and that of its target
alone. -/
theorem status_bleedOut {party : Side} {s : Status}
    (apart : party ≠ r.active.other ∨ s ≠ .bleed) :
    ((r.bleedOut r.active.other).combatant party).status s = (r.combatant party).status s := by
  unfold bleedOut
  split
  · rw [reduceHealth, if_neg (Side.ne_other _)]
    have hit := status_hitOther r r.active r.game.rules.bleedDamage s party
    rcases apart with elsewhere | other
    · refine Eq.trans ?_ hit
      unfold combatant update
      rw [Game.combatant_updateCombatant, if_neg elsewhere]
    · exact (status_update (Combatant.status_setStatus_of_ne _ _ other) party).trans hit
  · rfl

/-- A strike is made of elementary changes, so it keeps all that these keep. -/
theorem strike_changes {may : EffectKind → Prop} (r : Resolution) (amount : Int) :
    Changes may r (r.strike amount) :=
  have hit : Changes may r (r.hitOther r.active amount).1 := .single (hitOther_change rfl amount)
  hit.trans (noteDamage_changes ..)

theorem status_strike (r : Resolution) (amount : Int) (s : Status) (party : Side) :
    ((r.strike amount).combatant party).status s = (r.combatant party).status s := by
  rw [strike, combatant_noteDamage, status_hitOther]

theorem score_strike (relics : (r.combatant r.active).relics = []) {amount : Int}
    (positive : 0 < amount) : (r.strike amount).score = r.score.enter r.active [amount] := by
  rw [strike, score_noteDamage, score_hitOther, raisedHit_of_no_relics relics,
    Int.max_eq_left (Int.le_of_lt positive)]

theorem strikeOnce_changes {may : EffectKind → Prop} (r : Resolution) (amount : Int) :
    Changes may r (r.strikeOnce amount) :=
  (strike_changes r amount).trans (bleedOut_changes ..)

/-- A strike with its further hit moves no counter but the bleeding of its
target. -/
theorem status_strikeOnce {party : Side} {s : Status}
    (apart : party ≠ r.active.other ∨ s ≠ .bleed) (amount : Int) :
    ((r.strikeOnce amount).combatant party).status s = (r.combatant party).status s := by
  have struck : Changes (fun _ => False) r (r.strike amount) := strike_changes ..
  rw [← struck.active_eq] at apart
  rw [strikeOnce, ← struck.active_eq, status_bleedOut apart, status_strike]

/-- A strike is entered first and its further hit after it. -/
theorem score_strikeOnce (relics : (r.combatant r.active).relics = []) {amount : Int}
    (positive : 0 < amount) :
    (r.strikeOnce amount).score = r.score.enter r.active ([amount] ++ r.furtherHit) := by
  have struck : Changes (fun _ => False) r (r.strike amount) := strike_changes ..
  have bare : ((r.strike amount).combatant (r.strike amount).active).relics = [] := by
    rw [struck.active_eq, struck.relics_eq, relics]
  have rules : (r.strike amount).game.rules = r.game.rules :=
    congrArg Table.rules struck.table_eq
  have further : (r.strike amount).furtherHit = r.furtherHit := by
    rw [furtherHit, furtherHit, struck.active_eq, rules, Combatant.has_congr (status_strike ..)]
  rw [strikeOnce, ← struck.active_eq, score_bleedOut bare, score_strike relics positive, further,
    struck.active_eq, Score.enter_enter]

/-- One stack of bleed goes with the hit, if there is one; from none left none
can go. -/
theorem bleed_strikeOnce {k : Nat} (few : k ≤ Binary64.digitsLimit)
    (bleeds : (r.combatant r.active.other).HoldsStacks .bleed k) (amount : Int) :
    ((r.strikeOnce amount).combatant r.active.other).HoldsStacks .bleed (k - 1) := by
  have still := bleeds.of_status (status_strike r amount .bleed r.active.other)
  cases k with
  | zero =>
    have dry := mt still.has_iff.mp (Nat.lt_irrefl 0)
    rw [strikeOnce, bleedOut_of_not_has dry]
    exact still
  | succ k =>
    have wet := still.has_iff.mpr (Nat.succ_pos k)
    obtain ⟨n, before, after⟩ := losesStack_bleedOut ⟨k + 1, few, still⟩ wet
    obtain rfl : n = k := Nat.succ.inj (before.unique still)
    exact after

/-- The conditions for an unaided strike hold again after it, so the next one is
of the same kind. -/
theorem Unaided.strikeOnce (unaided : r.Unaided) (amount : Int) :
    (r.strikeOnce amount).Unaided := by
  have changes : Changes (fun _ => False) r (r.strikeOnce amount) := strikeOnce_changes ..
  obtain ⟨tribe, lifesteal⟩ := changes.card_eq
  have own (s : Status) : ((r.strikeOnce amount).combatant r.active).status s =
      (r.combatant r.active).status s :=
    status_strikeOnce (.inl (Side.ne_other _)) amount
  have other {s : Status} (apart : s ≠ .bleed) :
      ((r.strikeOnce amount).combatant r.active.other).status s =
        (r.combatant r.active.other).status s :=
    status_strikeOnce (.inr apart) amount
  constructor
  case granted => exact lifesteal.trans unaided.granted
  all_goals rw [changes.active_eq]
  case relics => rw [changes.relics_eq, unaided.relics]
  case crit => rw [Combatant.has_congr (own _), unaided.crit]
  case fireCrit =>
    rw [tribe, Combatant.has_congr (own _)]
    exact unaided.fireCrit
  case lifesteal => rw [Combatant.has_congr (own _), unaided.lifesteal]
  case burnLifesteal => rw [Combatant.has_congr (own _), unaided.burnLifesteal]
  case standing =>
    rw [Combatant.CanDodge, other (by decide), other (by decide)]
    exact unaided.standing
  case shock => rw [Combatant.has_congr (other (by decide)), unaided.shock]

/-! ### Volleys -/

/-- Whether there is a further hit is read off the stacks of bleed that are
left. -/
theorem furtherHit_of_holds {k : Nat} (bleeds : (r.combatant r.active.other).HoldsStacks .bleed k) :
    r.furtherHit = if 0 < k then [max r.game.rules.bleedDamage 0] else [] := by
  unfold furtherHit
  by_cases some : 0 < k
  · rw [if_pos some, if_pos (bleeds.has_iff.mpr some)]
  · rw [if_neg some, if_neg (mt bleeds.has_iff.mp some)]

/-- Strength is not used up, so each hit of a volley has the same number. -/
theorem strengthened_strikeOnce (r : Resolution) (amount : Int) (value : Binary64) :
    (r.strikeOnce amount).strengthened value = r.strengthened value := by
  have changes : Changes (fun _ => False) r (r.strikeOnce amount) := strikeOnce_changes ..
  rw [strengthened, strengthened, changes.active_eq,
    status_strikeOnce (.inl (Side.ne_other _)), status_strikeOnce (.inl (Side.ne_other _))]

/-- A damage effect on the other side with a fixed number and a fixed count. -/
def volleyOf (base count : Binary64) : Effect :=
  { Effect.damage base with hits := some (.literal count) }

/-- Each time the effect is carried out it is one strike of the same size. -/
theorem perform_volleyOf (unaided : r.Unaided) {base : Binary64}
    (positive : 0 < (r.strengthened base).floorWord) (count : Binary64) :
    perform (volleyOf base count) r = .ok (r.strikeOnce (r.strengthened base).floorWord) :=
  (perform_damage rfl r).trans (unaided.damage positive)

/-- However often the effect is carried out, its hits are those of a volley, and
the bleeding goes down by one with each of them until there is none left. -/
theorem repeatTimes_volleyOf {base : Binary64} {n k : Nat} (unaided : r.Unaided)
    (positive : 0 < (r.strengthened base).floorWord) (few : k ≤ Binary64.digitsLimit)
    (bleeds : (r.combatant r.active.other).HoldsStacks .bleed k) (count : Binary64) :
    ∃ after, repeatTimes (perform (volleyOf base count)) n r = .ok after ∧
      after.score = r.score.enter r.active
        (volley n k (r.strengthened base).floorWord (max r.game.rules.bleedDamage 0)) ∧
      (after.combatant r.active.other).HoldsStacks .bleed (k - n) := by
  induction n generalizing r k with
  | zero => exact ⟨r, rfl, by rw [volley_zero, Score.enter_nil], bleeds⟩
  | succ n ih =>
    -- After one hit the same things play a part, with one stack of bleed less.
    generalize size : (r.strengthened base).floorWord = amount at positive ⊢
    have changes : Changes (fun _ => False) r (r.strikeOnce amount) := strikeOnce_changes ..
    have same : (r.strikeOnce amount).strengthened base = r.strengthened base :=
      strengthened_strikeOnce ..
    have rules : (r.strikeOnce amount).game.rules = r.game.rules :=
      congrArg Table.rules changes.table_eq
    have left := bleed_strikeOnce few bleeds amount
    obtain ⟨after, ok, score, rest⟩ := ih (unaided.strikeOnce amount) (by rwa [same, size])
      (Nat.le_trans (Nat.sub_le k 1) few) (by rwa [changes.active_eq])
    rw [changes.active_eq] at score rest
    refine ⟨after, ?_, ?_, ?_⟩
    · have first := perform_volleyOf unaided (by rwa [size]) count
      rw [repeatTimes, first, size]
      exact ok
    · rw [score, score_strikeOnce unaided.relics positive, Score.enter_enter, same, size, rules,
        furtherHit_of_holds bleeds, volley_succ]
    · rwa [Nat.sub_sub, Nat.add_comm] at rest

/-- A damage effect on the other side with a fixed number and a fixed count,
where strength and bleeding alone play a part: `n` hits of one size come to `n`
times that size and to a further hit for each stack of bleed that there is, at
most one for each of them.  The size is the number with the sum of both counters
of strength added to it, rounded down to a 64-bit word. -/
theorem apply_volley {base count : Binary64} {n k : Nat} {size : Int} (unaided : r.Unaided)
    (sized : (r.strengthened base).floorWord = size) (positive : 0 < size)
    (times : count.floorWord = n) (few : k ≤ Binary64.digitsLimit)
    (bleeds : (r.combatant r.active.other).HoldsStacks .bleed k) :
    let further := max r.game.rules.bleedDamage 0
    let total := n * size + min n k * further
    let hits := (List.replicate (min n k) [size, further]).flatten ++ List.replicate (n - k) size
    ∃ after, apply (volleyOf base count) r = .ok after ∧
      (after.combatant r.active.other).health = (r.combatant r.active.other).health - total ∧
      (after.combatant r.active.other).HoldsStacks .bleed (k - n) ∧
      (after.combatant r.active).damageThisTurn = (r.combatant r.active).damageThisTurn + total ∧
      after.scope.damageTaken.get r.active.other =
        r.scope.damageTaken.get r.active.other + total ∧
      hits.length = n + min n k ∧
      after.log = r.log ++ hits.map fun hit => .damage r.active r.active.other hit := by
  intro further total hits
  have counted : r.game.effectHits r.scope (volleyOf base count) = n := by
    change count.floorWord.toNat = n
    rw [times, Int.toNat_natCast]
  have repeated :
      apply (volleyOf base count) r = repeatTimes (perform (volleyOf base count)) n r := by
    rw [← counted]
    exact if_pos rfl
  obtain ⟨after, ok, score, rest⟩ :=
    repeatTimes_volleyOf (n := n) unaided (by rwa [sized]) few bleeds count
  rw [← repeated] at ok
  rw [sized] at score
  have changes : Changes (· = .damage) r after := apply_changes rfl ok
  have active : after.active = r.active := changes.active_eq
  have sum : hits.sum = total := sum_volley n k size further
  have health := congrArg Score.health score
  have dealt := congrArg Score.dealt score
  have taken := congrArg Score.taken score
  simp only [Resolution.score, Score.enter, active] at health dealt taken
  refine ⟨after, ok, ?_, rest, ?_, ?_, length_volley n k size further, congrArg Score.log score⟩
  · rw [← sum]
    exact health
  · rw [← sum]
    exact dealt
  · rw [← sum]
    exact taken

/-- A user with some strength against a side that bleeds twice. -/
def onslaught : Resolution where
  game :=
    { Game.fresh .standard 7 with
      combatants :=
        ⟨{ Combatant.withHealth 20 with statuses := .insert .empty .strength 1 },
          { Combatant.withHealth 20 with statuses := .insert .empty .bleed 2 }⟩ }
  scope := .bare .user

/-- Three hits of two in the example, with a further hit of three after each of
the first two, as the target bleeds twice. -/
theorem onslaught_volley :
    ∃ after, apply (volleyOf 1 3) onslaught = .ok after ∧
      (after.combatant .opponent).health = 8 ∧ (after.combatant .opponent).HoldsStacks .bleed 0 ∧
      (after.combatant .user).damageThisTurn = 12 ∧ after.scope.damageTaken.get .opponent = 12 ∧
      after.log = [2, 3, 2, 3, 2].map fun hit => .damage .user .opponent hit := by
  have unaided : onslaught.Unaided := by
    constructor
    case relics => rfl
    case granted => rfl
    case fireCrit => exact nofun
    all_goals decide +kernel
  have sized : (onslaught.strengthened 1).floorWord = 2 := by decide +kernel
  have times : Binary64.floorWord 3 = (3 : Nat) := by decide +kernel
  have bleeds : (onslaught.combatant .opponent).HoldsStacks .bleed 2 := by
    unfold Combatant.HoldsStacks
    decide +kernel
  obtain ⟨after, ok, health, rest, dealt, taken, -, log⟩ :=
    apply_volley unaided sized (by decide) times (by decide) bleeds
  exact ⟨after, ok, health, rest, dealt, taken, log⟩

end Resolution

end CardBattle
