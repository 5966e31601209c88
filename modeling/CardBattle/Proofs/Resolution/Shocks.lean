/-
Module: CardBattle.Proofs.Resolution.Shocks
Purpose: Hits build shock up once, until it becomes one stun, and then no more.
Main exports:
  Resolution.buildShock_builds, Resolution.buildShock_stuns, Resolution.Jolts,
  Resolution.JoltsTimes, Resolution.JoltsTimes.charges, Resolution.strikes,
  Resolution.repeatTimes_jolts, Resolution.apply_jolts
-/
import CardBattle.Proofs.Resolution.Volleys

/-!
# Shock

A blow with a positive number adds one stack of shock to a side that has some.  Where the stacks
reach the threshold, they are taken away again and one stun is given.  Nothing is left then for later
blows to add to, so however many blows follow, there is one stun.

Health that comes back, the hit itself, the hit that relics pass on and the hit on a bleeding side
move neither counter.  So what a blow does to them is what `buildShock` does to its target.
-/

namespace CardBattle.Resolution

/-! ### Building shock -/

section

variable {c : Combatant} {k s T : Nat}

/-- Below the threshold there is one more stack, and nobody is stunned.  The
threshold has to be one that stacks can be counted up to. -/
theorem buildShock_builds (shock : c.HoldsStacks .shock k) (some : 0 < k) (below : k + 1 < T)
    (few : T ≤ Binary64.digitsLimit) :
    (buildShock T c).HoldsStacks .shock (k + 1) ∧
      (buildShock T c).status .stun = c.status .stun := by
  have given : (c.addStatus .shock 1).status .shock = .ofInt (k + 1 : Nat) :=
    shock.status_give rfl (by omega)
  have whole := Combatant.wholeStacks_of_status_eq given (by omega)
  have built : buildShock T c = c.addStatus .shock 1 := by
    unfold buildShock
    dsimp only
    rw [if_pos (shock.has_iff.mpr some), whole, if_neg (by omega)]
  rw [built]
  exact ⟨.of_status_eq given (by omega), Combatant.status_setStatus_of_ne _ _ (by decide)⟩

/-- At the threshold the stacks become a stun: none of shock is left, and one of
stun has come. -/
theorem buildShock_stuns (shock : c.HoldsStacks .shock k) (some : 0 < k)
    (few : k + 1 ≤ Binary64.digitsLimit) (stun : c.HoldsStacks .stun s)
    (room : s < Binary64.digitsLimit) :
    (buildShock (k + 1 : Nat) c).HoldsStacks .shock 0 ∧
      (buildShock (k + 1 : Nat) c).HoldsStacks .stun (s + 1) := by
  have given : (c.addStatus .shock 1).status .shock = .ofInt (k + 1 : Nat) :=
    shock.status_give rfl few
  have whole := Combatant.wholeStacks_of_status_eq given few
  let spent := (c.addStatus .shock 1).addStatus .shock (-Binary64.ofInt (k + 1 : Nat))
  have stunned : buildShock (k + 1 : Nat) c = spent.addStatus .stun 1 := by
    unfold buildShock
    dsimp only
    rw [if_pos (shock.has_iff.mpr some), whole, if_pos (Int.le_refl _)]
  have cleared : spent.status .shock = .ofInt (0 : Nat) :=
    Combatant.status_takeAll given rfl (Nat.succ_pos k) few
  have still : spent.status .stun = c.status .stun :=
    (Combatant.status_setStatus_of_ne _ _ (by decide)).trans
      (Combatant.status_setStatus_of_ne _ _ (by decide))
  rw [stunned]
  constructor
  · refine .of_status_eq ?_ (Nat.zero_le _)
    exact (Combatant.status_setStatus_of_ne _ _ (by decide)).trans cleared
  · exact .of_status_eq ((stun.of_status still).status_give rfl room) room

end

/-! ### What a blow does to shock -/

variable {r : Resolution} {target : Side}

/-- The further hit on a bleeding side moves no counter but the bleeding and
strength. -/
theorem status_bleedOut_of_ne (r : Resolution) (target : Side) {s : Status}
    (strength : s ≠ .strength) (bleed : s ≠ .bleed) (party : Side) :
    ((r.bleedOut target).combatant party).status s = (r.combatant party).status s := by
  unfold bleedOut
  split
  · exact (status_update (Combatant.status_setStatus_of_ne _ _ bleed) party).trans
      (status_reduceHealth _ _ _ _ strength party)
  · rfl

/-- Once a side has been met by a blow, its landing moves no other counter than
strength and bleeding. -/
theorem status_land (r : Resolution) (target : Side) (blow : Blow) {s : Status}
    (strength : s ≠ .strength) (bleed : s ≠ .bleed) (party : Side) :
    ((r.land target blow).combatant party).status s =
      ((r.meet target blow).combatant party).status s := by
  have felt : ((r.feel target blow).combatant party).status s =
      ((r.meet target blow).combatant party).status s :=
    status_reduceHealth _ _ _ _ strength party
  rw [land_eq]
  split
  · rw [status_bleedOut_of_ne _ _ strength bleed, combatant_noteDamage, felt]
  · exact felt

/-- A blow has struck a side: shock builds up on it, and no other counter moves,
but for the bleeding and for strength. -/
structure Jolts (r : Resolution) (target : Side) (next : Resolution) : Prop where
  active : next.active = r.active
  rules : next.game.rules = r.game.rules
  /-- Shock is built on a combatant with the counters of the target. -/
  struck : ∃ c : Combatant, (∀ s, c.status s = (r.combatant target).status s) ∧
    ∀ s, s ≠ .strength → s ≠ .bleed → (next.combatant target).status s =
      (buildShock r.game.rules.shockThreshold c).status s
  other : ∀ s, s ≠ .strength → s ≠ .bleed →
    (next.combatant target.other).status s = (r.combatant target.other).status s

theorem jolts_land {blow : Blow} (positive : 0 < blow.value.floorWord) :
    r.Jolts target (r.land target blow) := by
  have changes : Changes (fun _ => False) r (r.land target blow) := land_changes ..
  have met : r.meet target blow =
      (r.drain target blow.value.floorWord blow.lifesteal).update target
        (buildShock r.game.rules.shockThreshold) := if_pos positive
  constructor
  case active => exact changes.active_eq
  case rules => exact congrArg Table.rules changes.table_eq
  case struck =>
    refine ⟨(r.drain target blow.value.floorWord blow.lifesteal).combatant target,
      fun s => status_drain .., fun s strength bleed => ?_⟩
    rw [status_land _ _ _ strength bleed, met]
    exact congrArg (Combatant.status · s) (Game.combatant_updateCombatant_self ..)
  case other =>
    intro s strength bleed
    rw [status_land _ _ _ strength bleed, met]
    exact (congrArg (Combatant.status · s) (Game.combatant_updateCombatant_other ..)).trans
      (status_drain ..)

namespace Jolts

variable {next : Resolution}

/-- A strike gives its target no stack to dodge with, so the next one lands as
well. -/
theorem standing (jolts : r.Jolts target next) (standing : ¬ (r.combatant target).CanDodge) :
    ¬ (next.combatant target).CanDodge := by
  obtain ⟨c, same, struck⟩ := jolts.struck
  have kept {s : Status} (plain : s ≠ .strength ∧ s ≠ .bleed ∧ s ≠ .shock ∧ s ≠ .stun) :
      (next.combatant target).status s = (r.combatant target).status s := by
    rw [struck s plain.1 plain.2.1, status_buildShock _ _ plain.2.2.1 plain.2.2.2, same]
  rw [Combatant.CanDodge, kept (by decide), kept (by decide)]
  exact standing

/-- No counter moves on a side without shock, as shock is only built where there
is some. -/
theorem calm (jolts : r.Jolts target next) (calm : (r.combatant target).HoldsStacks .shock 0)
    {s : Status} (strength : s ≠ .strength) (bleed : s ≠ .bleed) :
    (next.combatant target).status s = (r.combatant target).status s := by
  obtain ⟨c, same, struck⟩ := jolts.struck
  have none : c.has .shock = false := by
    have calm := (calm.of_status (same .shock)).has_iff
    simpa using calm
  rw [struck s strength bleed, buildShock_eq_self none, same]

variable {k s T : Nat}

/-- A strike below the threshold adds a stack of shock and stuns nobody. -/
theorem builds (jolts : r.Jolts target next) (limit : r.game.rules.shockThreshold = T)
    (shock : (r.combatant target).HoldsStacks .shock k) (some : 0 < k) (below : k + 1 < T)
    (few : T ≤ Binary64.digitsLimit) :
    (next.combatant target).HoldsStacks .shock (k + 1) ∧
      (next.combatant target).status .stun = (r.combatant target).status .stun := by
  obtain ⟨c, same, struck⟩ := jolts.struck
  rw [limit] at struck
  obtain ⟨shocked, stun⟩ := buildShock_builds (shock.of_status (same .shock)) some below few
  exact ⟨shocked.of_status (struck .shock (by decide) (by decide)),
    (struck .stun (by decide) (by decide)).trans (stun.trans (same .stun))⟩

/-- The strike that reaches the threshold uses all shock up and adds a stun. -/
theorem stuns (jolts : r.Jolts target next) (limit : r.game.rules.shockThreshold = (k + 1 : Nat))
    (shock : (r.combatant target).HoldsStacks .shock k) (some : 0 < k)
    (few : k + 1 ≤ Binary64.digitsLimit) (stun : (r.combatant target).HoldsStacks .stun s)
    (room : s < Binary64.digitsLimit) :
    (next.combatant target).HoldsStacks .shock 0 ∧
      (next.combatant target).HoldsStacks .stun (s + 1) := by
  obtain ⟨c, same, struck⟩ := jolts.struck
  rw [limit] at struck
  obtain ⟨cleared, stunned⟩ := buildShock_stuns (shock.of_status (same .shock)) some few
    (stun.of_status (same .stun)) room
  exact ⟨cleared.of_status (struck .shock (by decide) (by decide)),
    stunned.of_status (struck .stun (by decide) (by decide))⟩

end Jolts

/-! ### Strike after strike -/

/-- What strikes make of some shock: as many stacks more while they stay below
the threshold, and else none, and one more stun. -/
def Charges (r : Resolution) (target : Side) (n k s T : Nat) (after : Resolution) : Prop :=
  if n < T - k then
    (after.combatant target).HoldsStacks .shock (k + n) ∧
      (after.combatant target).status .stun = (r.combatant target).status .stun
  else
    (after.combatant target).HoldsStacks .shock 0 ∧
      (after.combatant target).HoldsStacks .stun (s + 1)

/-- A side is struck so many times in a row. -/
inductive JoltsTimes (target : Side) : Nat → Resolution → Resolution → Prop where
  | none (r : Resolution) : JoltsTimes target 0 r r
  | once {n : Nat} {r next after : Resolution} (first : r.Jolts target next)
      (rest : JoltsTimes target n next after) : JoltsTimes target (n + 1) r after

namespace JoltsTimes

variable {after : Resolution} {n k s T : Nat}

/-- Strikes on one side leave the counters of the other one, but for strength
and bleeding. -/
theorem other (times : JoltsTimes target n r after) {s : Status} (strength : s ≠ .strength)
    (bleed : s ≠ .bleed) :
    (after.combatant target.other).status s = (r.combatant target.other).status s := by
  induction times with
  | none r => rfl
  | once first rest ih => rw [ih, first.other s strength bleed]

/-- However often a side without shock is struck, none is built.  The induction
is on the strikes, and each leaves the side without any. -/
theorem calm (times : JoltsTimes target n r after)
    (calm : (r.combatant target).HoldsStacks .shock 0) {s : Status} (strength : s ≠ .strength)
    (bleed : s ≠ .bleed) :
    (after.combatant target).status s = (r.combatant target).status s := by
  induction times with
  | none r => rfl
  | once first rest ih =>
      have still := calm.of_status (first.calm calm (by decide) (by decide))
      rw [ih still, first.calm calm strength bleed]

/-- Some shock is built up until it becomes a stun, and then no more, because it
starts from none again. -/
theorem charges (times : JoltsTimes target n r after) (limit : r.game.rules.shockThreshold = T)
    (few : T ≤ Binary64.digitsLimit) (shock : (r.combatant target).HoldsStacks .shock k)
    (some : 0 < k) (below : k < T) (stun : (r.combatant target).HoldsStacks .stun s)
    (room : s < Binary64.digitsLimit) : r.Charges target n k s T after := by
  induction times generalizing k with
  | none r =>
      rw [Charges, if_pos (Nat.sub_pos_of_lt below)]
      exact ⟨shock, rfl⟩
  | @once n r next after first rest ih =>
      rcases Nat.lt_or_eq_of_le (Nat.succ_le_of_lt below) with further | rfl
      · -- The next strikes find one stack more.
        obtain ⟨shocked, same⟩ := first.builds limit shock some further few
        have charges := ih (by rw [first.rules, limit]) shocked (Nat.succ_pos k) further
          (stun.of_status same)
        have gap : n < T - (k + 1) ↔ n + 1 < T - k := by omega
        unfold Charges at charges ⊢
        simpa only [gap, same, Nat.add_assoc, Nat.add_comm 1 n] using charges
      · -- The next strikes find no shock.
        obtain ⟨cleared, stunned⟩ := first.stuns limit shock some few stun room
        rw [Charges, if_neg (by omega)]
        exact ⟨cleared.of_status (rest.calm cleared (by decide) (by decide)),
          stunned.of_status (rest.calm cleared (by decide) (by decide))⟩

end JoltsTimes

/-! ### Effects that strike -/

/-- Whether a damage effect that is not dodged comes to a positive whole number,
before the relics of its dealer raise it. -/
def strikes (effect : Effect) (r : Resolution) : Bool :=
  match r.aim (effect.target.resolve r.active) (r.game.effectValue r.scope effect) with
  | .ok (blow, _) => 0 < blow.value.floorWord
  | .error _ => false

/-- An effect strikes each of so many times that it is carried out. -/
def StrikesEach (effect : Effect) (times : Nat) (r : Resolution) : Prop :=
  ∀ done < times, ∀ here, repeatTimes (perform effect) done r = .ok here →
    strikes effect here = true

section

variable {effect : Effect} {n k s T : Nat}

/-- Once the first of several strikes has been made, the others are still to
come. -/
theorem StrikesEach.rest {next : Resolution} (each : StrikesEach effect (n + 1) r)
    (ok : perform effect r = .ok next) : StrikesEach effect n next := by
  intro done inside here reached
  refine each (done + 1) (Nat.succ_lt_succ inside) here ?_
  rw [repeatTimes, ok]
  exact reached

/-- Where there is no stack to dodge with, an effect that strikes is a blow that
lands. -/
theorem perform_jolts (damages : effect.kind = .damage)
    (aimed : effect.target.resolve r.active = target)
    (standing : ¬ (r.combatant target).CanDodge) (struck : strikes effect r = true) :
    ∃ next, perform effect r = .ok next ∧ r.Jolts target next := by
  subst aimed
  unfold strikes at struck
  split at struck
  · rename_i blow thrown aims
    have positive : 0 < blow.value.floorWord := of_decide_eq_true struck
    refine ⟨thrown.land (effect.target.resolve r.active) blow, ?_, ?_⟩
    · refine (perform_damage damages r).trans ?_
      unfold damage
      rw [dodge?_eq_none standing]
      dsimp only
      rw [aims]
    · -- Aiming throws dice at most, which no field of the law reads.
      obtain ⟨dice, rfl⟩ := of_aim_eq_ok aims
      let rolled : Resolution := { r with game := { r.game with dice := dice } }
      have jolts : rolled.Jolts (effect.target.resolve r.active) _ := jolts_land positive
      exact ⟨jolts.active, jolts.rules, jolts.struck, jolts.other⟩
  · cases struck

/-- An effect that strikes each time it is carried out strikes so many times in
a row. -/
theorem repeatTimes_jolts (damages : effect.kind = .damage)
    (aimed : effect.target.resolve r.active = target)
    (standing : ¬ (r.combatant target).CanDodge) (each : StrikesEach effect n r) :
    ∃ after, repeatTimes (perform effect) n r = .ok after ∧ JoltsTimes target n r after := by
  induction n generalizing r with
  | zero => exact ⟨r, rfl, .none r⟩
  | succ n ih =>
      have struck := each 0 (Nat.succ_pos n) r rfl
      obtain ⟨next, ok, first⟩ := perform_jolts damages aimed standing struck
      obtain ⟨after, reached, rest⟩ := ih (by rw [first.active, aimed]) (first.standing standing)
        (each.rest ok)
      refine ⟨after, ?_, .once first rest⟩
      rw [repeatTimes, ok]
      exact reached

/-- An effect is carried out as often as the whole part of its fixed count says,
up to the greatest word of 64 bits. -/
theorem effectHits_literal {count : Binary64} (counted : effect.hits = some (.literal count))
    (times : count.floor.toInt? = some (n : Int)) (g : Game) (scope : Scope) :
    g.effectHits scope effect = min n Binary64.greatestWord.toNat := by
  have least : Binary64.leastWord = -9223372036854775808 := rfl
  have greatest : Binary64.greatestWord = 9223372036854775807 := rfl
  rw [Game.effectHits, counted]
  show count.floor.toWord.toNat = _
  rw [Binary64.toWord_of_toInt? times]
  omega

/-- A side is stunned long before the greatest word is reached. -/
theorem charges_min {after : Resolution} (few : T ≤ Binary64.digitsLimit) :
    r.Charges target (min n Binary64.greatestWord.toNat) k s T after ↔
      r.Charges target n k s T after := by
  have small : Binary64.digitsLimit ≤ Binary64.greatestWord.toNat := by decide
  by_cases fits : n ≤ Binary64.greatestWord.toNat
  · rw [Nat.min_eq_left fits]
  · rw [Charges, Charges, if_neg (by omega), if_neg (by omega)]

/-- A damage effect without a guard that is carried out a fixed number of times,
against a side that has nothing to dodge with, and that comes to a positive
whole number each time.  Without shock on the target neither shock nor stun
moves; some shock grows by one stack for each time as long as it stays below the
threshold, and otherwise there is one more stun and no shock left, however often
the effect is carried out.  The other side's shock and stun do not move. -/
theorem apply_jolts {count : Binary64} (damages : effect.kind = .damage)
    (unguarded : effect.condition = none) (counted : effect.hits = some (.literal count))
    (times : count.floor.toInt? = some (n : Int))
    (aimed : effect.target.resolve r.active = target)
    (limit : r.game.rules.shockThreshold = T)
    (standing : ¬ (r.combatant target).CanDodge)
    (shock : (r.combatant target).HoldsStacks .shock k)
    (stun : (r.combatant target).HoldsStacks .stun s) (room : s < Binary64.digitsLimit)
    (each : StrikesEach effect (r.game.effectHits r.scope effect) r) :
    ∃ after, apply effect r = .ok after ∧
      (k = 0 → ∀ counter, counter = .shock ∨ counter = .stun →
        (after.combatant target).status counter = (r.combatant target).status counter) ∧
      (0 < k → k < T → T ≤ Binary64.digitsLimit → r.Charges target n k s T after) ∧
      ∀ counter, counter = .shock ∨ counter = .stun →
        (after.combatant target.other).status counter =
          (r.combatant target.other).status counter := by
  obtain ⟨after, ok, struck⟩ := repeatTimes_jolts damages aimed standing each
  have plain {counter : Status} (either : counter = .shock ∨ counter = .stun) :
      counter ≠ .strength ∧ counter ≠ .bleed := by
    rcases either with rfl | rfl <;> decide
  refine ⟨after, ?_, ?_, ?_, ?_⟩
  · rw [apply, unguarded, Game.allows, if_pos rfl]
    exact ok
  · rintro rfl counter either
    exact struck.calm shock (plain either).1 (plain either).2
  · intro some below few
    rw [effectHits_literal counted times] at struck
    exact (charges_min few).mp (struck.charges limit few shock some below stun room)
  · intro counter either
    exact struck.other (plain either).1 (plain either).2

end

/-- A user with some shock, which bleeds and passes damage on to a side with
shock of its own. -/
def storm : Resolution where
  game :=
    { Game.fresh .standard 7 with
      combatants :=
        ⟨{ Combatant.withHealth 20 with
            relics := [{ kind := .thornMirror, value := 1 }]
            statuses := .insert (.insert .empty .shock 3) .bleed 1 },
          { Combatant.withHealth 20 with statuses := .insert .empty .shock 1 }⟩ }
  scope := .bare .user

/-- The user hits itself three times. -/
def lash : Effect :=
  { Effect.damage 1 with target := .own, hits := some (.literal (7 / 2)) }

/-- In the example the user hits itself three times and is stunned; the shock of
the other side stays as it was, although some damage is passed on to it. -/
theorem storm_stuns :
    ∃ after, apply lash storm = .ok after ∧ (after.combatant .user).HoldsStacks .shock 0 ∧
      (after.combatant .user).HoldsStacks .stun 1 ∧
      (after.combatant .opponent).status .shock = 1 := by
  have times : ((7 / 2 : Binary64).floor).toInt? = some (3 : Nat) := by decide +kernel
  have aimed : lash.target.resolve storm.active = .user := rfl
  have limit : storm.game.rules.shockThreshold = (5 : Nat) := by decide
  have standing : ¬ (storm.combatant .user).CanDodge := by decide +kernel
  have shock : (storm.combatant .user).HoldsStacks .shock 3 := by
    unfold Combatant.HoldsStacks
    decide +kernel
  have stun : (storm.combatant .user).HoldsStacks .stun 0 := by
    unfold Combatant.HoldsStacks
    decide +kernel
  have each : StrikesEach lash (storm.game.effectHits storm.scope lash) storm := by
    have hits : storm.game.effectHits storm.scope lash = 3 := by decide +kernel
    have struck : ∀ done < 3,
        (repeatTimes (perform lash) done storm).toOption.all (strikes lash) = true := by
      decide +kernel
    intro done inside here reached
    have result := struck done (hits ▸ inside)
    rw [reached] at result
    exact result
  obtain ⟨after, ok, -, charges, other⟩ :=
    apply_jolts rfl rfl rfl times aimed limit standing shock stun (by decide) each
  obtain ⟨cleared, stunned⟩ := charges (by decide) (by decide) (by decide)
  exact ⟨after, ok, cleared, stunned, (other .shock (.inl rfl)).trans (by decide +kernel)⟩

end CardBattle.Resolution
