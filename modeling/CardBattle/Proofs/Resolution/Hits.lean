/-
Module: CardBattle.Proofs.Resolution.Hits
Purpose: What a single hit tells, and which counters it moves.
Main exports:
  Resolution.log, Resolution.passedOn, Resolution.hitSize, Resolution.log_reduceHealth,
  Resolution.status_reduceHealth
-/
import CardBattle.Proofs.Resolution.Changes
import CardBattle.Proofs.Resolution.Stacks

/-!
# Single hits

A hit tells of the damage that it does.  A hit of a side on itself may be answered: its relics can
pass some of the damage on to the other side, which is told right after it, and can give strength.
No other counter moves.
-/

namespace CardBattle

namespace Combatant

/-- What relics answer depends on the relics alone. -/
theorem relicsOf_congr {c d : Combatant} (same : d.relics = c.relics) (kind : RelicKind) :
    d.relicsOf kind = c.relicsOf kind := by
  rw [relicsOf, relicsOf, same]

theorem leastHit?_congr {c d : Combatant} (same : d.relics = c.relics) :
    d.leastHit? = c.leastHit? := by
  rw [leastHit?, leastHit?, relicsOf_congr same]

theorem damageResponse_congr {c d : Combatant} (same : d.relics = c.relics) (amount : Int)
    (selfInflicted : Bool) :
    d.damageResponse amount selfInflicted = c.damageResponse amount selfInflicted := by
  rw [damageResponse, damageResponse, relicsOf_congr same, relicsOf_congr same]

/-- Damage is passed on only where a side did it to itself. -/
theorem of_mirrored_pos {c : Combatant} {amount : Int} {selfInflicted : Bool}
    (passed : 0 < (c.damageResponse amount selfInflicted).mirrored) :
    selfInflicted = true ∧ 0 < amount := by
  unfold damageResponse at passed
  split at passed
  · rename_i inflicted
    simpa using inflicted
  · exact absurd passed (Int.lt_irrefl 0)

end Combatant

namespace Resolution

variable {r : Resolution}

/-! ### The log -/

/-- What has been told so far. -/
def log (r : Resolution) : List BattleEvent := r.scope.events.toList

@[simp] theorem log_update (r : Resolution) (side : Side) (change : Combatant → Combatant) :
    (r.update side change).log = r.log := rfl

@[simp] theorem log_emit (r : Resolution) (event : BattleEvent) :
    (r.emit event).log = r.log ++ [event] :=
  Scope.events_emit ..

/-- Each wound is told by one event, in the order in which the wounds fall. -/
@[simp] theorem log_wound (r : Resolution) (source target : Side) (amount : Int) :
    (r.wound source target amount).log = r.log ++ [.damage source target amount] :=
  Scope.events_emit ..

/-! ### Counters and relics -/

theorem status_update {side : Side} {change : Combatant → Combatant} {s : Status}
    (kept : (change (r.combatant side)).status s = (r.combatant side).status s) (party : Side) :
    ((r.update side change).combatant party).status s = (r.combatant party).status s :=
  Game.view_updateCombatant (fun c => c.status s) kept party

theorem status_wound (r : Resolution) (source target : Side) (amount : Int) (s : Status)
    (party : Side) :
    ((r.wound source target amount).combatant party).status s = (r.combatant party).status s :=
  Game.view_updateCombatant (fun c => c.status s) rfl party

theorem relics_wound (r : Resolution) (source target : Side) (amount : Int) (party : Side) :
    ((r.wound source target amount).combatant party).relics = (r.combatant party).relics :=
  Game.view_updateCombatant Combatant.relics rfl party

theorem raisedHit_congr {c d : Combatant} (same : d.relics = c.relics) (amount : Int) :
    raisedHit d amount = raisedHit c amount := by
  rw [raisedHit, raisedHit, Combatant.leastHit?_congr same]

/-- A positive hit stays positive whatever relics its dealer has, since they can
only raise it. -/
theorem raisedHit_pos {dealer : Combatant} {amount : Int} (positive : 0 < amount) :
    0 < raisedHit dealer amount := by
  rw [raisedHit, if_pos positive]
  split
  · omega
  · exact positive

/-! ### Hits -/

/-- A hit on the other side is told with what it takes, after the relics of its
dealer have raised it. -/
theorem log_hitOther (r : Resolution) (source : Side) (amount : Int) :
    (r.hitOther source amount).1.log =
      r.log ++ [.damage source source.other (raisedHit (r.combatant source) amount)] :=
  log_wound ..

/-- A hit on the other side moves health and the tally of its dealer, and no
counter of either side. -/
theorem status_hitOther (r : Resolution) (source : Side) (amount : Int) (s : Status)
    (party : Side) :
    ((r.hitOther source amount).1.combatant party).status s = (r.combatant party).status s :=
  (status_update rfl party).trans (status_wound ..)

/-- What is told of the damage that the relics of a side pass on, after it has
hurt itself. -/
def passedOn (r : Resolution) (side : Side) (amount : Int) : List BattleEvent :=
  let mirrored := ((r.combatant side).damageResponse amount (side = r.game.active)).mirrored
  if 0 < mirrored then [.damage side side.other (raisedHit (r.combatant side) mirrored)] else []

/-- At most one further hit is told, and only of damage that a side did to
itself in its own turn. -/
theorem passedOn_cases (r : Resolution) (side : Side) (amount : Int) :
    r.passedOn side amount = [] ∨
      (side = r.game.active ∧ 0 < amount) ∧ ∃ passed, 0 < passed ∧
        r.passedOn side amount = [.damage side side.other passed] := by
  unfold passedOn
  dsimp only
  split
  · rename_i positive
    have inflicted := Combatant.of_mirrored_pos positive
    exact .inr ⟨⟨of_decide_eq_true inflicted.1, inflicted.2⟩, _, raisedHit_pos positive, rfl⟩
  · exact .inl rfl

/-- A side that has hurt itself, with the strength that its relics give for it. -/
def hardened (r : Resolution) (side : Side) (strength : Binary64) : Resolution :=
  if 0 < strength then r.update side fun c => c.addStatus .strength strength else r

/-- The strength that relics give for damage to oneself is not told. -/
theorem log_hardened (r : Resolution) (side : Side) (strength : Binary64) :
    (r.hardened side strength).log = r.log := by
  unfold hardened
  split <;> rfl

theorem relics_hardened (r : Resolution) (side : Side) (strength : Binary64) (party : Side) :
    ((r.hardened side strength).combatant party).relics = (r.combatant party).relics := by
  unfold hardened
  split
  · exact Game.view_updateCombatant Combatant.relics
      (congrArg Belongings.relics (Combatant.belongings_addStatus ..)) party
  · rfl

theorem status_hardened (r : Resolution) (side : Side) (strength : Binary64) {s : Status}
    (other : s ≠ .strength) (party : Side) :
    ((r.hardened side strength).combatant party).status s = (r.combatant party).status s := by
  unfold hardened
  split
  · exact status_update (Combatant.status_setStatus_of_ne _ _ other) party
  · rfl

/-- A hit of a side on itself, step by step. -/
theorem hitSelf_eq (r : Resolution) (side : Side) (amount : Int) :
    r.hitSelf side amount =
      let taken := max amount 0
      let response := (r.combatant side).damageResponse taken (side = r.game.active)
      let hurt := (r.wound side side taken).hardened side response.strength
      (if 0 < response.mirrored then (hurt.hitOther side response.mirrored).1 else hurt,
        taken) := by
  have answered : ((r.wound side side (max amount 0)).combatant side).damageResponse
      (max amount 0) (side = r.game.active) =
        (r.combatant side).damageResponse (max amount 0) (side = r.game.active) :=
    Combatant.damageResponse_congr (relics_wound ..) ..
  unfold hitSelf hardened
  dsimp only
  rw [show (r.wound side side (max amount 0)).game.active = r.game.active from rfl, answered]
  split <;> rfl

/-- A hit on oneself is told first, and then what is passed on of it. -/
theorem log_hitSelf (r : Resolution) (side : Side) (amount : Int) :
    (r.hitSelf side amount).1.log =
      r.log ++ .damage side side (max amount 0) :: r.passedOn side (max amount 0) := by
  rw [hitSelf_eq, passedOn]
  dsimp only
  split
  · rename_i positive
    rw [log_hitOther, log_hardened, log_wound, List.append_assoc,
      raisedHit_congr ((relics_hardened ..).trans (relics_wound ..))]
    rfl
  · rw [log_hardened, log_wound]

/-- A hit on oneself moves no counter but strength, also where some of it is
passed on. -/
theorem status_hitSelf (r : Resolution) (side : Side) (amount : Int) {s : Status}
    (other : s ≠ .strength) (party : Side) :
    ((r.hitSelf side amount).1.combatant party).status s = (r.combatant party).status s := by
  rw [hitSelf_eq]
  dsimp only
  split
  · exact (status_hitOther ..).trans ((status_hardened _ _ _ other _).trans (status_wound ..))
  · exact (status_hardened _ _ _ other _).trans (status_wound ..)

/-- The health that a hit takes. -/
def hitSize (r : Resolution) (source target : Side) (amount : Int) : Int :=
  if source = target then max amount 0 else raisedHit (r.combatant source) amount

/-- No hit takes a negative amount, and so none can heal. -/
theorem hitSize_nonneg (r : Resolution) (source target : Side) (amount : Int) :
    0 ≤ r.hitSize source target amount := by
  unfold hitSize
  split
  · exact Int.le_max_right amount 0
  · exact raisedHit_nonneg ..

/-- What a hit reports as taken is the size that is known before it. -/
theorem snd_reduceHealth (r : Resolution) (source target : Side) (amount : Int) :
    (r.reduceHealth source target amount).2 = r.hitSize source target amount := by
  unfold reduceHealth hitSize
  split
  · rw [hitSelf_eq]
  · rfl

/-- What a hit tells: its damage, and on oneself what is passed on of it. -/
def hitEvents (r : Resolution) (source target : Side) (amount : Int) : List BattleEvent :=
  .damage source target amount :: if source = target then r.passedOn source amount else []

/-- What is told of a hit is known from the record before it. -/
theorem log_reduceHealth (r : Resolution) (source target : Side) (amount : Int) :
    (r.reduceHealth source target amount).1.log =
      r.log ++ r.hitEvents source target (r.hitSize source target amount) := by
  unfold reduceHealth hitEvents hitSize
  split
  · rename_i own
    subst own
    exact log_hitSelf ..
  · rename_i other
    have across : target = source.other :=
      (Side.eq_or_eq_other target source).resolve_left (Ne.symm other)
    subst across
    exact log_hitOther ..

/-- Hits of any size on either side leave all counters but strength. -/
theorem status_reduceHealth (r : Resolution) (source target : Side) (amount : Int) {s : Status}
    (other : s ≠ .strength) (party : Side) :
    ((r.reduceHealth source target amount).1.combatant party).status s =
      (r.combatant party).status s := by
  unfold reduceHealth
  split
  · exact status_hitSelf _ _ _ other party
  · exact status_hitOther ..

end Resolution

end CardBattle
