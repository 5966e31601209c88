/-
Module: CardBattle.Proofs.Game.TurnTallies
Purpose: The tallies of a turn are what the events told since its start add up to.
Main exports:
  DealsInTurn, Game.Orderly, Game.orderly_law, Combatant.Recounts, Game.tallies_agree_with_events
-/
import CardBattle.Proofs.Game.BetweenBattles
import CardBattle.Proofs.Game.TurnBooks

/-!
# Tallies of a turn

The book of a side says what the events since the start of its turn make of its tallies.  That
nothing is missing between two turns is a law of its own: a side deals damage only while its turn is
going on (`DealsInTurn`).  So the damage of the turn before is all that the side has dealt since that
turn started.
-/

namespace CardBattle

/-! ### Damage in turns -/

/-- Whether a side's turn is going on after an event. -/
def turnOpen (side : Side) (isOpen : Bool) : BattleEvent → Bool
  | .turnStarted owner _ => if owner = side then true else isOpen
  | .turnEnded owner => if owner = side then false else isOpen
  | _ => isOpen

/-- A side deals damage to the other only while its turn is going on. -/
def DealsInTurn (side : Side) : (isOpen : Bool) → List BattleEvent → Prop
  | _, [] => True
  | isOpen, event :: rest =>
      (isOpen = false → event.dealtBy? side = none) ∧
        DealsInTurn side (turnOpen side isOpen event) rest

/-- Two logs in a row are in turn when the first is, and the second is from
where the first has left off. -/
theorem dealsInTurn_append {side : Side} {isOpen : Bool} {first second : List BattleEvent} :
    DealsInTurn side isOpen (first ++ second) ↔
      DealsInTurn side isOpen first ∧
        DealsInTurn side (first.foldl (turnOpen side) isOpen) second := by
  induction first generalizing isOpen with
  | nil => simp [DealsInTurn]
  | cons event rest ih => simp [DealsInTurn, ih, and_assoc]

theorem turnOpen_of_no_start {side : Side} {isOpen : Bool} {event : BattleEvent}
    (other : ∀ turn, event ≠ .turnStarted side turn) :
    turnOpen side isOpen event = if event = .turnEnded side then false else isOpen := by
  cases event with
  | turnStarted owner turn =>
      have apart : owner ≠ side := fun same => other turn (by rw [same])
      simp [turnOpen, apart]
  | turnEnded owner => simp [turnOpen]
  | _ => simp [turnOpen]

/-- Before its first turn, and after its turn, a side deals no damage, so there
is nothing for its tally to miss. -/
theorem dealtSum_eq_zero {side : Side} {events : List BattleEvent}
    (deals : DealsInTurn side false events) (none : ∀ turn, .turnStarted side turn ∉ events) :
    dealtSum side events = 0 := by
  induction events with
  | nil => rfl
  | cons event rest ih =>
      obtain ⟨quiet, later⟩ := deals
      have other : ∀ turn, event ≠ .turnStarted side turn :=
        fun turn same => none turn (same ▸ List.mem_cons_self ..)
      rw [turnOpen_of_no_start other, ite_self] at later
      rw [dealtSum_cons, dealtSum_singleton, quiet rfl,
        ih later fun turn mem => none turn (List.mem_cons_of_mem _ mem)]
      rfl

/-- All damage of a side from the start of its turn to the start of the next
falls into the turn. -/
theorem dealtSum_eq_takeWhile {side : Side} {isOpen : Bool} {events : List BattleEvent}
    (deals : DealsInTurn side isOpen events) (none : ∀ turn, .turnStarted side turn ∉ events) :
    dealtSum side events = dealtSum side (events.takeWhile (· ≠ .turnEnded side)) := by
  induction events generalizing isOpen with
  | nil => rfl
  | cons event rest ih =>
      obtain ⟨-, later⟩ := deals
      have other : ∀ turn, event ≠ .turnStarted side turn :=
        fun turn same => none turn (same ▸ List.mem_cons_self ..)
      have fewer : ∀ turn, .turnStarted side turn ∉ rest :=
        fun turn mem => none turn (List.mem_cons_of_mem _ mem)
      rw [turnOpen_of_no_start other] at later
      by_cases ended : event = .turnEnded side
      · -- Between its turn and the next one the side deals nothing.
        rw [if_pos ended] at later
        rw [dealtSum_cons, dealtSum_eq_zero later fewer, dealtSum_singleton, ended,
          List.takeWhile_cons_of_neg (by simp)]
        rfl
      · rw [if_neg ended] at later
        rw [List.takeWhile_cons_of_pos (by simpa using ended), dealtSum_cons, ih later fewer,
          ← dealtSum_cons]

/-- What can be told in the midst of a side's turn: its turn neither starts nor
ends, and all damage is its own. -/
def BattleEvent.WithinTurnOf (side : Side) : BattleEvent → Prop
  | .turnStarted .. | .turnEnded .. => False
  | .damage source .. => source = side
  | _ => True

/-- What a card tells of belongs into the turn of the side that plays it. -/
theorem BattleEvent.ByCard.withinTurnOf {owner : Side} {event : BattleEvent}
    (byCard : event.ByCard owner) : event.WithinTurnOf owner := by
  cases event with
  | damage source target amount => exact byCard
  | heal side amount => trivial
  | miss target => trivial
  | _ => exact byCard.elim

/-- Events of a turn that is going on keep it going on, and deal damage for no
side but its own. -/
theorem dealsInTurn_of_within {owner side : Side} {isOpen : Bool} {events : List BattleEvent}
    (going : owner = side → isOpen = true) (within : ∀ event ∈ events, event.WithinTurnOf owner) :
    DealsInTurn side isOpen events ∧ events.foldl (turnOpen side) isOpen = isOpen := by
  induction events with
  | nil => exact ⟨trivial, rfl⟩
  | cons event rest ih =>
      have now := within event (List.mem_cons_self ..)
      have still : turnOpen side isOpen event = isOpen := by
        cases event with
        | turnStarted => exact now.elim
        | turnEnded => exact now.elim
        | _ => rfl
      have quiet : isOpen = false → event.dealtBy? side = none := by
        intro closed
        cases event with
        | damage source target amount =>
            have foreign : source ≠ side := by
              intro same
              rw [going (now.symm.trans same)] at closed
              cases closed
            simp [BattleEvent.dealtBy?, foreign]
        | _ => rfl
      obtain ⟨later, last⟩ := ih fun other mem => within other (List.mem_cons_of_mem _ mem)
      rw [DealsInTurn, List.foldl_cons, still]
      exact ⟨⟨quiet, later⟩, last⟩

namespace Game

/-- All that is told of a card that is played belongs into the turn of the
active side. -/
theorem resolveFromDeck_within {g after : Game} {id : CardId} {events : List BattleEvent}
    (ok : g.resolveFromDeck id = .ok (after, events)) :
    ∀ event ∈ events, event.WithinTurnOf g.active := by
  obtain ⟨card, resolved, told, rest, trashed, -, settled, -, rfl, rfl⟩ :=
    of_resolveFromDeck_eq_ok ok
  intro event mem
  rcases List.mem_append.mp mem with mem | mem
  · rcases List.mem_cons.mp mem with rfl | mem
    · trivial
    · exact (resolveCard_byCard settled event mem).withinTurnOf
  · split at mem
    · rw [List.mem_singleton.mp mem]
      trivial
    · cases mem

/-- Whether a side is playing its turn. -/
def hasTurn (g : Game) (side : Side) : Bool := g.active = side && g.turnPhase = .playing

/-- Whose turn is going on is read off the active side and the phase of the
turn. -/
theorem hasTurn_of_stage {g h : Game} (active : h.active = g.active)
    (turnPhase : h.turnPhase = g.turnPhase) (side : Side) : h.hasTurn side = g.hasTurn side := by
  rw [hasTurn, active, turnPhase, hasTurn]

/-- From one record to the other damage is dealt in turn, and the events tell
whose turn it is. -/
def Orderly (g : Game) (events : List BattleEvent) (h : Game) : Prop :=
  ∀ side, DealsInTurn side (g.hasTurn side) events ∧
    events.foldl (turnOpen side) (g.hasTurn side) = h.hasTurn side

namespace Orderly

variable {g h k : Game} {first second : List BattleEvent}

theorem trans (one : g.Orderly first h) (two : h.Orderly second k) :
    g.Orderly (first ++ second) k := by
  intro side
  obtain ⟨deals, last⟩ := one side
  rw [dealsInTurn_append, List.foldl_append, last]
  exact ⟨⟨deals, (two side).1⟩, (two side).2⟩

/-- Events of a turn that is being played are orderly, as long as the turn is
still going on after them. -/
theorem of_within (playing : g.turnPhase = .playing) (active : h.active = g.active)
    (turnPhase : h.turnPhase = g.turnPhase)
    (within : ∀ event ∈ first, event.WithinTurnOf g.active) : g.Orderly first h := by
  intro side
  rw [hasTurn_of_stage active turnPhase]
  exact dealsInTurn_of_within (fun own => by simp [hasTurn, own, playing]) within

/-- Events that tell of neither damage nor turns are orderly in any phase. -/
theorem of_quiet (active : h.active = g.active) (turnPhase : h.turnPhase = g.turnPhase)
    (quiet : ∀ event ∈ first, ∀ side, event.WithinTurnOf side) : g.Orderly first h := by
  intro side
  rw [hasTurn_of_stage active turnPhase]
  have foreign : side.other = side → g.hasTurn side = true := fun own => absurd own side.other_ne
  exact dealsInTurn_of_within foreign fun event mem => quiet event mem side.other

end Orderly

theorem startTurn_orderly {g next : Game} {events : List BattleEvent}
    (ok : g.startTurn = .ok (next, events)) : g.Orderly events next := by
  obtain ⟨-, c, told, rfl, rfl, begun⟩ := of_startTurn_eq_ok ok
  have within : ∀ event ∈ told, event.WithinTurnOf g.active := by
    rcases begun with ⟨-, rfl⟩ | ⟨-, rfl⟩
    · exact nofun
    · simp [BattleEvent.WithinTurnOf]
  intro side
  have begins : turnOpen side (g.hasTurn side) (.turnStarted g.active g.turn) =
      (({ g with turnPhase := .playing }.setCombatant g.active c).hasTurn side) := by
    by_cases own : g.active = side
    · simp [turnOpen, hasTurn, setCombatant, updateCombatant, own]
    · simp [turnOpen, hasTurn, setCombatant, updateCombatant, own]
  have going : g.active = side →
      turnOpen side (g.hasTurn side) (.turnStarted g.active g.turn) = true := by
    intro own
    simp [turnOpen, own]
  obtain ⟨deals, last⟩ := dealsInTurn_of_within going within
  exact ⟨⟨fun _ => rfl, deals⟩, last.trans begins⟩

theorem endTurn_orderly {g next : Game} {events : List BattleEvent}
    (ok : g.endTurn = .ok (next, events)) : g.Orderly events next := by
  obtain ⟨-, rfl, rfl⟩ := of_endTurn_eq_ok ok
  intro side
  refine ⟨⟨fun _ => rfl, trivial⟩, ?_⟩
  by_cases own : g.active = side
  · simp [turnOpen, hasTurn, setTurn, own]
  · simp [turnOpen, hasTurn, setTurn, own]

/-- Plays deal damage in turn, however many of them are made and wherever they
stop. -/
theorem orderly_law : PlayLaw (fun _ => False) Orderly where
  still _ := .of_quiet rfl rfl nofun
  andThen one two := one.trans two
  startTurn ok := startTurn_orderly ok
  endTurn ok := endTurn_orderly ok
  stunned _ := .of_quiet rfl rfl (by simp [BattleEvent.WithinTurnOf])
  consumeExtraPlay ok := by
    have same := stage_of_standing (standing_consumeExtraPlay ok)
    exact .of_quiet (congrArg Stage.active same) (congrArg Stage.turnPhase same) nofun
  resolveFromDeck playing _ _ ok := by
    have same := resolveFromDeck_stage ok
    exact .of_within playing (congrArg Stage.active same) (congrArg Stage.turnPhase same)
      (resolveFromDeck_within ok)
  exhaust {g} playing _ := by
    refine .of_within playing rfl rfl ?_
    intro event mem
    rw [List.mem_singleton.mp mem]
    rfl
  decide _ := .of_quiet rfl rfl nofun

/-! ### Battles -/

/-- Between battles no side has dealt damage. -/
def Rested (g : Game) : Prop := g.phase = .idle → ∀ side, (g.combatant side).damageThisTurn = 0

/-- Between battles no damage of a turn is left on either tally. -/
theorem Reachable.rested {g : Game} (reached : g.Reachable) : g.Rested :=
  fun waiting side => ((reached.restsWhenIdle waiting).sides side).dealt

end Game

/-- The tallies of a side are what the events told since its turn started add up
to, and what those of its turn before add up to, if it had one. -/
structure Combatant.Recounts (c : Combatant) (side : Side) (before since : List BattleEvent) :
    Prop where
  played : c.cardsPlayedThisTurn = playedCount side since
  dealt : c.damageThisTurn = dealtSum side since
  first : (∀ turn, .turnStarted side turn ∉ before) → c.damageLastTurn = 0
  later : ∀ earlier turn preceding, before = earlier ++ .turnStarted side turn :: preceding →
    (∀ turn, .turnStarted side turn ∉ preceding) →
    c.damageLastTurn = dealtSum side (preceding.takeWhile (· ≠ .turnEnded side))

/-- A battle in which damage was dealt in turn from the start leaves tallies
that its events agree with. -/
theorem recounts_of_foldl {side : Side} {book : TurnBook} {c : Combatant}
    {events before since : List BattleEvent} {turn : Nat} (fresh : book.dealt = 0)
    (booked : c.book = events.foldl (TurnBook.enter side) book)
    (deals : DealsInTurn side false events)
    (split : events = before ++ .turnStarted side turn :: since)
    (last : ∀ later, .turnStarted side later ∉ since) : c.Recounts side before since := by
  subst split
  -- The last start of a turn moved the damage on, and from there all is added up.
  have now : c.book = ⟨playedCount side since, dealtSum side since,
      (before.foldl (TurnBook.enter side) book).dealt⟩ := by
    rw [booked, List.foldl_append, List.foldl_cons, foldl_enter_of_no_start last]
    simp [TurnBook.enter]
  have start := (dealsInTurn_append.mp deals).1
  refine ⟨congrArg TurnBook.played now, congrArg TurnBook.dealt now, fun none => ?_, ?_⟩
  · have none_dealt := dealtSum_eq_zero start none
    have dealt := congrArg TurnBook.dealtBefore now
    rw [foldl_enter_of_no_start none, none_dealt, fresh] at dealt
    exact dealt
  · rintro earlier turn preceding rfl none
    obtain ⟨-, -, inTurn⟩ := dealsInTurn_append.mp start
    have dealt := congrArg TurnBook.dealtBefore now
    rw [List.foldl_append, List.foldl_cons, foldl_enter_of_no_start none, TurnBook.enter,
      if_pos rfl] at dealt
    rw [← dealtSum_eq_takeWhile inTurn none]
    exact dealt.trans (Int.zero_add _)

namespace Game

open Resolution (Passes Changes)

/-- The damage tally of a resolving card agrees with its log at every point; and
in a battle whose cards do not overwrite the tallies of a turn, these are at any
time what the events told since the start of each side's turn, and in its turn
before, add up to. -/
theorem tallies_agree_with_events :
    (∀ (g : Game) (card : Card),
      (∀ between r, Passes card (g.resolution (.ofCard g.active card)) between →
        Changes card.Carries between r → r.Tallied) ∧
      ∀ after events, g.resolveCard card = .ok (after, events) →
        ∃ r, Passes card (g.resolution (.ofCard g.active card)) r ∧
          after = r.settleCrits.game ∧ events = r.scope.events.toList) ∧
    ∀ g : Game, g.Reachable → g.phase = .idle →
      ∀ calls : List Action, (∀ action ∈ calls, action.plays = true) →
      g.Spares Field.IsTally (g.history (.startBattle :: calls)) →
      ∀ side before turn since,
        g.history (.startBattle :: calls) = before ++ .turnStarted side turn :: since →
        (∀ later, .turnStarted side later ∉ since) →
        (((Action.startBattle :: calls).foldl after g).combatant side).Recounts side before
          since := by
  constructor
  · intro g card
    constructor
    · intro between r passes changes
      exact changes.tallied (passes.changes.tallied (Resolution.tallied_ofCard g card))
    · intro after events ok
      unfold resolveCard at ok
      split at ok
      · rename_i r activated
        cases ok
        refine ⟨r, Resolution.activate_passes activated, rfl, ?_⟩
        unfold Resolution.settleCrits
        split <;> rfl
      · cases ok
  · intro g reached waiting calls playing spares side before turn since split last
    obtain ⟨started, starts, told, plays⟩ := exists_plays_of_idle waiting playing
    rw [told] at split spares
    have begun : g.Booked [.battleStarted] started :=
      .of_book_eq (fun party => Combatant.book_of_vitals (vitals_startBattle starts party))
        (by simp [TurnBook.enter])
    have later := spares.of_subset (pool_startBattle starts) (List.subset_cons_self ..)
    have booked := begun.trans (booked_law.plays plays later)
    have deals := (orderly_law.plays plays (.of_none _ _) side).1
    have turnPhase := congrArg (fun s => s.stage.turnPhase) (standing_startBattle starts)
    have closed : started.hasTurn side = false := by
      rw [hasTurn, show started.turnPhase = .start from turnPhase]
      simp
    rw [closed] at deals
    have rested : (g.combatant side).book.dealt = 0 := reached.rested waiting side
    exact recounts_of_foldl rested (booked side) ⟨fun _ => rfl, deals⟩ split last

/-- The card of the sparring below that deals damage. -/
def jab : Card := { name := "Jab", effects := [.damage 4, .damage 1] }

/-- Two sides that have not met yet: the user strikes twice with its card, and
the opponent mends. -/
def sparring : Game :=
  [.addCard .user jab, .addCard .opponent { name := "Rest", effects := [.heal 2] }].foldl after
    (.fresh .standard 7)

theorem sparring_spares (events : List BattleEvent) : sparring.Spares Field.IsTally events := by
  intro side id card _ found field _ carried
  obtain ⟨owner, stored⟩ := CardPool.of_card?_eq_some found
  obtain ⟨effect, line, kind⟩ := carried
  have none : ∀ entry ∈ sparring.pool.cards.entries, ∀ effect ∈ entry.2.card.effects,
      effect.kind = .damage ∨ effect.kind = .heal := by decide +kernel
  rcases none _ stored effect line with harms | heals
  · cases harms.symm.trans kind
  · cases heals.symm.trans kind

/-- In the example the user has dealt five in its turn before, and once its card
has been carried out the tally of the card agrees with the log. -/
theorem sparring_tallies :
    ((([.startBattle, .playCard, .runTurn, .playCard] : List Action).foldl after
      sparring).combatant .user).damageLastTurn = 5 ∧
    ∃ r, Passes jab (sparring.resolution (.ofCard .user jab)) r ∧
      r.scope.damageTaken.get .opponent = damageSum .opponent r.scope.events.toList := by
  obtain ⟨cards, battles⟩ := tallies_agree_with_events
  constructor
  · have split : sparring.history [.startBattle, .playCard, .runTurn, .playCard] =
        [.battleStarted, .turnStarted .user 0, .cardPlayed .user ⟨0⟩, .damage .user .opponent 4,
          .damage .user .opponent 1, .turnEnded .user, .turnStarted .opponent 1,
          .cardPlayed .opponent ⟨1⟩, .heal .opponent 2, .turnEnded .opponent] ++
        .turnStarted .user 2 :: [.cardPlayed .user ⟨0⟩, .damage .user .opponent 4,
          .damage .user .opponent 1, .turnEnded .user] := by
      decide +kernel
    have reached : sparring.Reachable := (Reachable.fresh .standard 7).foldl (by simp)
    have recounts := battles sparring reached (by decide +kernel) [.playCard, .runTurn, .playCard]
      (by decide) (sparring_spares _) .user _ 2 _ split (by simp)
    exact recounts.later [.battleStarted] 0 _ rfl (by simp)
  · obtain ⟨points, ends⟩ := cards sparring jab
    have ran : (sparring.resolveCard jab).isOk = true := by decide +kernel
    cases ok : sparring.resolveCard jab with
    | error fault =>
        rw [ok] at ran
        cases ran
    | ok outcome =>
        obtain ⟨r, passes, -, -⟩ := ends outcome.1 outcome.2 ok
        exact ⟨r, passes, points r r passes .refl .opponent⟩

end Game

end CardBattle
