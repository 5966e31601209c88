/-
Module: CardBattle.Proofs.Game.TurnBooks
Purpose: What each event makes of the tallies of a turn, and that plays keep to it.
Main exports:
  playedCount, dealtSum, TurnBook, TurnBook.enter, Game.Booked, Game.resolveCard_booked,
  Game.booked_law
-/
import CardBattle.Proofs.Game.Plays
import CardBattle.Proofs.Resolution.Tally

/-!
# The book of a turn

A combatant counts the cards it plays in a turn and the damage that it deals to the other side, and
remembers the damage of its turn before.  `TurnBook.enter` says what an event makes of these
numbers, and `Booked` that the events told between two records lead from the numbers in one to those
in the other.
-/

namespace CardBattle

/-- Amount of damage, if this is damage from `side` to the other. -/
def BattleEvent.dealtBy? (side : Side) : BattleEvent → Option Int
  | damage source target amount =>
      if source = side ∧ target = side.other then some amount else none
  | _ => none

/-- Number of cards that a side played, by events. -/
def playedCount (side : Side) (events : List BattleEvent) : Nat := (playedCards side events).length

/-- Damage from a side to the other, summed over events. -/
def dealtSum (side : Side) (events : List BattleEvent) : Int :=
  (events.filterMap (BattleEvent.dealtBy? side)).sum

/-- The fields in which a combatant keeps the tallies of its turns. -/
def Field.IsTally : Field → Prop
  | .cardsPlayedThisTurn | .damageThisTurn | .damageLastTurn => True
  | _ => False

/-! ### Books -/

/-- The tallies of a side: cards played and damage dealt in its turn, and damage
dealt in the turn before. -/
structure TurnBook where
  played : Nat
  dealt : Int
  dealtBefore : Int
deriving DecidableEq

/-- The tallies of a side after an event. -/
def TurnBook.enter (side : Side) (book : TurnBook) : BattleEvent → TurnBook
  | .turnStarted owner _ => if owner = side then ⟨0, 0, book.dealt⟩ else book
  | .cardPlayed owner _ => if owner = side then { book with played := book.played + 1 } else book
  | .damage source target amount =>
      if source = side ∧ target = side.other then { book with dealt := book.dealt + amount }
      else book
  | _ => book

theorem playedCount_append (side : Side) (first second : List BattleEvent) :
    playedCount side (first ++ second) = playedCount side first + playedCount side second := by
  simp [playedCount, playedCards_append]

theorem dealtSum_append (side : Side) (first second : List BattleEvent) :
    dealtSum side (first ++ second) = dealtSum side first + dealtSum side second := by
  simp [dealtSum]

theorem playedCount_cons (side : Side) (event : BattleEvent) (rest : List BattleEvent) :
    playedCount side (event :: rest) = playedCount side [event] + playedCount side rest :=
  playedCount_append side [event] rest

theorem dealtSum_cons (side : Side) (event : BattleEvent) (rest : List BattleEvent) :
    dealtSum side (event :: rest) = dealtSum side [event] + dealtSum side rest :=
  dealtSum_append side [event] rest

/-- One event counts as one card where it tells of a play of the side, and not
at all otherwise. -/
theorem playedCount_singleton (side : Side) (event : BattleEvent) :
    playedCount side [event] = (event.playedBy? side).toList.length := by
  rw [playedCount, playedCards, List.filterMap_cons]
  cases event.playedBy? side <;> rfl

theorem dealtSum_singleton (side : Side) (event : BattleEvent) :
    dealtSum side [event] = (event.dealtBy? side).getD 0 := by
  rw [dealtSum, List.filterMap_cons]
  cases event.dealtBy? side <;> simp

/-- Apart from a turn of the side that starts, an event is added to what is
there. -/
theorem TurnBook.enter_eq {side : Side} {book : TurnBook} {event : BattleEvent}
    (other : ∀ turn, event ≠ .turnStarted side turn) :
    book.enter side event =
      ⟨book.played + playedCount side [event], book.dealt + dealtSum side [event],
        book.dealtBefore⟩ := by
  rw [playedCount_singleton, dealtSum_singleton]
  cases event with
  | turnStarted owner turn =>
      have apart : owner ≠ side := fun same => other turn (by rw [same])
      simp [enter, apart, BattleEvent.playedBy?, BattleEvent.dealtBy?]
  | cardPlayed owner id =>
      by_cases own : owner = side <;>
        simp [enter, own, BattleEvent.playedBy?, BattleEvent.dealtBy?]
  | damage source target amount =>
      by_cases dealt : source = side ∧ target = side.other <;>
        simp [enter, dealt, BattleEvent.playedBy?, BattleEvent.dealtBy?]
  | _ => simp [enter, BattleEvent.playedBy?, BattleEvent.dealtBy?]

/-- While no turn of the side starts, cards and damage are added up and the turn
before stays what it was. -/
theorem foldl_enter_of_no_start {side : Side} {events : List BattleEvent} {book : TurnBook}
    (none : ∀ turn, .turnStarted side turn ∉ events) :
    events.foldl (TurnBook.enter side) book =
      ⟨book.played + playedCount side events, book.dealt + dealtSum side events,
        book.dealtBefore⟩ := by
  induction events generalizing book with
  | nil => simp [playedCount, playedCards, dealtSum]
  | cons event rest ih =>
      have other : ∀ turn, event ≠ .turnStarted side turn :=
        fun turn same => none turn (same ▸ List.mem_cons_self ..)
      rw [List.foldl_cons, ih fun turn mem => none turn (List.mem_cons_of_mem _ mem),
        TurnBook.enter_eq other, playedCount_cons side event rest, dealtSum_cons side event rest,
        Nat.add_assoc, Int.add_assoc]

/-- The tallies among the vitals. -/
def Vitals.book (v : Vitals) : TurnBook :=
  ⟨v.cardsPlayedThisTurn, v.damageThisTurn, v.damageLastTurn⟩

namespace Combatant

/-- The tallies that a combatant keeps. -/
def book (c : Combatant) : TurnBook := c.vitals.book

theorem book_of_vitals {c d : Combatant} (same : d.vitals = c.vitals) : d.book = c.book :=
  congrArg Vitals.book same

/-- Fields that are no tallies leave the tallies alone when they are
overwritten. -/
theorem book_assign {c written : Combatant} {field : Field} {value : Binary64}
    (other : ¬ field.IsTally) (ok : c.assign field value = .ok written) :
    written.book = c.book := by
  unfold assign at ok
  split at ok
  case h_4 s => exact Except.ok.inj ok ▸ book_of_vitals (vitals_setStatus ..)
  case h_5 => exact absurd trivial other
  case h_6 => exact absurd trivial other
  case h_7 => exact absurd trivial other
  all_goals cases ok
  all_goals rfl

end Combatant

namespace Game

/-- The events lead from the tallies in one record to those in the other. -/
def Booked (g : Game) (events : List BattleEvent) (h : Game) : Prop :=
  ∀ side, (h.combatant side).book = events.foldl (TurnBook.enter side) (g.combatant side).book

namespace Booked

variable {g h k : Game} {first second : List BattleEvent}

theorem refl (g : Game) : g.Booked [] g := fun _ => rfl

theorem trans (one : g.Booked first h) (two : h.Booked second k) :
    g.Booked (first ++ second) k := by
  intro side
  rw [two side, one side, List.foldl_append]

/-- Events that say nothing of cards, damage or turns go with any step that
keeps the tallies. -/
theorem of_book_eq (same : ∀ side, (h.combatant side).book = (g.combatant side).book)
    (silent : ∀ event ∈ first, ∀ side (book : TurnBook), book.enter side event = book) :
    g.Booked first h := by
  intro side
  have still : ∀ (events : List BattleEvent) (book : TurnBook),
      (∀ event ∈ events, ∀ book : TurnBook, book.enter side event = book) →
        events.foldl (TurnBook.enter side) book = book := by
    intro events book quiet
    induction events generalizing book with
    | nil => rfl
    | cons event rest ih =>
        rw [List.foldl_cons, quiet event (List.mem_cons_self ..),
          ih _ fun other mem => quiet other (List.mem_cons_of_mem _ mem)]
  rw [same side, still first _ fun event mem => silent event mem side]

/-- One event, told with a change of one combatant that enters just this event.
The other side has to be left out of it. -/
theorem of_update {side : Side} {change : Combatant → Combatant} {event : BattleEvent}
    (own : (change (g.combatant side)).book = (g.combatant side).book.enter side event)
    (other : ∀ book : TurnBook, book.enter side.other event = book) :
    g.Booked [event] (g.updateCombatant side change) := by
  intro party
  rcases Side.eq_or_eq_other party side with rfl | rfl
  · rw [combatant_updateCombatant_self, own]
    rfl
  · rw [combatant_updateCombatant_other, List.foldl_cons, List.foldl_nil, other]

end Booked

theorem book_of_standing {g h : Game} (same : h.standing = g.standing) (side : Side) :
    (h.combatant side).book = (g.combatant side).book :=
  Combatant.book_of_vitals (vitals_of_standing same side)

end Game

/-- Damage to oneself is in no book, neither as dealt nor as taken. -/
theorem TurnBook.enter_damage_self (side owner : Side) (amount : Int) (book : TurnBook) :
    book.enter side (.damage owner owner amount) = book := by
  have apart : ¬ (owner = side ∧ owner = side.other) := by
    rintro ⟨rfl, same⟩
    exact owner.ne_other same
  simp [TurnBook.enter, apart]

namespace Resolution

variable {may : EffectKind → Prop}

/-- Unless tallies are overwritten, what happens to them is told, for each kind
of change that a card can make. -/
theorem Change.booked (spares : ∀ field : Field, field.IsTally → ¬ may (.set field))
    {r after : Resolution} (change : Change may r after) : Tells Game.Booked r after := by
  cases change with
  | counter side s value =>
      refine .silent rfl (.of_book_eq (fun party => ?_) nofun)
      exact Game.view_updateCombatant Combatant.book
        (Combatant.book_of_vitals (Combatant.vitals_setStatus ..)) party
  | @overwritten side field value c cause written =>
      have other : ¬ field.IsTally := fun tally => spares field tally cause
      have same : c.book = (r.combatant side).book := Combatant.book_assign other written
      exact .silent rfl (.of_book_eq (Game.view_updateCombatant Combatant.book same) nofun)
  | rolled dice => exact .silent rfl (.refl _)
  | missed side =>
      refine ⟨[.miss side], Scope.events_emit .., .of_book_eq (fun _ => rfl) ?_⟩
      simp [TurnBook.enter]
  | healed side amount =>
      exact ⟨[.heal side amount], Scope.events_emit .., .of_update rfl fun _ => rfl⟩
  | @struck amount counted =>
      -- The wound is the other side's, and the tally is the dealer's own.
      have hurt : r.game.Booked [] (r.wound r.active r.active.other amount).game :=
        .of_book_eq (Game.view_updateCombatant Combatant.book rfl) nofun
      refine ⟨[.damage r.active r.active.other amount], Scope.events_emit ..,
        hurt.trans (.of_update ?_ fun book => ?_)⟩
      · simp [TurnBook.enter, Combatant.book, Combatant.vitals, Vitals.book]
      · simp [TurnBook.enter]
  | @suffered amount counted =>
      refine ⟨[.damage r.active r.active amount], Scope.events_emit .., .of_book_eq ?_ ?_⟩
      · exact Game.view_updateCombatant Combatant.book rfl
      · intro event mem side book
        rw [List.mem_singleton.mp mem]
        exact TurnBook.enter_damage_self ..
  | noted => exact .silent rfl (.refl _)

end Resolution

namespace Game

/-- A card that spares the tallies tells all that it does to them; the play
itself is counted outside of it. -/
theorem resolveCard_booked {g after : Game} {card : Card} {events : List BattleEvent}
    (spares : ∀ field : Field, field.IsTally → ¬ card.Carries (.set field))
    (ok : g.resolveCard card = .ok (after, events)) : g.Booked events after := by
  obtain ⟨r, changes, rfl, rfl⟩ := resolveCard_changes ok
  obtain ⟨told, log, booked⟩ := changes.tells Booked.refl Booked.trans fun _ change =>
    change.booked fun field tally change => spares field tally change.carries
  rw [log]
  exact booked

/-- With the play counted first, a card from the deck tells all that happens to
the tallies. -/
theorem resolveFromDeck_booked {g after : Game} {id : CardId} {events : List BattleEvent}
    (spares : g.Spares Field.IsTally events) (ok : g.resolveFromDeck id = .ok (after, events)) :
    g.Booked events after := by
  obtain ⟨card, resolved, told, rest, trashed, found, settled, away, rfl, rfl⟩ :=
    of_resolveFromDeck_eq_ok ok
  have first : g.Booked [.cardPlayed g.active id] (g.updateCombatant g.active fun c =>
      { c with cardsPlayedThisTurn := c.cardsPlayedThisTurn + 1 }) := by
    refine .of_update ?_ fun book => ?_
    · simp [TurnBook.enter, Combatant.book, Combatant.vitals, Vitals.book]
    · simp [TurnBook.enter]
  have second := resolveCard_booked (spares g.active id card (by simp) found) settled
  have third : resolved.Booked (if trashed then [.cardTrashed g.active id] else [])
      (resolved.setCombatant g.active rest) := by
    refine .of_book_eq (view_updateCombatant Combatant.book ?_) ?_
    · exact Combatant.view_putAway (fun _ _ _ _ _ => rfl) away
    · intro event mem side book
      split at mem
      · rw [List.mem_singleton.mp mem]
        rfl
      · cases mem
  exact (first.trans second).trans third

/-- A turn that starts moves the damage of the turn on and counts from nothing,
which its first event says. -/
theorem startTurn_booked {g next : Game} {events : List BattleEvent}
    (ok : g.startTurn = .ok (next, events)) : g.Booked events next := by
  obtain ⟨-, -, other, gained, -, own⟩ := startTurn_standing ok
  obtain ⟨-, c, told, -, rfl, begun⟩ := of_startTurn_eq_ok ok
  have quiet : ∀ side (book : TurnBook), told.foldl (TurnBook.enter side) book = book := by
    intro side book
    rcases begun with ⟨-, rfl⟩ | ⟨-, rfl⟩
    · rfl
    · rfl
  intro side
  rw [List.foldl_cons, quiet]
  rcases Side.eq_or_eq_other side g.active with rfl | rfl
  · rw [Combatant.book, own]
    simp [TurnBook.enter, Combatant.book, Combatant.vitals, Vitals.book]
  · rw [other]
    simp [TurnBook.enter]

/-- What plays do to the tallies is told, if their cards spare them.  The
tallies of both sides are kept up from the log alone. -/
theorem booked_law : PlayLaw Field.IsTally Booked where
  still := Booked.refl
  andThen one two := one.trans two
  startTurn ok := startTurn_booked ok
  endTurn ok := by
    obtain ⟨-, rfl, rfl⟩ := of_endTurn_eq_ok ok
    exact .of_book_eq (fun _ => rfl) (by simp [TurnBook.enter])
  stunned spent := .of_book_eq (book_of_standing (standing_spend spent)) (by simp [TurnBook.enter])
  consumeExtraPlay ok := .of_book_eq (book_of_standing (standing_consumeExtraPlay ok)) nofun
  resolveFromDeck _ _ spares ok := resolveFromDeck_booked spares ok
  exhaust {g} _ _ := by
    refine .of_book_eq (view_updateCombatant Combatant.book (g := { g with phase := .over }) rfl) ?_
    intro event mem side book
    rw [List.mem_singleton.mp mem]
    exact TurnBook.enter_damage_self ..
  decide _ := .refl _

end Game

end CardBattle
