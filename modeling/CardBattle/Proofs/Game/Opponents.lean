/-
Module: CardBattle.Proofs.Game.Opponents
Purpose: A loaded enemy takes the whole place of the opponent before, and no other place.
Main exports:
  CardPool.insertAll, CardPool.newIds, CardPool.map_find?_newIds, CardPool.Sound.follows_eraseAll,
  Game.addCards_eq, Game.swapCards, Game.loadOpponent_eq_ok, Game.Replaces,
  Game.Reachable.loadOpponent_replaces
-/
import CardBattle.Proofs.Game.Cards

/-!
# Loading an opponent

The cards of the opponent before are taken out of the pool one by one, and those of the enemy are
stored one by one under new numbers.  Both loops are described from outside: what is stored under a
number, and which cards are linked, when all cards are out or all are in.  The two piles of the
opponent cover all its cards, so nothing is left that the enemy could inherit.
-/

namespace CardBattle

namespace CardPool

/-! ### Cards that come in -/

/-- The pool with some more cards of one owner, stored one after the other. -/
def insertAll (pool : CardPool) (owner : Side) (cards : List Card) : CardPool :=
  cards.foldl (fun pool card => (pool.insert card owner).2) pool

/-- The numbers that so many new cards get. -/
def newIds (pool : CardPool) (count : Nat) : List CardId :=
  (List.range' pool.nextNumber count).map CardId.mk

/-- The first of several new cards gets the next number, and the others get the
numbers after it. -/
theorem newIds_succ (pool : CardPool) (card : Card) (owner : Side) (count : Nat) :
    pool.newIds (count + 1) =
      (pool.insert card owner).1 :: (pool.insert card owner).2.newIds count := by
  rw [newIds, List.range'_succ]
  rfl

/-- A new number is not below the next one, so it is on no card that is stored
already. -/
theorem nextNumber_le_of_mem_newIds {pool : CardPool} {count : Nat} {id : CardId}
    (new : id ∈ pool.newIds count) : pool.nextNumber ≤ id.number := by
  obtain ⟨number, inside, rfl⟩ := List.mem_map.mp new
  exact (List.mem_range'_1.mp inside).1

section

variable (pool : CardPool) (owner : Side) (cards : List Card)

/-- New cards come without links. -/
theorem chains_insertAll : (pool.insertAll owner cards).chains = pool.chains := by
  induction cards generalizing pool with
  | nil => rfl
  | cons card rest ih => exact ih _

/-- Under all other numbers there is what was there before the new cards came
in. -/
theorem find?_insertAll {id : CardId} (old : id ∉ pool.newIds cards.length) :
    (pool.insertAll owner cards).cards.find? id = pool.cards.find? id := by
  induction cards generalizing pool with
  | nil => rfl
  | cons card rest ih =>
      rw [List.length_cons, newIds_succ pool card owner, List.mem_cons, not_or] at old
      exact (ih _ old.2).trans (OrderedMap.find?_insert_ne _ old.1 _)

/-- Under the new numbers there are the cards, in their order, each with its
owner. -/
theorem map_find?_newIds :
    (pool.newIds cards.length).map (pool.insertAll owner cards).cards.find? =
      cards.map fun card => some ⟨card, owner⟩ := by
  induction cards generalizing pool with
  | nil => rfl
  | cons card rest ih =>
      have later : (pool.insert card owner).1 ∉
          (pool.insert card owner).2.newIds rest.length := by
        intro new
        exact absurd (nextNumber_le_of_mem_newIds new) (Nat.not_succ_le_self _)
      have first : (pool.insertAll owner (card :: rest)).cards.find? (pool.insert card owner).1 =
          some ⟨card, owner⟩ :=
        (find?_insertAll _ owner rest later).trans (OrderedMap.find?_insert_self ..)
      rw [List.length_cons, newIds_succ pool card owner, List.map_cons, List.map_cons, first]
      exact congrArg _ (ih _)

end

/-! ### Cards that go out -/

theorem nextNumber_eraseAll (pool : CardPool) (gone : List CardId) :
    (gone.foldl erase pool).nextNumber = pool.nextNumber := by
  induction gone generalizing pool with
  | nil => rfl
  | cons first rest ih => exact ih _

/-- Erasing cards gives no number back, so new cards get the same numbers as
without it. -/
theorem newIds_eraseAll (pool : CardPool) (gone : List CardId) (count : Nat) :
    (gone.foldl erase pool).newIds count = pool.newIds count := by
  rw [newIds, nextNumber_eraseAll]
  rfl

theorem find?_eraseAll {pool : CardPool} {gone : List CardId} {id : CardId} (kept : id ∉ gone) :
    (gone.foldl erase pool).cards.find? id = pool.cards.find? id := by
  induction gone generalizing pool with
  | nil => rfl
  | cons first rest ih =>
      rw [List.mem_cons, not_or] at kept
      exact (ih kept.2).trans (OrderedMap.find?_erase_ne _ kept.1)

/-- Exactly the links that touch one of the cards are gone, as each erasure
takes those of its card. -/
theorem Sound.follows_eraseAll {pool : CardPool} (sound : pool.Sound) {gone : List CardId}
    {a b : CardId} :
    (gone.foldl CardPool.erase pool).chains.Follows a b ↔ pool.chains.Follows a b ∧ a ∉ gone ∧ b ∉ gone := by
  induction gone generalizing pool with
  | nil => simp
  | cons first rest ih =>
      have step : (pool.erase first).chains.Follows a b ↔
          pool.chains.Follows a b ∧ a ≠ first ∧ b ≠ first := sound.links.follows_unlink
      rw [List.foldl_cons, ih (sound.erase first), step, List.mem_cons, List.mem_cons]
      tauto

end CardPool

namespace Game

/-! ### Loading -/

/-- Cards that a side is given one after the other are one change of the pool
and of that side. -/
theorem addCards_eq (g : Game) (side : Side) (cards : List Card) :
    g.addCards side cards =
      { g with pool := g.pool.insertAll side cards }.updateCombatant side fun c =>
        { c with deck := c.deck ++ g.pool.newIds cards.length } := by
  induction cards generalizing g with
  | nil =>
      simp only [CardPool.newIds, List.length_nil, List.range'_zero, List.map_nil, List.append_nil]
      cases side <;> rfl
  | cons card rest ih =>
      have order (deck : List CardId) :
          deck ++ [(g.pool.insert card side).1] ++ (g.pool.insert card side).2.newIds rest.length =
            deck ++ g.pool.newIds (card :: rest).length := by
        rw [List.length_cons, CardPool.newIds_succ g.pool card side, List.append_assoc]
        rfl
      refine (ih (g.addCard side card).1).trans ?_
      simp only [← order]
      exact updateCombatant_updateCombatant
        { g with pool := g.pool.insertAll side (card :: rest) } side
        (fun c => { c with deck := c.deck ++ [(g.pool.insert card side).1] })
        (fun c => { c with
          deck := c.deck ++ (g.pool.insert card side).2.newIds rest.length })

/-- The pool without the cards of the opponent, and with others in their place. -/
def swapCards (g : Game) (cards : List Card) : CardPool :=
  ((g.combatant .opponent).cards.foldl CardPool.erase g.pool).insertAll .opponent cards

/-- Between battles every enemy can be loaded, and this is the record that it
leaves. -/
theorem loadOpponent_eq_ok {g : Game} (waiting : g.phase = .idle) (enemy : Enemy) :
    g.loadOpponent enemy =
      .ok ({ g with pool := g.swapCards enemy.cards }.updateCombatant .opponent fun c =>
        { c.become enemy with deck := g.pool.newIds enemy.cards.length }) := by
  rw [loadOpponent, if_pos waiting]
  dsimp only
  rw [addCards_eq]
  simp only [discardFromPool, updateCombatant, CardPool.newIds_eraseAll]
  rfl

section

variable {g : Game}

/-- The new numbers stand for the cards of the enemy, also after the old cards
have been erased. -/
theorem map_find?_swapCards (g : Game) (cards : List Card) :
    (g.pool.newIds cards.length).map (g.swapCards cards).cards.find? =
      cards.map fun card => some ⟨card, .opponent⟩ := by
  rw [← CardPool.newIds_eraseAll g.pool (g.combatant .opponent).cards]
  exact CardPool.map_find?_newIds _ .opponent cards

/-- Of the links those of the user are left.  No link joins the two sides, so
none is cut in half. -/
theorem Tidy.follows_swapCards (tidy : g.Tidy) (cards : List Card) {first second : CardId} :
    (g.swapCards cards).chains.Follows first second ↔
      g.pool.chains.Follows first second ∧ g.pool.owner? first = some .user ∧
        g.pool.owner? second = some .user := by
  rw [swapCards, CardPool.chains_insertAll, tidy.sound.follows_eraseAll]
  refine and_congr_right fun step => ?_
  obtain ⟨owner, one, two⟩ := tidy.sound.sameOwner step
  rw [(tidy.held .opponent).owned, (tidy.held .opponent).owned, one, two]
  cases owner <;> decide

/-- Every new number is the opponent's, so its new deck lists cards of its own. -/
theorem owner?_swapCards {cards : List Card} {id : CardId}
    (new : id ∈ g.pool.newIds cards.length) : (g.swapCards cards).owner? id = some .opponent := by
  have stored : (g.swapCards cards).cards.find? id ∈
      cards.map fun card => some (⟨card, .opponent⟩ : OwnedCard) := by
    rw [← map_find?_swapCards]
    exact List.mem_map_of_mem new
  obtain ⟨card, -, found⟩ := List.mem_map.mp stored
  rw [CardPool.owner?, ← found]
  rfl

/-- Of the cards those of the user are left, each under its number, and the
enemy's are none of them. -/
theorem Tidy.find?_swapCards (tidy : g.Tidy) (cards : List Card) (id : CardId) (card : Card) :
    (g.swapCards cards).cards.find? id = some ⟨card, .user⟩ ↔
      g.pool.cards.find? id = some ⟨card, .user⟩ := by
  have owner {pool : CardPool} (found : pool.cards.find? id = some ⟨card, .user⟩) :
      pool.owner? id = some .user := by
    rw [CardPool.owner?, found]
    rfl
  by_cases new : id ∈ g.pool.newIds cards.length
  · constructor
    · intro found
      have swapped := owner found
      rw [owner?_swapCards new] at swapped
      cases swapped
    · intro found
      exact absurd (CardPool.nextNumber_le_of_mem_newIds new)
        (Nat.not_le_of_lt (tidy.sound.numbered (owner found)))
  · rw [← CardPool.newIds_eraseAll g.pool (g.combatant .opponent).cards] at new
    rw [swapCards, CardPool.find?_insertAll _ _ _ new]
    by_cases gone : id ∈ (g.combatant .opponent).cards
    · constructor
      · intro found
        have erased := owner found
        rw [CardPool.owner?_eraseAll, if_pos gone] at erased
        cases erased
      · intro found
        have before := owner found
        rw [((tidy.held .opponent).owned id).mp gone] at before
        cases before
    · rw [CardPool.find?_eraseAll gone]

end

/-- The opponent of a record has been replaced by an enemy, and nothing else
has. -/
structure Replaces (g : Game) (enemy : Enemy) (next : Game) : Prop where
  /-- The deck lists the cards of the enemy in their order, -/
  deck : (next.combatant .opponent).deck.map next.pool.cards.find? =
    enemy.cards.map fun card => some ⟨card, .opponent⟩
  /-- each under a number of its own -/
  distinct : (next.combatant .opponent).deck.Nodup
  /-- that nothing had before, -/
  fresh : ∀ id ∈ (next.combatant .opponent).deck, ¬ g.Mentions id
  /-- and the opponent has no other cards. -/
  owned : ∀ id, next.pool.owner? id = some .opponent ↔ id ∈ (next.combatant .opponent).deck
  /-- But for its deck the opponent is a new combatant with the health and the relics of the
  enemy. -/
  opponent : next.combatant .opponent =
    { Combatant.withHealth enemy.health with
      deck := (next.combatant .opponent).deck
      relics := enemy.relics }
  unlinkedNext : ∀ first second, next.pool.chains.successor? first = some second →
    first ∉ (next.combatant .opponent).deck ∧ second ∉ (next.combatant .opponent).deck
  unlinkedPrev : ∀ first second, next.pool.chains.predecessor? second = some first →
    first ∉ (next.combatant .opponent).deck ∧ second ∉ (next.combatant .opponent).deck
  user : next.combatant .user = g.combatant .user
  userCards : ∀ id card, next.pool.cards.find? id = some ⟨card, .user⟩ ↔
    g.pool.cards.find? id = some ⟨card, .user⟩
  userNext : ∀ first second, next.pool.chains.successor? first = some second ↔
    g.pool.chains.successor? first = some second ∧ g.pool.owner? first = some .user ∧
      g.pool.owner? second = some .user
  userPrev : ∀ first second, next.pool.chains.predecessor? second = some first ↔
    g.pool.chains.predecessor? second = some first ∧ g.pool.owner? first = some .user ∧
      g.pool.owner? second = some .user
  /-- Of the record nothing but the pool and the combatants changes. -/
  record : next = { g with pool := next.pool, combatants := next.combatants }

section

variable {g : Game}

/-- Loading writes to the pool and to the opponent, in whatever record it is not
refused. -/
theorem of_loadOpponent_writes {enemy : Enemy} {next : Game}
    (ok : g.loadOpponent enemy = .ok next) :
    next.pool = g.swapCards enemy.cards ∧
      next.combatant .opponent =
        { Combatant.withHealth enemy.health with
          deck := g.pool.newIds enemy.cards.length
          relics := enemy.relics } ∧
      next.combatant .user = g.combatant .user ∧
      next = { g with pool := next.pool, combatants := next.combatants } := by
  have waiting := (of_loadOpponent_eq_ok ok).1
  rw [loadOpponent_eq_ok waiting, Except.ok.injEq] at ok
  subst ok
  exact ⟨rfl, rfl, rfl, rfl⟩

/-- In a tidy record an enemy takes the place of the opponent.  The piles of the
opponent list all its cards, so none of them is left behind. -/
theorem Tidy.replaces (tidy : g.Tidy) {enemy : Enemy} {next : Game}
    (ok : g.loadOpponent enemy = .ok next) : g.Replaces enemy next := by
  have left : next.Tidy := tidy.loadOpponent ok
  obtain ⟨pool, opponent, user, record⟩ := of_loadOpponent_writes ok
  have deck : (next.combatant .opponent).deck = g.pool.newIds enemy.cards.length := by
    rw [opponent]
  have cards : (next.combatant .opponent).cards = (next.combatant .opponent).deck := by
    rw [opponent]
    exact List.append_nil _
  have held := left.held .opponent
  have fresh : ∀ id ∈ (next.combatant .opponent).deck, ¬ g.Mentions id := by
    intro id new mentioned
    rw [deck] at new
    exact Nat.not_le_of_lt (tidy.number_lt mentioned) (CardPool.nextNumber_le_of_mem_newIds new)
  -- The links that are left are those of the user, and the new cards are in none of them.
  have links : ∀ first second, next.pool.chains.Follows first second ↔
      g.pool.chains.Follows first second ∧ g.pool.owner? first = some .user ∧
        g.pool.owner? second = some .user := by
    intro first second
    rw [pool, tidy.follows_swapCards]
  have outside : ∀ first second, next.pool.chains.Follows first second →
      first ∉ (next.combatant .opponent).deck ∧ second ∉ (next.combatant .opponent).deck := by
    intro first second step
    have before := ((links first second).mp step).1
    exact ⟨fun new => fresh first new (.nextKey before),
      fun new => fresh second new (.nextValue before)⟩
  constructor
  case deck => rw [deck, pool, map_find?_swapCards]
  case distinct => exact held.deck_nodup
  case fresh => exact fresh
  case owned =>
    intro id
    rw [← cards, held.owned]
  case opponent => rw [opponent]
  case unlinkedNext => exact outside
  case unlinkedPrev =>
    intro first second step
    exact outside first second (left.sound.links.inverse.mpr step)
  case user => exact user
  case userCards =>
    rw [pool]
    exact tidy.find?_swapCards enemy.cards
  case userNext => exact links
  case userPrev =>
    intro first second
    rw [← left.sound.links.inverse, ← tidy.sound.links.inverse]
    exact links first second
  case record => exact record

/-- Between battles every enemy can be loaded, in every record of a run.  It
replaces the opponent without leaving anything of the one before. -/
theorem Reachable.loadOpponent_replaces (reached : g.Reachable) (waiting : g.phase = .idle)
    (enemy : Enemy) : ∃ next, g.loadOpponent enemy = .ok next ∧ g.Replaces enemy next :=
  ⟨_, loadOpponent_eq_ok waiting enemy, reached.tidy.replaces (loadOpponent_eq_ok waiting enemy)⟩

end

/-- Two linked cards of the user, and three of the opponent: one is trashed, the
others are linked. -/
def rivalry : Game :=
  [.addCard .user (.plain "Spark"), .addCard .opponent (.plain "Claw"),
    .addCard .user (.plain "Flame"), .addCard .opponent (.plain "Bite"),
    .addCard .opponent (.plain "Roar"), .trashCurrent .opponent, .chainCards ⟨3⟩ ⟨4⟩,
    .chainCards ⟨0⟩ ⟨2⟩].foldl after (.fresh .standard 7)

theorem rivalry_reachable : rivalry.Reachable :=
  (Reachable.fresh .standard 7).foldl (by simp)

/-- In the example the link of the user is kept, and none of the opponent is
left with its cards. -/
theorem rivalry_ends :
    ∃ next, rivalry.loadOpponent ⟨"Slime", 12, [.plain "Ooze"], []⟩ = .ok next ∧
      (next.combatant .opponent).deck.map next.pool.cards.find? =
        [some ⟨.plain "Ooze", .opponent⟩] ∧
      (next.combatant .opponent).trashed = [] ∧ (next.combatant .opponent).health = 12 ∧
      next.pool.chains.successor? ⟨0⟩ = some ⟨2⟩ ∧ next.pool.chains.successor? ⟨3⟩ = none := by
  have waiting : rivalry.phase = .idle := by decide +kernel
  have users : rivalry.pool.chains.successor? ⟨0⟩ = some ⟨2⟩ ∧
      rivalry.pool.owner? ⟨0⟩ = some .user ∧ rivalry.pool.owner? ⟨2⟩ = some .user := by
    decide +kernel
  have rival : rivalry.pool.owner? ⟨3⟩ = some .opponent := by decide +kernel
  obtain ⟨next, ok, replaces⟩ :=
    Reachable.loadOpponent_replaces rivalry_reachable waiting ⟨"Slime", 12, [.plain "Ooze"], []⟩
  refine ⟨next, ok, replaces.deck, ?_, ?_, (replaces.userNext ⟨0⟩ ⟨2⟩).mpr users, ?_⟩
  · rw [replaces.opponent]
    rfl
  · rw [replaces.opponent]
    rfl
  · cases step : next.pool.chains.successor? ⟨3⟩ with
    | none => rfl
    | some other =>
        obtain ⟨-, owner, -⟩ := (replaces.userNext ⟨3⟩ other).mp step
        rw [rival] at owner
        cases owner

end Game

end CardBattle
