/-
Module: CardBattle.Proofs.Cards.Pool
Purpose: What the pool of a run's cards keeps while cards and links come and go.
Main exports:
  CardPool.All, CardPool.Sound, CardPool.Sound.insert, CardPool.Sound.erase, CardPool.Sound.link,
  CardPool.Sound.unlink
-/
import CardBattle.Card.Pool
import CardBattle.Proofs.Chains.Links

namespace CardBattle.CardPool

/-- Links are well-formed and join cards of one owner, and numbers up to the
next one are the only ones given out. -/
structure Sound (pool : CardPool) : Prop where
  links : pool.chains.WellFormed
  sameOwner : ∀ {first second}, pool.chains.Follows first second →
    ∃ owner, pool.owner? first = some owner ∧ pool.owner? second = some owner
  numbered : ∀ {id owner}, pool.owner? id = some owner → id.number < pool.nextNumber

/-! ### Look-ups after each operation -/

theorem owner?_insert (pool : CardPool) (card : Card) (owner : Side) (id : CardId) :
    (pool.insert card owner).2.owner? id =
      if id = (pool.insert card owner).1 then some owner else pool.owner? id := by
  unfold owner? insert
  rw [OrderedMap.find?_insert]
  split <;> rfl

theorem owner?_erase (pool : CardPool) (gone id : CardId) :
    (pool.erase gone).owner? id = if id = gone then none else pool.owner? id := by
  unfold owner? erase
  rw [OrderedMap.find?_erase]
  split <;> rfl

/-- After a row of erasures exactly the listed cards are without an owner,
whether or not they were stored and however often they are listed. -/
theorem owner?_eraseAll (pool : CardPool) (gone : List CardId) (id : CardId) :
    (gone.foldl erase pool).owner? id = if id ∈ gone then none else pool.owner? id := by
  induction gone generalizing pool with
  | nil => simp
  | cons first rest ih =>
      rw [List.foldl_cons, ih, owner?_erase]
      by_cases last : id ∈ rest
      · simp [last]
      · by_cases same : id = first <;> simp [last, same]

/-- A card that is found is an entry of the pool, and the entry says whose card
it is. -/
theorem of_card?_eq_some {pool : CardPool} {id : CardId} {card : Card}
    (found : pool.card? id = some card) : ∃ owner, (id, ⟨card, owner⟩) ∈ pool.cards.entries := by
  obtain ⟨⟨_, owner⟩, stored, rfl⟩ := Option.map_eq_some_iff.mp found
  exact ⟨owner, OrderedMap.mem_entries.mpr stored⟩

/-- A link is made between stored cards of one owner, and only the links change. -/
theorem of_link_eq_ok {pool linked : CardPool} {first second : CardId}
    (ok : pool.link first second = .ok linked) :
    ∃ owner chains, pool.owner? first = some owner ∧ pool.owner? second = some owner ∧
      pool.chains.link first second = .ok chains ∧ linked = { pool with chains := chains } := by
  unfold link at ok
  cases one : pool.owner? first with
  | none => simp [one] at ok
  | some owner =>
      cases two : pool.owner? second with
      | none => simp [one, two] at ok
      | some other =>
          simp only [one, two] at ok
          split at ok
          · cases ok
          · rename_i same
            obtain rfl : owner = other := not_not.mp same
            cases made : pool.chains.link first second with
            | error refusal => simp [made] at ok
            | ok chains =>
                simp only [made, Except.ok.injEq] at ok
                exact ⟨owner, chains, rfl, rfl, rfl, ok.symm⟩

/-- Where unlinking succeeds only the links change: stored cards, owners and the
next number are kept. -/
theorem of_unlink_eq_ok {pool unlinked : CardPool} {id : CardId}
    (ok : pool.unlink id = .ok unlinked) :
    unlinked = { pool with chains := pool.chains.unlink id } := by
  unfold unlink at ok
  split at ok
  · exact (Except.ok.inj ok).symm
  · cases ok

/-! ### What all cards have in common -/

/-- All stored cards have a property. -/
def All (good : Card → Prop) (pool : CardPool) : Prop :=
  ∀ id card, pool.card? id = some card → good card

namespace All

variable {good : Card → Prop} {pool : CardPool}

/-- A property of all stored cards is kept when a card with the property is
added, for either side. -/
theorem insert (all : pool.All good) {card : Card} (fits : good card) (owner : Side) :
    (pool.insert card owner).2.All good := by
  intro id other found
  rw [card?, CardPool.insert, OrderedMap.find?_insert] at found
  split at found
  · cases found
    exact fits
  · exact all id other found

theorem erase (all : pool.All good) (gone : CardId) : (pool.erase gone).All good := by
  intro id card found
  rw [card?, CardPool.erase, OrderedMap.find?_erase] at found
  split at found
  · cases found
  · exact all id card found

theorem eraseAll (all : pool.All good) (gone : List CardId) :
    (gone.foldl CardPool.erase pool).All good := by
  induction gone generalizing pool with
  | nil => exact all
  | cons first rest ih => exact ih (all.erase first)

theorem clear (pool : CardPool) : pool.clear.All good := by
  intro id card found
  cases found

end All

/-! ### Soundness after each operation -/

namespace Sound

/-- Without links only the numbers have to be right, as in a pool just made. -/
theorem of_no_links {pool : CardPool} (none : pool.chains = .empty)
    (numbered : ∀ {id owner}, pool.owner? id = some owner → id.number < pool.nextNumber) :
    pool.Sound where
  links := none ▸ Chains.wellFormed_empty
  sameOwner step := by
    rw [none] at step
    cases step
  numbered := numbered

theorem empty : CardPool.empty.Sound :=
  of_no_links rfl fun found => by cases found

theorem clear (pool : CardPool) : pool.clear.Sound :=
  of_no_links rfl fun found => by cases found

variable {pool : CardPool}

/-- The number that the next card gets is on no stored card. -/
theorem owner?_next (sound : pool.Sound) : pool.owner? ⟨pool.nextNumber⟩ = none := by
  cases found : pool.owner? ⟨pool.nextNumber⟩ with
  | none => rfl
  | some owner => exact absurd (sound.numbered found) (Nat.lt_irrefl _)

/-- Both ends of a link are numbers given out. -/
theorem numbered_of_follows (sound : pool.Sound) {first second : CardId}
    (step : pool.chains.Follows first second) :
    first.number < pool.nextNumber ∧ second.number < pool.nextNumber := by
  obtain ⟨owner, one, two⟩ := sound.sameOwner step
  exact ⟨sound.numbered one, sound.numbered two⟩

/-- A new card is unlinked and takes a number that nothing mentions, so the
links stay among the cards of one owner. -/
theorem insert (sound : pool.Sound) (card : Card) (owner : Side) :
    (pool.insert card owner).2.Sound := by
  have kept : ∀ {id party}, pool.owner? id = some party →
      (pool.insert card owner).2.owner? id = some party := by
    intro id party found
    rw [owner?_insert, if_neg, found]
    rintro rfl
    have missing := sound.owner?_next
    rw [show pool.owner? ⟨pool.nextNumber⟩ = some party from found] at missing
    cases missing
  refine ⟨sound.links, fun step => ?_, fun {id party} found => ?_⟩
  · obtain ⟨party, one, two⟩ := sound.sameOwner step
    exact ⟨party, kept one, kept two⟩
  · rw [owner?_insert] at found
    split at found
    · rename_i new
      rw [new]
      exact Nat.lt_succ_self _
    · exact Nat.lt_succ_of_lt (sound.numbered found)

/-- A pool with the same cards and with links that are well-formed and not new
stays sound. -/
theorem of_follows (sound : pool.Sound) {chains : Chains} (wf : chains.WellFormed)
    (sub : ∀ a b, chains.Follows a b → pool.chains.Follows a b) :
    CardPool.Sound { pool with chains := chains } :=
  ⟨wf, fun step => sound.sameOwner (sub _ _ step), sound.numbered⟩

/-- Taking links away cannot make a loop or join the cards of two sides. -/
theorem unlink (sound : pool.Sound) (id : CardId) :
    CardPool.Sound { pool with chains := pool.chains.unlink id } :=
  sound.of_follows (sound.links.unlink id) fun _ _ step => (sound.links.follows_unlink.mp step).1

/-- Erasing a card takes its links out with it, so that no link mentions a card
that is not stored. -/
theorem erase (sound : pool.Sound) (gone : CardId) : (pool.erase gone).Sound := by
  refine ⟨sound.links.unlink gone, fun {first second} step => ?_, fun {id owner} found => ?_⟩
  · obtain ⟨step, notFirst, notSecond⟩ := sound.links.follows_unlink.mp step
    obtain ⟨owner, one, two⟩ := sound.sameOwner step
    refine ⟨owner, ?_, ?_⟩
    · rw [owner?_erase, if_neg notFirst, one]
    · rw [owner?_erase, if_neg notSecond, two]
  · rw [owner?_erase] at found
    split at found
    · cases found
    · exact sound.numbered found

theorem eraseAll (sound : pool.Sound) (gone : List CardId) :
    (gone.foldl CardPool.erase pool).Sound := by
  induction gone generalizing pool with
  | nil => exact sound
  | cons first rest ih => exact ih (sound.erase first)

/-- A link between two cards of one owner. -/
theorem link (sound : pool.Sound) {chains : Chains} {first second : CardId} {owner : Side}
    (one : pool.owner? first = some owner) (two : pool.owner? second = some owner)
    (made : pool.chains.link first second = .ok chains) :
    CardPool.Sound { pool with chains := chains } := by
  refine ⟨sound.links.link made, fun step => ?_, sound.numbered⟩
  rcases (Chains.follows_of_link made).mp step with old | ⟨rfl, rfl⟩
  · exact sound.sameOwner old
  · exact ⟨owner, one, two⟩

end Sound

end CardBattle.CardPool
