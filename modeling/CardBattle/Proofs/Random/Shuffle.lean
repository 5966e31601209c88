/-
Module: CardBattle.Proofs.Random.Shuffle
Purpose: Whatever the dice say, a shuffle puts the same items in some order, and in the same order
  whatever the items are.
Main exports:
  Dice.shuffleDown_perm, Dice.shuffle_perm, Dice.shuffle_map
-/
import CardBattle.Random.Dice

namespace CardBattle.Dice

variable {α β : Type}

/-- Each round swaps two items, so none is lost on the way down. -/
theorem shuffleDown_perm {n place : Nat} (inside : place < n) (items : Vector α n)
    (dice : Dice) : (shuffleDown place inside items dice).1.Perm items := by
  induction place generalizing items dice with
  | zero => exact .refl _
  | succ place ih =>
      unfold shuffleDown
      have rest := ih (Nat.lt_of_succ_lt inside)
        (items.swap (place + 1) (dice.upTo (place + 1)).1.val inside
          (Nat.lt_of_lt_of_le (dice.upTo (place + 1)).1.isLt inside))
        (dice.upTo (place + 1)).2
      exact rest.trans (Vector.swap_perm _ _)

/-- A shuffled list has the same items, each as often as before, whatever the
dice say. -/
theorem shuffle_perm (dice : Dice) (items : List α) :
    (dice.shuffle items).1.Perm items := by
  unfold shuffle
  split
  · exact (shuffleDown_perm ..).toList
  · exact .refl _

/-! ### Order -/

theorem swap_map (f : α → β) {n : Nat} (items : Vector α n) {first second : Nat}
    (one : first < n) (two : second < n) :
    (items.map f).swap first second one two = (items.swap first second one two).map f := by
  ext place inside
  simp only [Vector.getElem_swap, Vector.getElem_map]
  split
  · rfl
  · split
    · rfl
    · rfl

/-- The swaps go by the dice alone and never look at an item. -/
theorem shuffleDown_map (f : α → β) {n place : Nat} (inside : place < n) (items : Vector α n)
    (dice : Dice) :
    shuffleDown place inside (items.map f) dice =
      ((shuffleDown place inside items dice).1.map f,
        (shuffleDown place inside items dice).2) := by
  induction place generalizing items dice with
  | zero => rfl
  | succ place ih =>
      unfold shuffleDown
      dsimp only
      rw [swap_map, ih]

theorem shuffle_of_length {n : Nat} {items : List α} (length : items.length = n)
    (nonempty : 0 < n) (dice : Dice) :
    dice.shuffle items =
      let shuffled :=
        shuffleDown (n - 1) (Nat.sub_lt nonempty Nat.one_pos) ⟨items.toArray, length⟩ dice
      (shuffled.1.toList, shuffled.2) := by
  subst length
  rw [shuffle, dif_pos nonempty]

/-- Shuffling other items with the same dice puts them in the same order, and
uses the dice up in the same way. -/
theorem shuffle_map (f : α → β) (dice : Dice) (items : List α) :
    dice.shuffle (items.map f) = ((dice.shuffle items).1.map f, (dice.shuffle items).2) := by
  rcases Nat.eq_zero_or_pos items.length with empty | nonempty
  · rw [List.eq_nil_of_length_eq_zero empty]
    rfl
  · have vector : (⟨(items.map f).toArray, List.length_map ..⟩ : Vector β items.length) =
        (⟨items.toArray, rfl⟩ : Vector α items.length).map f := by
      ext place inside
      simp
    rw [shuffle_of_length (List.length_map ..) nonempty, vector, shuffleDown_map,
      shuffle_of_length rfl nonempty]
    dsimp only
    rw [Vector.toList_map]

end CardBattle.Dice
