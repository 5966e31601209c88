/-
Module: CardBattle.Proofs.Game.Budget
Purpose: How many plays are made at once, and how many turns a battle is given, do not change how it
  ends.
Main exports:
  Game.allowing, Game.PlaysTo, Game.over_unique, Game.runBattle_eq_ok_some_iff,
  Game.cap_and_budget_do_not_matter
-/
import CardBattle.Proofs.Game.Disguise
import Mathlib.Logic.Relation

/-!
# Plays at once and turns in all

Running a battle only plays cards, one after the other.  What a play does depends on the record
alone, and not on the number of plays allowed at once; nothing is played in a battle that is over.
So there is one record at most in which a battle is over, however its plays are cut into turns and
calls.
-/

namespace CardBattle

/-- The record with another number of plays allowed at once. -/
def Game.allowing (plays : Nat) (g : Game) : Game :=
  { g with rules := { g.rules with maxPlaysPerTurn := plays } }

/-- The disguise that only allows another number of plays at once. -/
def Disguise.allowing (plays : Nat) : Disguise := ⟨0, id, fun _ => plays⟩

namespace Game

open Relation (ReflTransGen)

variable {g h : Game}

/-! ### Single plays -/

theorem disguise_allowing (g : Game) (plays : Nat) :
    g.disguise (.allowing plays) = g.allowing plays :=
  congrArg (allowing plays) g.shift_zero

/-- A card has been played, and nothing else. -/
def PlaysTo (g h : Game) : Prop := ∃ report, g.playCard = .ok (h, report)

/-- A play does the same whatever number of plays is allowed at once, as a play
does not read that number. -/
theorem PlaysTo.allowing (step : g.PlaysTo h) (plays : Nat) :
    (g.allowing plays).PlaysTo (h.allowing plays) := by
  obtain ⟨report, ok⟩ := step
  have same := playCard_disguise (φ := .allowing plays) (g := g) (.inl rfl)
  rw [ok, disguise_allowing] at same
  refine ⟨report.shift 0, same.trans ?_⟩
  rw [← disguise_allowing]
  rfl

theorem playsTo_rightUnique : Relator.RightUnique PlaysTo := by
  rintro g h k ⟨one, first⟩ ⟨two, second⟩
  rw [first] at second
  exact congrArg Prod.fst (Except.ok.inj second)

theorem not_playsTo_of_over (ended : g.phase = .over) : ¬ g.PlaysTo h := by
  rintro ⟨report, ok⟩
  cases ended.symm.trans (playCard_played ok).1

/-! ### Plays in a row -/

/-- Plays in a row can be repeated under another limit, play by play. -/
theorem reaches_allowing (plays : Nat) (run : ReflTransGen PlaysTo g h) :
    ReflTransGen PlaysTo (g.allowing plays) (h.allowing plays) :=
  run.lift (Game.allowing plays) fun _ _ step => step.allowing plays

/-- Nothing follows a record in which the battle is over, so it is the end of
any row of plays that gets there. -/
theorem eq_of_reaches_of_over (ended : g.phase = .over) (run : ReflTransGen PlaysTo g h) :
    h = g := by
  rcases run.cases_head with same | ⟨between, step, -⟩
  · exact same.symm
  · exact absurd step (not_playsTo_of_over ended)

/-- Plays lead to one record at most in which the battle is over.  However the
plays are grouped into turns, a battle that is decided ends in that record. -/
theorem over_unique {start : Game} (first : ReflTransGen PlaysTo start g)
    (second : ReflTransGen PlaysTo start h) (firstOver : g.phase = .over)
    (secondOver : h.phase = .over) : h = g := by
  rcases ReflTransGen.total_of_right_unique playsTo_rightUnique first second with onward | back
  · exact eq_of_reaches_of_over firstOver onward
  · exact (eq_of_reaches_of_over secondOver back).symm

theorem reaches_of_runTurns {turns : Nat} (ok : runTurns turns g = .ok h) :
    ReflTransGen PlaysTo g h :=
  runTurns_preserves (P := ReflTransGen PlaysTo g) (fun run played => run.tail ⟨_, played⟩) .refl ok

/-- In a battle that is over no more turns are run, whatever the number of turns
allowed. -/
theorem runTurns_of_over {turns : Nat} (ok : runTurns turns g = .ok h) (ended : h.phase = .over)
    (more : Nat) : runTurns (turns + more) g = .ok h := by
  induction turns generalizing g with
  | zero =>
      cases ok
      cases more with
      | zero => rfl
      | succ more =>
          rw [Nat.zero_add, runTurns, if_pos ended]
  | succ turns ih =>
      rw [Nat.succ_add]
      unfold runTurns at ok ⊢
      split
      · rename_i decided
        rw [if_pos decided] at ok
        exact ok
      · rename_i goesOn
        rw [if_neg goesOn] at ok
        cases turned : g.runTurn with
        | error fault =>
            rw [turned] at ok
            cases ok
        | ok outcome =>
            rw [turned] at ok
            exact ih ok

/-! ### Whole battles -/

theorem enterBattle_allowing {started : Game} (ok : g.enterBattle = .ok started) (plays : Nat) :
    (g.allowing plays).enterBattle = .ok (started.allowing plays) := by
  rw [← disguise_allowing, ← disguise_allowing, enterBattle_disguise, ok]
  rfl

theorem endBattle_allowing {last : Game} {result : BattleResult}
    (ok : g.endBattle = .ok (last, result)) (plays : Nat) :
    (g.allowing plays).endBattle = .ok (last.allowing plays, result) := by
  rw [← disguise_allowing, ← disguise_allowing, endBattle_disguise, ok]
  exact congrArg (fun result => Except.ok (last.disguise _, result)) result.shift_zero

/-- A battle is reported when it has been entered, its turns have been run until
it is over, and it has been closed. -/
theorem runBattle_eq_ok_some_iff {maxTurns : Nat} {last : Game} {result : BattleResult} :
    g.runBattle maxTurns = .ok (last, some result) ↔
      ∃ started played, g.enterBattle = .ok started ∧ runTurns maxTurns started = .ok played ∧
        played.phase = .over ∧ played.endBattle = .ok (last, result) := by
  constructor
  · intro ok
    unfold runBattle at ok
    split at ok
    · cases ok
    · rename_i started enters
      split at ok
      · cases ok
      · rename_i played runs
        split at ok
        · rename_i ended
          split at ok
          · rename_i closes
            cases ok
            exact ⟨started, played, enters, runs, ended, closes⟩
          · cases ok
        · cases ok
  · rintro ⟨started, played, enters, runs, ended, closes⟩
    simp only [runBattle, enters, runs, ended, closes, if_true]

/-- Take two records that are the same but for the number of plays allowed at
once.  If a battle that is run as a whole is decided from both, however many
turns it is given, then with the same result, and the records that it leaves are
again the same but for that number.  A battle that is decided in a number of
turns ends in the same way when it is given more. -/
theorem cap_and_budget_do_not_matter (same : h = g.allowing h.rules.maxPlaysPerTurn) :
    (∀ {turns budget : Nat} {last final : Game} {result outcome : BattleResult},
      g.runBattle turns = .ok (last, some result) →
      h.runBattle budget = .ok (final, some outcome) →
      outcome = result ∧ final = last.allowing h.rules.maxPlaysPerTurn) ∧
    ∀ {turns budget : Nat} {last : Game} {result : BattleResult}, turns ≤ budget →
      g.runBattle turns = .ok (last, some result) →
      g.runBattle budget = .ok (last, some result) := by
  constructor
  · intro turns budget last final result outcome ok other
    rw [same] at other
    obtain ⟨started, played, enters, runs, ended, closes⟩ := runBattle_eq_ok_some_iff.mp ok
    obtain ⟨begun, gone, entersToo, runsToo, endedToo, closesToo⟩ :=
      runBattle_eq_ok_some_iff.mp other
    have start := enterBattle_allowing enters h.rules.maxPlaysPerTurn
    obtain rfl := Except.ok.inj (start.symm.trans entersToo)
    have run := reaches_allowing h.rules.maxPlaysPerTurn (reaches_of_runTurns runs)
    obtain rfl := over_unique run (reaches_of_runTurns runsToo) ended endedToo
    have close := endBattle_allowing closes h.rules.maxPlaysPerTurn
    obtain ⟨rfl, rfl⟩ := Prod.mk.inj (Except.ok.inj (close.symm.trans closesToo))
    exact ⟨rfl, rfl⟩
  · intro turns budget last result le ok
    obtain ⟨more, rfl⟩ := Nat.exists_eq_add_of_le le
    obtain ⟨started, played, enters, runs, ended, closes⟩ := runBattle_eq_ok_some_iff.mp ok
    exact runBattle_eq_ok_some_iff.mpr
      ⟨started, played, enters, runTurns_of_over runs ended more, ended, closes⟩

/-- A user whose only card lets it play again; three plays of it are enough. -/
def flurry : Game :=
  [.addCard .user { name := "Flurry", effects := [.damage 7, .giveStatus .extraPlays 1] },
    .addCard .opponent (.plain "Block")].foldl after (.fresh .standard 7)

/-- A battle that is decided in one turn is decided in three where one play is
allowed at once. -/
theorem flurry_fought :
    ∃ last result, flurry.runBattle 1 = .ok (last, some result) ∧
      (flurry.allowing 1).runBattle 3 = .ok (last.allowing 1, some result) ∧
      flurry.runBattle 40 = .ok (last, some result) := by
  have fought : ∀ (g : Game) (turns : Nat),
      ((g.runBattle turns).toOption.bind Prod.snd).isSome = true →
      ∃ last result, g.runBattle turns = .ok (last, some result) := by
    intro g turns decided
    cases ran : g.runBattle turns with
    | error fault => simp [ran, Except.toOption] at decided
    | ok outcome =>
        obtain ⟨last, result⟩ := outcome
        cases result with
        | none => simp [ran, Except.toOption] at decided
        | some result => exact ⟨last, result, rfl⟩
  obtain ⟨last, result, ok⟩ := fought flurry 1 (by decide +kernel)
  obtain ⟨final, outcome, other⟩ := fought (flurry.allowing 1) 3 (by decide +kernel)
  obtain ⟨capped, given⟩ := cap_and_budget_do_not_matter (g := flurry) (h := flurry.allowing 1) rfl
  obtain ⟨rfl, rfl⟩ := capped ok other
  exact ⟨last, _, ok, other, given (by decide) ok⟩

end Game

end CardBattle
