import DiceTower.Proofs.DrawnDice
import Mathlib.Tactic.Ring

/-!
# Drawing once more

The dice that come from a state of a source are settled by that state, by their number and faces,
and by how many are kept. So commands with the `SameDice` draw the same from one state
(`Command.DrawsAll.congr`, `Command.DrawsAll.unique`), whatever else they ask for, and make the
same calls.

In particular the multiplier and the modifier touch no die. `Command.evaluate_affine` compares a
roll with the one that has neither: the dice are the same, and the totals are multiplied by the one
and raised by the other.
-/

namespace DiceTower

namespace Source

variable {σ : Type} {source : Source σ} {faces : Int} {state after later : σ}
  {dice others : List Int}

/-- Equally many dice of one state are the same dice. -/
theorem Rolls.unique (rolls : source.Rolls faces state dice after)
    (again : source.Rolls faces state others later) (length : dice.length = others.length) :
    dice = others ∧ after = later := by
  induction rolls generalizing others with
  | nil =>
    obtain rfl := List.eq_nil_of_length_eq_zero length.symm
    cases again
    exact ⟨rfl, rfl⟩
  | @cons state between after die dice first rest hypothesis =>
    cases again with
    | nil => cases length
    | cons firstAgain restAgain =>
      rcases Prod.mk.inj (first.symm.trans firstAgain) with ⟨rfl, rfl⟩
      rcases hypothesis restAgain (Nat.succ.inj length) with ⟨rfl, rfl⟩
      exact ⟨rfl, rfl⟩

end Source

namespace Command

/-- Two commands throw as many dice of as many faces in a round, and keep as many of them. -/
structure SameDice (command other : Command) : Prop where
  times : command.times = other.times
  faces : command.faces = other.faces
  keep : command.keep = other.keep

variable {σ : Type} {source : Source σ} {command other : Command} {state after later : σ}

namespace SameDice

variable (same : SameDice command other)

include same

theorem roundCalls_eq (dice : List Int) : command.roundCalls dice = other.roundCalls dice := by
  rw [roundCalls, roundCalls, keepCalls, keepCalls, keeping, keeping, same.times, same.faces,
    same.keep]

theorem callsOf_eq (draws : List Draw) : command.callsOf draws = other.callsOf draws := by
  rw [callsOf, callsOf]
  exact List.flatMap_congr fun draw _ => same.roundCalls_eq draw.dice

end SameDice

/-! ## One round -/

theorem Keeping.congr (same : SameDice command other) {dice kept : List Int}
    (keeping : Keeping source command dice state kept after) :
    Keeping source other dice state kept after := by
  cases keeping with
  | all keepAll =>
    refine .all ?_
    unfold Chooses at keepAll ⊢
    rw [← same.keep]
    exact keepAll
  | drawn held nonzero drew => exact .drawn (same.keep ▸ held) nonzero drew

theorem Keeping.unique {dice kept keptAgain : List Int}
    (keeping : Keeping source command dice state kept after)
    (again : Keeping source command dice state keptAgain later) :
    kept = keptAgain ∧ after = later := by
  cases keeping with
  | all keepAll =>
    cases again with
    | all => exact ⟨rfl, rfl⟩
    | drawn held nonzero drew => exact absurd ⟨_, held, nonzero⟩ keepAll
  | drawn held nonzero drew =>
    cases again with
    | all keepAll => exact absurd ⟨_, held, nonzero⟩ keepAll
    | drawn heldAgain _ drewAgain =>
      obtain rfl := Option.some.inj (held.symm.trans heldAgain)
      rcases Prod.mk.inj (drew.symm.trans drewAgain) with ⟨drawn, rfl⟩
      exact ⟨Option.some.inj drawn, rfl⟩

theorem Draws.congr (same : SameDice command other) {draw : Draw}
    (draws : Draws source command state draw after) : Draws source other state draw after := by
  rcases draws with ⟨count, rolls, keeping⟩
  exact .round (same.times ▸ count) (same.faces ▸ rolls) (keeping.congr same)

theorem Draws.unique {draw again : Draw} (draws : Draws source command state draw after)
    (drawsAgain : Draws source command state again later) : draw = again ∧ after = later := by
  rcases draws with ⟨count, rolls, keeping⟩
  rcases drawsAgain with ⟨countAgain, rollsAgain, keepingAgain⟩
  rcases rolls.unique rollsAgain (count.trans countAgain.symm) with ⟨rfl, rfl⟩
  rcases keeping.unique keepingAgain with ⟨rfl, rfl⟩
  exact ⟨rfl, rfl⟩

/-! ## All rounds -/

theorem DrawsAll.congr (same : SameDice command other) {draws : List Draw}
    (drawn : DrawsAll source command state draws after) :
    DrawsAll source other state draws after := by
  induction drawn with
  | nil => exact .nil
  | cons first rest hypothesis => exact .cons (first.congr same) hypothesis

/-- Equally many rounds from one state draw the same. -/
theorem DrawsAll.unique {draws again : List Draw}
    (drawn : DrawsAll source command state draws after)
    (drawnAgain : DrawsAll source command state again later)
    (length : draws.length = again.length) : draws = again ∧ after = later := by
  induction drawn generalizing again with
  | nil =>
    obtain rfl := List.eq_nil_of_length_eq_zero length.symm
    cases drawnAgain
    exact ⟨rfl, rfl⟩
  | cons first rest hypothesis =>
    cases drawnAgain with
    | nil => cases length
    | cons firstAgain restAgain =>
      rcases first.unique firstAgain with ⟨rfl, rfl⟩
      rcases hypothesis restAgain (Nat.succ.inj length) with ⟨rfl, rfl⟩
      exact ⟨rfl, rfl⟩

/-- Rounds that are drawn from where others have left the source come after these. -/
theorem DrawsAll.append {between : σ} {draws more : List Draw}
    (drawn : DrawsAll source command state draws between)
    (drawnAfter : DrawsAll source command between more after) :
    DrawsAll source command state (draws ++ more) after := by
  induction drawn with
  | nil => exact drawnAfter
  | cons first rest hypothesis => exact .cons first (hypothesis drawnAfter)

/-- Rolls of equally many rounds with the same dice from one state draw the same. -/
theorem Unrolled.same_draws {text otherText : Option String} {report again : Report}
    {draws drawsAgain : List Draw} (same : SameDice command other)
    (rounds : command.rounds.toNat = other.rounds.toNat)
    (unrolled : Unrolled source command text state report draws)
    (unrolledAgain : Unrolled source other otherText state again drawsAgain) :
    draws = drawsAgain ∧ ((command.evaluate source text).run state).source =
      ((other.evaluate source otherText).run state).source := by
  have length : draws.length = drawsAgain.length := by
    rw [unrolled.length, unrolledAgain.length, rounds]
  exact (unrolled.drawn.congr same).unique unrolledAgain.drawn length

/-! ## Multiplier and modifier -/

/-- The command without its multiplier and modifier. -/
def bare (command : Command) : Command :=
  { command with multiplier := 1, modifier := 0 }

theorem sameDice_bare (command : Command) : SameDice command command.bare :=
  ⟨rfl, rfl, rfl⟩

end Command

/-- An outcome with the same dice as another one and with a multiple of its total, something
added. -/
structure Outcome.AffineIn (factor offset : Int) (outcome bare : Outcome) : Prop where
  rolls : outcome.rolls = bare.rolls
  thrown : outcome.thrown = bare.thrown
  total : outcome.total = factor * bare.total + offset

namespace Command

variable {σ : Type} {source : Source σ} {command : Command} {state : σ}

theorem outcomeOf_affineIn (positive : 1 ≤ command.multiplier) (draw : Draw) :
    (command.outcomeOf draw).AffineIn command.multiplier command.modifier
      (command.bare.outcomeOf draw) where
  rolls := rfl
  thrown := rfl
  total := by
    have bareTotal : (command.bare.outcomeOf draw).total =
        sumOf (command.counted draw.kept) := Int.add_zero _
    rw [bareTotal, outcomeOf, Outcome.ofDice]
    dsimp only
    rw [multiplied_eq positive, Int.mul_comm]

theorem grandTotal_outcomeOf (positive : 1 ≤ command.multiplier) (draws : List Draw) :
    Outcome.grandTotal (draws.map command.outcomeOf) =
      command.multiplier * Outcome.grandTotal (draws.map command.bare.outcomeOf) +
        draws.length * command.modifier := by
  induction draws with
  | nil => simp [Outcome.grandTotal]
  | cons draw draws hypothesis =>
    unfold Outcome.grandTotal at hypothesis ⊢
    have total := (outcomeOf_affineIn positive draw).total
    simp only [List.map_cons, sumOf_cons, List.length_cons, Int.natCast_succ]
    rw [hypothesis, total]
    ring

/-- The multiplier and the modifier of a command change its totals only: a roll draws and keeps the
dice of the roll without them, each total is multiplied by the one and raised by the other, and so
is the grand total, with as many modifiers as there are rounds. -/
theorem evaluate_affine {text bareText : Option String} {report bareReport : Report}
    (positive : 1 ≤ command.multiplier)
    (answered : ((command.evaluate source text).run state).result = .ok report)
    (bareAnswered :
      ((command.bare.evaluate source bareText).run state).result = .ok bareReport) :
    ((command.evaluate source text).run state).calls =
        ((command.bare.evaluate source bareText).run state).calls ∧
      ((command.evaluate source text).run state).source =
        ((command.bare.evaluate source bareText).run state).source ∧
      List.Forall₂ (Outcome.AffineIn command.multiplier command.modifier)
        report.outcomes bareReport.outcomes ∧
      report.total =
        command.multiplier * bareReport.total + max command.rounds 0 * command.modifier := by
  rcases exists_unrolled answered with ⟨draws, unrolled⟩
  rcases exists_unrolled bareAnswered with ⟨bareDraws, bareUnrolled⟩
  have same := command.sameDice_bare
  rcases unrolled.same_draws same rfl bareUnrolled with ⟨rfl, sources⟩
  refine ⟨?_, sources, ?_, ?_⟩
  · rw [unrolled.calls, bareUnrolled.calls]
    exact same.callsOf_eq draws
  · rw [unrolled.outcomes_eq, bareUnrolled.outcomes_eq, List.forall₂_map_left_iff,
      List.forall₂_map_right_iff, List.forall₂_same]
    exact fun draw _ => outcomeOf_affineIn positive draw
  · have count : (draws.length : Int) = max command.rounds 0 := by
      have length := unrolled.length
      omega
    rw [Report.total, Report.total, unrolled.outcomes_eq, bareUnrolled.outcomes_eq,
      grandTotal_outcomeOf positive, count]

/-- Two rounds in which the lower one of two sampled dice counts, tripled, and much taken away. -/
theorem evaluate_affine_of_sampled_dice :
    let command : Command := ⟨3, 6, some 2, true, false, 3, -20, 2⟩
    let ran := (command.evaluate .counting none).run 4
    let bareRan := (command.bare.evaluate .counting (some "3d6")).run 4
    1 ≤ command.multiplier ∧ ∃ report bareReport,
      ran.result = .ok report ∧ bareRan.result = .ok bareReport ∧
        report.total = -13 ∧ bareReport.total = 9 ∧
        ran.calls = bareRan.calls ∧ ran.source = bareRan.source ∧
        List.Forall₂ (Outcome.AffineIn 3 (-20)) report.outcomes bareReport.outcomes ∧
        report.total = 3 * bareReport.total + max 2 0 * -20 := by
  intro command ran bareRan
  have positive : 1 ≤ command.multiplier := by decide
  have answers : ran.result.map Report.total = .ok (-13) := by decide +kernel
  have bareAnswers : bareRan.result.map Report.total = .ok 9 := by decide +kernel
  rcases Pipeline.map_eq_ok_iff.mp answers with ⟨report, answered, total⟩
  rcases Pipeline.map_eq_ok_iff.mp bareAnswers with ⟨bareReport, bareAnswered, bareTotal⟩
  exact ⟨positive, report, bareReport, answered, bareAnswered, total, bareTotal,
    evaluate_affine positive answered bareAnswered⟩

end Command

end DiceTower
