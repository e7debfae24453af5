import DiceTower.Proofs.LawfulSource
import DiceTower.Proofs.Legibility
import DiceTower.Proofs.RoundTrip
import DiceTower.Proofs.Rounds

/-!
# Rounds on a lawful source

A lawful source rolls the faces of a die and draws from the dice thrown, so the dice of a round are
between one and the number of faces (`Command.Throws.between`), and some of them are kept
(`Command.Keeps.ne_nil`). In a command with small numbers every line of a round can then be
written: no round fails (`Command.no_mishaps`), whatever the modifier takes away.
-/

namespace DiceTower

namespace Source

variable {σ : Type} {source : Source σ}

namespace Lawful

variable (lawful : source.Lawful)

include lawful

theorem between_of_canRoll {low high die : Int} (some : low ≤ high)
    (rolls : source.CanRoll low high die) : low ≤ die ∧ die ≤ high := by
  obtain ⟨state, rfl⟩ := rolls
  exact lawful.die_mem state low high some

theorem drawn_of_canSample {population drawn : List Int} {size : Int}
    (draws : source.CanSample population size (some drawn)) :
    (drawn.length : Int) = size ∧ DrawnFrom drawn population := by
  obtain ⟨state, answer⟩ := draws
  exact lawful.drawn_of_sample state population size drawn answer

theorem size_unfit_of_canSample {population : List Int} {size : Int}
    (refuses : source.CanSample population size none) :
    size < 0 ∨ (population.length : Int) < size := by
  obtain ⟨state, answer⟩ := refuses
  exact (lawful.sample_eq_none_iff state population size).mp answer

end Lawful

end Source

namespace Command

variable {σ : Type} {source : Source σ} {command : Command} {dice kept : List Int}

/-! ## The dice -/

theorem Keeps.drawnFrom (lawful : source.Lawful) (keeps : Keeps source command dice kept) :
    Source.DrawnFrom kept dice := by
  unfold Keeps at keeps
  split at keeps
  · rw [keeps]
    exact ⟨[], by rw [List.append_nil]⟩
  · exact (lawful.drawn_of_canSample keeps).2

theorem Keeps.ne_nil (lawful : source.Lawful) (keeps : Keeps source command dice kept)
    (keep_pos : ∀ keep, command.keep = some keep → 1 ≤ keep) (some : dice ≠ []) : kept ≠ [] := by
  unfold Keeps at keeps
  split at keeps
  · rw [keeps]
    exact some
  · rename_i keep keeping
    have length := (lawful.drawn_of_canSample keeps).1
    have positive := keep_pos keep (keeping_eq_some_iff.mp keeping).1
    have dice_pos := List.length_pos_iff.mpr some
    rintro rfl
    rw [List.length_nil] at length
    omega

namespace Throws

variable (lawful : source.Lawful) (wellformed : command.Wellformed)
  (throws : Throws source command dice kept)

include lawful wellformed throws

theorem between : ∀ die ∈ dice, 1 ≤ die ∧ die ≤ command.faces :=
  fun die thrown => lawful.between_of_canRoll wellformed.faces_pos (throws.rolled die thrown)

theorem kept_between : ∀ die ∈ kept, 1 ≤ die ∧ die ≤ command.faces :=
  fun die held => throws.between lawful wellformed die ((throws.keeps.drawnFrom lawful).subperm.subset held)

theorem kept_ne_nil : kept ≠ [] := by
  refine throws.keeps.ne_nil lawful wellformed.keep_pos ?_
  rintro rfl
  have count := throws.count
  have times_pos := wellformed.times_pos
  rw [List.length_nil] at count
  omega

theorem sum_between :
    1 ≤ sumOf (command.counted kept) ∧
      sumOf (command.counted kept) ≤ command.times * command.faces := by
  have length := (throws.keeps.drawnFrom lawful).subperm.length_le
  have count := throws.count
  have times_pos := wellformed.times_pos
  exact Command.sum_between (throws.kept_ne_nil lawful wellformed) (by omega)
    (throws.kept_between lawful wellformed)

theorem product_between :
    command.multiplier ≤ command.multiplied (sumOf (command.counted kept)) ∧
      command.multiplied (sumOf (command.counted kept)) ≤
        command.times * command.faces * command.multiplier :=
  Command.product_between wellformed.multiplier_pos (throws.sum_between lawful wellformed)

end Throws

/-! ## Small commands -/

/-- No part of the command is above one hundred; the modifier may take away any amount. -/
def Small (command : Command) : Prop :=
  ∀ field, command.get field ≤ 100

namespace Small

variable (small : command.Small)

include small

theorem times_le : command.times ≤ 100 :=
  small .times

theorem faces_le : command.faces ≤ 100 :=
  small .faces

theorem modifier_le : command.modifier ≤ 100 :=
  small .modifier

theorem multiplier_le : command.multiplier ≤ 100 :=
  small .multiplier

theorem rounds_le : command.rounds ≤ 100 :=
  small .rounds

theorem dice_le (wellformed : command.Wellformed) : command.times * command.faces ≤ 10000 := by
  have faces_pos := wellformed.faces_pos
  calc command.times * command.faces
      ≤ 100 * command.faces := Int.mul_le_mul_of_nonneg_right small.times_le (by omega)
    _ ≤ 10000 := by
      have := small.faces_le
      omega

theorem product_le (wellformed : command.Wellformed) :
    command.times * command.faces * command.multiplier ≤ 1000000 := by
  have multiplier_pos := wellformed.multiplier_pos
  calc command.times * command.faces * command.multiplier
      ≤ 10000 * command.multiplier :=
        Int.mul_le_mul_of_nonneg_right (small.dice_le wellformed) (by omega)
    _ ≤ 1000000 := by
      have := small.multiplier_le
      omega

end Small

/-- A product of a small command and its modifier add up to a number that can be written. -/
theorem fits_total {product : Int} (positive : 1 ≤ product) (bounded : product ≤ 1000000)
    (modifier_le : command.modifier ≤ 100) (fits : Numeral.Fits command.modifier) :
    Numeral.Fits (product + command.modifier) := by
  by_cases negative : product + command.modifier < 0
  · unfold Numeral.Fits at *
    omega
  · exact Numeral.fits_of_natAbs_lt (by omega)

theorem numbersFit (lawful : source.Lawful) (wellformed : command.Wellformed)
    (fits : command.Fits) (small : command.Small) (throws : Throws source command dice kept)
    {number : Int} (first : 1 ≤ number) (last : number ≤ command.rounds) :
    Remark.NumbersFit command number kept := by
  have sum := throws.sum_between lawful wellformed
  have product := throws.product_between lawful wellformed
  have multiplier_pos := wellformed.multiplier_pos
  have faces_le := small.faces_le
  have rounds_le := small.rounds_le
  have dice_le := small.dice_le wellformed
  have product_le := small.product_le wellformed
  refine ⟨Numeral.fits_of_natAbs_lt (by omega), ?_, Numeral.fits_of_natAbs_lt (by omega),
    Numeral.fits_of_natAbs_lt (by omega), ?_, fits.multiplier, fits.modifier⟩
  · intro die held
    have between := throws.kept_between lawful wellformed die held
    exact Numeral.fits_of_natAbs_lt (by omega)
  · exact fits_total (by omega) (by omega) small.modifier_le fits.modifier

/-- No round of a small command fails on a lawful source. -/
theorem no_mishaps (lawful : source.Lawful) (wellformed : command.Wellformed)
    (fits : command.Fits) (small : command.Small) :
    Mishaps source command fun _ => False := by
  have faces_le := small.faces_le
  have times_le := small.times_le
  constructor
  · intro number die first last rolls illegible
    have between := lawful.between_of_canRoll wellformed.faces_pos rolls
    have fitsNumber : Numeral.Fits number := Numeral.fits_of_natAbs_lt (by omega)
    have fitsDie : Numeral.Fits die := Numeral.fits_of_natAbs_lt (by omega)
    simp [Remark.phrase, Phrase.legible, Piece.legible, fitsNumber, fitsDie] at illegible
  · intro dice keep keeping count refuses
    have positive := wellformed.keep_pos keep (keeping_eq_some_iff.mp keeping).1
    have unfit := lawful.size_unfit_of_canSample refuses
    omega
  · intro number dice kept remark first last throws member illegible
    have numbers := numbersFit lawful wellformed fits small throws first last
    have legible : remark.phrase.legible = true := by
      rcases List.mem_append.mp member with member | member
      · exact Remark.legible_of_mem_keepSteps fits.keep fits.times numbers.dice remark member
      · exact Remark.legible_of_mem_reckoning numbers remark member
    rw [legible] at illegible
    cases illegible

/-! ## All rounds -/

namespace Played

variable {number : Int} {rounds : List (Outcome × List Remark)} {calls : List Call}

theorem exists_throws (played : Played source command number rounds calls) :
    ∀ outcome ∈ rounds.map Prod.fst, ∃ dice kept, Throws source command dice kept ∧
      outcome = Outcome.ofDice command dice kept := by
  induction played with
  | done =>
    intro outcome member
    cases member
  | @round number dice kept rounds calls throws rest hypothesis =>
    intro outcome member
    rcases List.mem_cons.mp member with rfl | member
    · exact ⟨dice, kept, throws, rfl⟩
    · exact hypothesis outcome member

section Lawful

variable (lawful : source.Lawful) (wellformed : command.Wellformed)
  (played : Played source command number rounds calls)

include lawful wellformed played

/-- Each total lies between what the least and what the greatest dice come to. -/
theorem total_between :
    ∀ outcome ∈ rounds.map Prod.fst, command.multiplier + command.modifier ≤ outcome.total ∧
      outcome.total ≤ command.times * command.faces * command.multiplier + command.modifier := by
  intro outcome member
  obtain ⟨dice, kept, throws, rfl⟩ := played.exists_throws outcome member
  have product := throws.product_between lawful wellformed
  rw [Outcome.ofDice]
  dsimp only
  omega

theorem grandTotal_between :
    rounds.length * (command.multiplier + command.modifier) ≤
        Outcome.grandTotal (rounds.map Prod.fst) ∧
      Outcome.grandTotal (rounds.map Prod.fst) ≤
        rounds.length * (command.times * command.faces * command.multiplier +
          command.modifier) := by
  have each : ∀ total ∈ (rounds.map Prod.fst).map Outcome.total,
      command.multiplier + command.modifier ≤ total ∧
        total ≤ command.times * command.faces * command.multiplier + command.modifier := by
    intro total member
    obtain ⟨outcome, held, rfl⟩ := List.mem_map.mp member
    exact played.total_between lawful wellformed outcome held
  have between := sumOf_between _ each
  rw [List.length_map, List.length_map] at between
  exact between

/-- The dice that count are some of those thrown, at least one. -/
theorem rolls_length_between :
    ∀ outcome ∈ rounds.map Prod.fst,
      1 ≤ outcome.rolls.length ∧ (outcome.rolls.length : Int) ≤ command.times := by
  intro outcome member
  obtain ⟨dice, kept, throws, rfl⟩ := played.exists_throws outcome member
  have counted_pos := command.length_counted_pos (throws.kept_ne_nil lawful wellformed)
  have counted_le := command.length_counted_le kept
  have kept_le := (throws.keeps.drawnFrom lawful).subperm.length_le
  have count := throws.count
  have times_pos := wellformed.times_pos
  rw [Outcome.ofDice]
  dsimp only
  omega

theorem rolls_between :
    ∀ outcome ∈ rounds.map Prod.fst, ∀ die ∈ outcome.rolls, 1 ≤ die ∧ die ≤ command.faces := by
  intro outcome member die counts
  obtain ⟨dice, kept, throws, rfl⟩ := played.exists_throws outcome member
  exact throws.kept_between lawful wellformed die (mem_of_mem_counted counts)

end Lawful

end Played

end Command

end DiceTower
