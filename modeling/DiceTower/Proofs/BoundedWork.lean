import DiceTower.Proofs.LawfulRounds
import DiceTower.Proofs.LawfulSource
import DiceTower.Proofs.WholeRoll

/-!
# What the limits bound

If every field has a limit, an execution that answers has called a lawful source no more often than
the limits say, and its report is no longer and its totals are no greater. Nothing bounds the dice
to keep, but no more dice are kept than thrown. A modifier below zero has no limit either, so the
totals are bounded from below by the command alone.

The main statement is `Options.answer_within_limits`.
-/

namespace DiceTower

open Play

namespace Limits

/-- The limits that bound every field. -/
def full (times faces modifier multiplier rounds : Int) : Limits :=
  ⟨some times, some faces, some modifier, some multiplier, some rounds⟩

end Limits

namespace Command

variable {command : Command}

/-- The greatest total of a round grows with every field. -/
theorem most_le {times faces modifier multiplier : Int} (wellformed : command.Wellformed)
    (times_le : command.times ≤ times) (faces_le : command.faces ≤ faces)
    (modifier_le : command.modifier ≤ modifier) (multiplier_le : command.multiplier ≤ multiplier) :
    command.times * command.faces * command.multiplier + command.modifier ≤
      times * faces * multiplier + modifier := by
  have times_pos := wellformed.times_pos
  have faces_pos := wellformed.faces_pos
  have multiplier_pos := wellformed.multiplier_pos
  have dice : command.times * command.faces ≤ times * faces :=
    Int.mul_le_mul times_le faces_le (by omega) (by omega)
  have dice_nonneg : 0 ≤ times * faces := Int.mul_nonneg (by omega) (by omega)
  have product := Int.mul_le_mul dice multiplier_le (by omega) dice_nonneg
  omega

/-- So many rounds of a bounded total come to no more than all the rounds of the limit, unless
every round takes away more than it gives. -/
theorem rounds_mul_le {count rounds most : Int} (count_nonneg : 0 ≤ count)
    (count_le : count ≤ rounds) : count * most ≤ rounds * max 0 most :=
  calc count * most
      ≤ count * max 0 most := Int.mul_le_mul_of_nonneg_left (Int.le_max_right 0 most) count_nonneg
    _ ≤ rounds * max 0 most := Int.mul_le_mul_of_nonneg_right count_le (Int.le_max_left 0 most)

end Command

namespace Options

variable {σ : Type} {options : Options} {source : Source σ} {given : Option String}

/-- An answer keeps to the limits: in its calls, its rounds, its dice, each total and the grand
total. -/
theorem answer_within_limits (lawful : source.Lawful) (state : σ)
    {times faces modifier multiplier rounds : Int}
    (limits : options.limits = .full times faces modifier multiplier rounds) {report : Report}
    (answered : ((options.execute source given).run state).result = .ok report) :
    Command.read given options.command = .ok report.command ∧
      (((options.execute source given).run state).calls.length : Int) ≤ rounds * (times + 1) ∧
      1 ≤ report.outcomes.length ∧ (report.outcomes.length : Int) ≤ rounds ∧
      (∀ outcome ∈ report.outcomes,
        1 ≤ outcome.rolls.length ∧ (outcome.rolls.length : Int) ≤ times ∧
          report.command.multiplier + report.command.modifier ≤ outcome.total ∧
          outcome.total ≤ times * faces * multiplier + modifier) ∧
      report.total ≤ rounds * max 0 (times * faces * multiplier + modifier) := by
  obtain ⟨command, reads, within⟩ := exists_command_of_answer answered
  obtain ⟨wellformed, -⟩ := Command.wellformed_and_fits_of_readText
    (Command.readText_of_read reads)
  obtain ⟨executed, rolled⟩ := execute_of_within source reads within
  have mishaps : Command.Mishaps source command fun _ => True := .of_bad trivial trivial
  have ends := Command.playAll_ends wellformed mishaps trivial (options.resolve given)
  rw [executed, rolled] at answered ⊢
  obtain ⟨played, count, rest, rfl⟩ := ends.answered state report answered
  have fieldsWithin := Limits.firstExceeded?_eq_none_iff.mp within
  rw [limits] at fieldsWithin
  have times_le : command.times ≤ times := fieldsWithin .times times rfl
  have faces_le : command.faces ≤ faces := fieldsWithin .faces faces rfl
  have modifier_le : command.modifier ≤ modifier := fieldsWithin .modifier modifier rfl
  have multiplier_le : command.multiplier ≤ multiplier :=
    fieldsWithin .multiplier multiplier rfl
  have rounds_le : command.rounds ≤ rounds := fieldsWithin .rounds rounds rfl
  have times_pos := wellformed.times_pos
  have rounds_pos := wellformed.rounds_pos
  have most := Command.most_le wellformed times_le faces_le modifier_le multiplier_le
  have outcomes : (command.reportOf (options.resolve given) played).outcomes =
    played.map Prod.fst := rfl
  rw [outcomes, List.length_map]
  refine ⟨reads, ?_, by omega, by omega, fun outcome member => ?_, ?_⟩
  · calc _ ≤ (played.length : Int) * (command.times + 1) := rest.calls_length_le (by omega)
      _ ≤ rounds * (times + 1) := Int.mul_le_mul (by omega) (by omega) (by omega) (by omega)
  · have counted := rest.rolls_length_between lawful wellformed outcome member
    have total := rest.total_between lawful wellformed outcome member
    exact ⟨counted.1, by omega, total.1, by omega⟩
  · have total := (rest.grandTotal_between lawful wellformed).2
    calc _ ≤ (played.length : Int) *
          (command.times * command.faces * command.multiplier + command.modifier) := total
      _ ≤ played.length * (times * faces * multiplier + modifier) :=
          Int.mul_le_mul_of_nonneg_left most (by omega)
      _ ≤ rounds * max 0 (times * faces * multiplier + modifier) :=
          Command.rounds_mul_le (by omega) (by omega)

/-- Every round has to take something away, and more dice are asked to be kept than thrown. -/
theorem answer_within_limits_of_negative_modifier :
    let options : Options := { limits := .full 3 6 (-2) 2 2 }
    let ran := (options.execute .least (some "2x(3d6(k9)-Hx2 - 4)")).run ()
    Source.least.Lawful ∧ options.limits = .full 3 6 (-2) 2 2 ∧
      ∃ report, ran.result = .ok report ∧ (ran.calls.length : Int) ≤ 2 * (3 + 1) ∧
        1 ≤ report.outcomes.length ∧ (report.outcomes.length : Int) ≤ 2 ∧
        (∀ outcome ∈ report.outcomes, (outcome.rolls.length : Int) ≤ 3 ∧ outcome.total ≤ 34) ∧
        report.total ≤ 68 := by
  intro options ran
  have answers : ran.result.toOption.isSome = true := by decide +kernel
  cases answered : ran.result with
  | error failure =>
    rw [answered] at answers
    cases answers
  | ok report =>
    obtain ⟨-, calls, some, count, outcomes, total⟩ :=
      answer_within_limits Source.lawful_least () rfl answered
    refine ⟨Source.lawful_least, rfl, report, rfl, calls, some, count, ?_, total⟩
    intro outcome member
    obtain ⟨-, counted, -, most⟩ := outcomes outcome member
    exact ⟨counted, most⟩

end Options

end DiceTower
