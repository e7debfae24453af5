import DiceTower.Proofs.LawfulRounds
import DiceTower.Proofs.LawfulSource
import DiceTower.Proofs.WholeRoll

/-!
# What a failed execution has called

With the usual limits and a lawful source, reading and the check of the limits fail before the
source is called, and no round fails once it is begun (`Command.exists_rounds`). One thing is left
that can fail, and it comes last: the grand total of all rounds may be too long to be written,
since a modifier below zero has no limit.

The main statement is `Options.calls_of_failed_execution`.
-/

namespace DiceTower

open Play DiceTower.Text

namespace Command

variable {σ : Type} {source : Source σ} {command : Command} {state : σ}

/-- All rounds of a small command are played to their end. -/
theorem exists_rounds (lawful : source.Lawful) (wellformed : command.Wellformed)
    (fits : command.Fits) (small : command.Small) (state : σ) :
    ∃ rounds, ((playRounds source command command.rounds.toNat 1).run state).result = .ok rounds ∧
      (rounds.length : Int) = command.rounds ∧
      Played source command 1 rounds
        ((playRounds source command command.rounds.toNat 1).run state).calls := by
  have rounds_pos := wellformed.rounds_pos
  have ends := playRounds_ends wellformed.faces_pos (no_mishaps lawful wellformed fits small)
    command.rounds.toNat (Int.le_refl 1) (by omega)
  obtain ⟨rounds, result, length, played⟩ := ends.exists_answer state
  exact ⟨rounds, result, by omega, played⟩

/-- After the rounds no call is made, and what is left fails just if the grand total is too
long. -/
theorem run_playAll {rounds : List (Outcome × List Remark)} (text : String)
    (answered : ((playRounds source command command.rounds.toNat 1).run state).result = .ok rounds)
    (sayable : Numeral.Fits (Outcome.grandTotal (rounds.map Prod.fst)) →
      (Report.resultPhrase text command (rounds.map Prod.fst)).legible = true) :
    ((playAll source command text).run state).calls =
        ((playRounds source command command.rounds.toNat 1).run state).calls ∧
      ((Numeral.Fits (Outcome.grandTotal (rounds.map Prod.fst)) ∧
          ∃ report, ((playAll source command text).run state).result = .ok report) ∨
        (¬ Numeral.Fits (Outcome.grandTotal (rounds.map Prod.fst)) ∧
          ((playAll source command text).run state).result =
            .error (.numeral .unwritable))) := by
  have started : ((report (.evaluationStarted text command)).run state).result = .ok () := rfl
  unfold playAll
  rw [run_bind_of_ok started]
  dsimp only [run_report]
  rw [run_bind_of_ok answered]
  dsimp only
  -- The state that the rounds leave the source in plays no part in what follows.
  generalize ((playRounds source command command.rounds.toNat 1).run state).source = after
  by_cases fits : Numeral.Fits (Outcome.grandTotal (rounds.map Prod.fst))
  · have summed : (Remark.grandTotal text (Outcome.grandTotal (rounds.map Prod.fst))).phrase.legible
        = true := by
      rw [Remark.legible_grandTotal, decide_eq_true fits]
    rw [say_of_legible summed, pure_bind, written_of_legible (sayable fits), pure_bind]
    refine ⟨List.append_nil _, .inl ⟨fits, _, rfl⟩⟩
  · have unsummed : (Remark.grandTotal text
        (Outcome.grandTotal (rounds.map Prod.fst))).phrase.legible = false := by
      rw [Remark.legible_grandTotal, decide_eq_false fits]
    rw [say_of_illegible unsummed]
    refine ⟨List.append_nil _, .inr ⟨fits, rfl⟩⟩

/-- The line with the result of some rounds can be written if the grand total can be. -/
theorem legible_resultPhrase_of_played (lawful : source.Lawful) (wellformed : command.Wellformed)
    (fits : command.Fits) (small : command.Small) {number : Int}
    {rounds : List (Outcome × List Remark)} {calls : List Call}
    (played : Played source command number rounds calls) (text : String)
    (total : Numeral.Fits (Outcome.grandTotal (rounds.map Prod.fst))) :
    (Report.resultPhrase text command (rounds.map Prod.fst)).legible = true := by
  refine Report.legible_resultPhrase_of_fits ?_ fits.multiplier fits.modifier total
  intro outcome member die counts
  have between := played.rolls_between lawful wellformed outcome member die counts
  have faces_le := small.faces_le
  exact Numeral.fits_of_natAbs_lt (by omega)

/-- Only several rounds, all with a great deal taken away, come to a total that is too long. -/
theorem modifier_of_unfit_total (wellformed : command.Wellformed) (fits : command.Fits)
    (small : command.Small) {total : Int}
    (least : command.rounds * (command.multiplier + command.modifier) ≤ total)
    (most : total ≤ command.rounds *
      (command.times * command.faces * command.multiplier + command.modifier))
    (unfit : ¬ Numeral.Fits total) :
    2 ≤ command.rounds ∧ command.rounds * command.modifier ≤ -(Numeral.bound : Int) := by
  have rounds_pos := wellformed.rounds_pos
  have rounds_le := small.rounds_le
  have product_le := small.product_le wellformed
  have modifier_le := small.modifier_le
  have ceiling : total ≤ command.rounds * 1000100 :=
    Int.le_trans most (Int.mul_le_mul_of_nonneg_left (by omega) (by omega))
  have negative : total < 0 := by
    by_contra nonneg
    exact unfit (Numeral.fits_of_natAbs_lt (by omega))
  have deep : total ≤ -(Numeral.bound : Int) := by
    unfold Numeral.Fits at unfit
    omega
  have factors : 0 ≤ command.rounds * command.multiplier :=
    Int.mul_nonneg (by omega) (by have := wellformed.multiplier_pos; omega)
  rw [Int.mul_add] at least
  have sunk : command.rounds * command.modifier ≤ -(Numeral.bound : Int) := by omega
  refine ⟨?_, sunk⟩
  by_contra single
  have one : command.rounds = 1 := by omega
  have fitting : command.modifier.natAbs < Numeral.bound := fits.modifier
  rw [one, Int.one_mul] at sunk
  omega

end Command

namespace Options

variable {σ : Type} {source : Source σ} {given : Option String}

theorem small_of_within {command : Command}
    (within : ({} : Options).limits.firstExceeded? command = none) : command.Small :=
  fun field => Limits.firstExceeded?_eq_none_iff.mp within field 100 (Limits.get_uniform 100 field)

/-- A command within the usual limits is played to the end of its rounds, and after that only the
grand total can be too long. -/
theorem run_execute_of_within (lawful : source.Lawful) {command : Command} (state : σ)
    (reads : Command.read given ({} : Options).command = .ok command)
    (within : ({} : Options).limits.firstExceeded? command = none) :
    ∃ rounds,
      ((Command.playRounds source command command.rounds.toNat 1).run state).result = .ok rounds ∧
      (rounds.length : Int) = command.rounds ∧
      Command.Played source command 1 rounds
        ((Command.playRounds source command command.rounds.toNat 1).run state).calls ∧
      ((execute {} source given).run state).calls =
        ((Command.playRounds source command command.rounds.toNat 1).run state).calls ∧
      ((Numeral.Fits (Outcome.grandTotal (rounds.map Prod.fst)) ∧
          ∃ report, ((execute {} source given).run state).result = .ok report) ∨
        (¬ Numeral.Fits (Outcome.grandTotal (rounds.map Prod.fst)) ∧
          ((execute {} source given).run state).result = .error (.numeral .unwritable) ∧
          2 ≤ command.rounds ∧
          command.rounds * command.modifier ≤ -(Numeral.bound : Int))) := by
  obtain ⟨wellformed, fits⟩ := Command.wellformed_and_fits_of_readText
    (Command.readText_of_read reads)
  have small := small_of_within within
  obtain ⟨rounds, answered, length, played⟩ :=
    Command.exists_rounds lawful wellformed fits small state
  obtain ⟨executed, rolled⟩ := execute_of_within source reads within
  obtain ⟨calls, ended⟩ := Command.run_playAll (resolve {} given) answered
    (Command.legible_resultPhrase_of_played lawful wellformed fits small played _)
  rw [executed, rolled]
  refine ⟨rounds, answered, length, played, calls, ?_⟩
  rcases ended with answers | ⟨unfit, cause⟩
  · exact .inl answers
  · have between := played.grandTotal_between lawful wellformed
    rw [length] at between
    exact .inr ⟨unfit, cause,
      Command.modifier_of_unfit_total wellformed fits small between.1 between.2 unfit⟩

/-- With the usual limits and a lawful source, an execution that fails has called the source only
if the grand total of all rounds is too long to be written. Then each round is played to its end,
there are several of them, and together they take away more than can be written. -/
theorem calls_of_failed_execution (lawful : source.Lawful) (state : σ) {failure : Failure}
    (failed : ((execute {} source given).run state).result = .error failure) :
    ((execute {} source given).run state).calls = [] ∨
      failure = .numeral .unwritable ∧
        ∃ command rounds,
          Command.read given Command.usual = .ok command ∧ command.Small ∧
          ((Command.playRounds source command command.rounds.toNat 1).run state).result =
            .ok rounds ∧
          ((execute {} source given).run state).calls =
            ((Command.playRounds source command command.rounds.toNat 1).run state).calls ∧
          ¬ Numeral.Fits (Outcome.grandTotal (rounds.map Prod.fst)) ∧
          2 ≤ command.rounds ∧ command.rounds * command.modifier ≤ -(Numeral.bound : Int) := by
  cases reads : Command.read given ({} : Options).command with
  | error fault =>
    left
    rw [run_execute_of_unread reads]
  | ok command =>
    cases exceeded : ({} : Options).limits.firstExceeded? command with
    | some excess =>
      left
      rw [run_execute_of_exceeded reads exceeded]
    | none =>
      right
      obtain ⟨rounds, answered, -, -, calls, ⟨-, report, finished⟩ | ⟨unfit, cause, sunk⟩⟩ :=
        run_execute_of_within lawful state reads exceeded
      · rw [finished] at failed
        cases failed
      · rw [cause] at failed
        cases failed
        exact ⟨rfl, command, rounds, rfl, small_of_within exceeded, answered, calls, unfit, sunk⟩

/-! ## A total that is too long

Two rounds can take away more than can be written although each of them takes away less. They are
rolled before that shows, so not every failed execution has left the source alone.
-/

/-- Two rounds of one die, from each of which a number is taken away. -/
def twoRoundsLess (amount : DigitRun) : String :=
  String.ofList ("2x(1d1-".toList ++ amount.digits ++ [')'])

theorem read_twoRoundsLess (amount : DigitRun) (fallback : String) :
    Command.read (some (twoRoundsLess amount)) fallback =
      .ok { faces := 1, modifier := -(amount.value : Int), rounds := 2 } := by
  let one : DigitRun := ⟨['1'], by decide, by simp [AllDigits]; rfl, by decide⟩
  let two : DigitRun := ⟨['2'], by decide, by simp [AllDigits]; rfl, by decide⟩
  let form : CommandForm :=
    ⟨⟨[], rfl⟩, .leading two ⟨'x', rfl⟩,
      ⟨some one, ⟨'d', rfl⟩, one, none, [], none, some (⟨'-', rfl⟩, ⟨[], rfl⟩, amount)⟩, ⟨[], rfl⟩⟩
  have text : form.text = "2x(1d1-".toList ++ amount.digits ++ [')'] := by
    simp [form, CommandForm.text, Wrapping.wrap, RoundForm.text, RoundForm.segments,
      RoundForm.options, Segment.dice, Segment.modifier, DigitRun.digitsOf, one, two]
  have denotes : form.command = { faces := 1, modifier := -(amount.value : Int), rounds := 2 } :=
    rfl
  have reads := Command.read_ofList form.allBlank_text form.readText_text fallback
  rw [text, denotes] at reads
  exact reads

theorem run_nines :
    ((execute {} .least (some (twoRoundsLess .nines))).run ()).result =
        .error (.numeral .unwritable) ∧
      ((execute {} .least (some (twoRoundsLess .nines))).run ()).calls =
        [.die 1 1, .die 1 1] := by
  have reads := read_twoRoundsLess .nines Command.usual
  have within : ({} : Options).limits.firstExceeded?
      { faces := 1, modifier := -(DigitRun.nines.value : Int), rounds := 2 } = none := by
    refine Limits.firstExceeded?_eq_none_iff.mpr fun field limit held => ?_
    rw [show ({} : Options).limits = Limits.uniform 100 from rfl, Limits.get_uniform] at held
    cases held
    cases field <;> simp only [Command.get] <;> omega
  obtain ⟨rounds, -, length, played, calls, total⟩ :=
    run_execute_of_within Source.lawful_least () reads within
  obtain ⟨wellformed, -⟩ := Command.wellformed_and_fits_of_readText
    (Command.readText_of_read reads)
  have between := played.grandTotal_between Source.lawful_least wellformed
  rw [length] at between
  dsimp only at between length
  have unfit : ¬ Numeral.Fits (Outcome.grandTotal (rounds.map Prod.fst)) := by
    have four : Numeral.Fits 4 := Numeral.fits_of_natAbs_lt (by decide)
    have size := DigitRun.value_nines
    unfold Numeral.Fits at four ⊢
    omega
  refine ⟨?_, ?_⟩
  · rcases total with ⟨fits, -⟩ | ⟨-, cause, -⟩
    · exact absurd fits unfit
    · exact cause
  · rw [calls]
    have two : rounds.length = 2 := by omega
    rw [played.calls_of_keepAll rfl, two]
    rfl

/-- A failed execution that has called a lawful source. -/
theorem rolls_before_failure :
    Source.least.Lawful ∧
      ((execute {} .least (some (twoRoundsLess .nines))).run ()).result =
        .error (.numeral .unwritable) ∧
      ((execute {} .least (some (twoRoundsLess .nines))).run ()).calls = [.die 1 1, .die 1 1] :=
  ⟨Source.lawful_least, run_nines⟩

theorem calls_of_failed_execution_nines :
    Source.least.Lawful ∧
      ((execute {} .least (some (twoRoundsLess .nines))).run ()).result =
        .error (.numeral .unwritable) ∧
      ∃ command rounds,
        Command.read (some (twoRoundsLess .nines)) Command.usual = .ok command ∧ command.Small ∧
        ((Command.playRounds .least command command.rounds.toNat 1).run ()).result = .ok rounds ∧
        ¬ Numeral.Fits (Outcome.grandTotal (rounds.map Prod.fst)) ∧
        2 ≤ command.rounds ∧ command.rounds * command.modifier ≤ -(Numeral.bound : Int) := by
  obtain ⟨failed, calls⟩ := run_nines
  refine ⟨Source.lawful_least, failed, ?_⟩
  rcases calls_of_failed_execution Source.lawful_least () failed with none | ⟨-, overgrown⟩
  · rw [calls] at none
    cases none
  · obtain ⟨command, rounds, reads, small, answered, -, unfit, several, sunk⟩ := overgrown
    exact ⟨command, rounds, reads, small, answered, unfit, several, sunk⟩

end Options

end DiceTower
