import DiceTower.Proofs.Alike
import DiceTower.Proofs.ExecutionSteps
import DiceTower.Proofs.Legibility
import DiceTower.Proofs.Readable

/-!
# The echo of a command

The text that a command goes by is echoed in the report and matters to nothing else. Executing two
texts that read as one command is therefore alike: the same failure, or two reports of the
`SameRoll` (`Options.execute_alike`). The written form of a command is such a text, for whatever
text the command was read from.

The main statement is `Options.execute_normalized`.
-/

namespace DiceTower

open Play

/-- Two reports of one roll that goes by two texts: they agree in all but the echoed text, which
stands in the last line and in the line with the equation. -/
structure SameRoll (text other : String) (report again : Report) : Prop where
  named : report.text = text ∧ again.text = other
  command : report.command = again.command
  outcomes : report.outcomes = again.outcomes
  total : report.total = again.total
  lines : report.lines.dropLast = again.lines.dropLast
  lastLine : ∃ sum,
    report.lines.getLast? = some ("The result of " ++ text ++ " is " ++ sum) ∧
      again.lines.getLast? = some ("The result of " ++ other ++ " is " ++ sum)
  result : ∃ expression,
    report.result = "The result of " ++ text ++ " is " ++ expression ∧
      again.result = "The result of " ++ other ++ " is " ++ expression

/-! ## The texts that hold the echo -/

namespace Phrase

theorem text_append (left right : Phrase) : text (left ++ right) = text left ++ text right := by
  rw [← String.toList_inj, toList_text_append, String.toList_append]

theorem text_resultOf (text : String) :
    Phrase.text ["The result of ", text, " is "] = "The result of " ++ text ++ " is " := by
  rw [← String.toList_inj]
  simp [Phrase.text, Piece.text]

end Phrase

namespace Report

/-- The equation of a report does not depend on its text. -/
theorem result_eq (report : Report) :
    report.result = "The result of " ++ report.text ++ " is " ++
      Phrase.text (equation (report.outcomes.map fun outcome =>
        parts report.command outcome.rolls) report.total) := by
  rw [result, resultPhrase, Phrase.text_append, Phrase.text_resultOf, total]

/-- Whether the line that gives the result can be written does not depend on the text. -/
theorem legible_resultPhrase (text : String) (command : Command) (outcomes : List Outcome) :
    Phrase.legible (resultPhrase text command outcomes) =
      Phrase.legible (equation (outcomes.map fun outcome => parts command outcome.rolls)
        (Outcome.grandTotal outcomes)) := by
  simp [resultPhrase, Phrase.legible, Piece.legible]

end Report

theorem Remark.text_grandTotal (text : String) (total : Int) :
    (Remark.grandTotal text total).text =
      "The result of " ++ text ++ " is " ++ toString total := by
  have shape : (Remark.grandTotal text total).phrase =
      (["The result of ", text, " is "] : Phrase) ++ ([total] : Phrase) := rfl
  have number : Phrase.text ([total] : Phrase) = toString total := by
    rw [← String.toList_inj]
    simp [Phrase.text, Piece.text]
  rw [Remark.text, shape, Phrase.text_append, Phrase.text_resultOf, number]

/-! ## Playing under two texts -/

section Playing

variable {σ : Type} (source : Source σ) (command : Command) (text other : String)

/-- Wording two phrases is alike if both or neither can be written. -/
theorem alike_written {phrase otherPhrase : Phrase}
    (same : phrase.legible = otherPhrase.legible) :
    Alike (fun _ _ => True) (ofExcept (discard phrase.written) : Play σ Unit)
      (ofExcept (discard otherPhrase.written)) := by
  apply Alike.ofExcept
  rw [Phrase.discard_written, Phrase.discard_written, same]
  split
  · exact .answered trivial
  · exact .failed _

theorem grandTotal_alike (total : Int) :
    Alike (fun _ _ => True) (say (.grandTotal text total) : Play σ Unit)
      (say (.grandTotal other total)) :=
  alike_written (by rw [Remark.legible_grandTotal, Remark.legible_grandTotal])

theorem resultPhrase_alike (outcomes : List Outcome) :
    Alike (fun _ _ => True)
      (ofExcept (discard (Report.resultPhrase text command outcomes).written) : Play σ Unit)
      (ofExcept (discard (Report.resultPhrase other command outcomes).written)) :=
  alike_written (by rw [Report.legible_resultPhrase, Report.legible_resultPhrase])

/-- What is made of some rounds under two texts is the same roll. -/
theorem sameRoll_of_rounds (rounds : List (Outcome × List Remark)) (total : Int) :
    SameRoll text other
      { text, command, outcomes := rounds.map Prod.fst,
        remarks := (rounds.map Prod.snd).flatten ++ [.grandTotal text total] }
      { text := other, command, outcomes := rounds.map Prod.fst,
        remarks := (rounds.map Prod.snd).flatten ++ [.grandTotal other total] } where
  named := ⟨rfl, rfl⟩
  command := rfl
  outcomes := rfl
  total := rfl
  lines := by simp [Report.lines]
  lastLine := by
    refine ⟨toString total, ?_, ?_⟩
    · simp [Report.lines, Remark.text_grandTotal]
    · simp [Report.lines, Remark.text_grandTotal]
  result := ⟨_, Report.result_eq _, Report.result_eq _⟩

theorem playAll_alike :
    Alike (SameRoll text other) (command.playAll source text) (command.playAll source other) := by
  unfold Command.playAll
  refine (Alike.report _ _).bind fun _ _ _ => ?_
  refine (Alike.refl _).bind fun rounds _ same => ?_
  subst same
  dsimp only
  refine (grandTotal_alike text other _).bind fun _ _ _ => ?_
  refine (resultPhrase_alike command text other _).bind fun _ _ _ => ?_
  refine (Alike.report _ _).bind fun _ _ _ => ?_
  exact Alike.pure (sameRoll_of_rounds command text other rounds _)

theorem evaluate_alike :
    Alike (SameRoll text other) (command.evaluate source (some text))
      (command.evaluate source (some other)) := by
  unfold Command.evaluate
  split
  · exact Alike.fail _
  · have named : Alike (fun said again => said = text ∧ again = other)
        (ofExcept ((some text).elim command.write .ok) : Play σ String)
        (ofExcept ((some other).elim command.write .ok) : Play σ String) :=
      Alike.ofExcept (.answered ⟨rfl, rfl⟩)
    refine named.bind fun said again same => ?_
    obtain ⟨rfl, rfl⟩ := same
    exact playAll_alike source command said again

end Playing

/-! ## Executing a text and its written form -/

namespace Options

variable {σ : Type} {options : Options} {given : Option String} {command : Command}

/-- Two texts that read as one command are executed alike. -/
theorem execute_alike (source : Source σ) {other : Option String}
    (reads : Command.read given options.command = .ok command)
    (readsOther : Command.read other options.command = .ok command) :
    Alike (SameRoll (options.resolve given) (options.resolve other))
      (options.execute source given) (options.execute source other) := by
  rw [execute_of_read reads, execute_of_read readsOther]
  exact (Alike.refl _).bind fun _ _ _ => evaluate_alike source command _ _

/-- The written form of a command is executed as the text the command was read from. -/
theorem execute_normalized (options : Options) (source : Source σ) (state : σ)
    (reads : Command.read given options.command = .ok command) :
    command.Wellformed ∧
      ∃ text, command.write = .ok text ∧
        (∀ fallback, Command.read (some text) fallback = .ok command) ∧
        (Command.read (some text) Command.usual).bind Command.write = .ok text ∧
        RunsAlike (SameRoll (options.resolve given) text)
          ((options.execute source given).run state)
          ((options.execute source (some text)).run state) := by
  obtain ⟨wellformed, fits⟩ := Command.wellformed_and_fits_of_readText
    (Command.readText_of_read reads)
  have writes := Command.write_of_fits fits
  have readsBack := Command.read_text_phrase wellformed fits
  have solid := Command.isBlank_text_phrase wellformed fits
  refine ⟨wellformed, Phrase.text command.phrase, writes, readsBack, ?_, ?_⟩
  · rw [readsBack]
    exact writes
  · have alike := execute_alike source reads (readsBack options.command) state
    rw [show options.resolve (some (Phrase.text command.phrase)) = Phrase.text command.phrase from
      Command.textOr_of_not_blank solid _] at alike
    exact alike

/-- A text with a repeat count, no closing parenthesis and dice that come too late. -/
theorem execute_normalized_of_prose :
    Command.read (some " 03X(d6 -h, 2d8 + 1") Command.usual =
        .ok ⟨2, 6, none, false, true, 1, 1, 3⟩ ∧
      ∃ text, Command.write ⟨2, 6, none, false, true, 1, 1, 3⟩ = .ok text ∧
        RunsAlike (SameRoll " 03X(d6 -h, 2d8 + 1" text)
          ((execute {} Source.scripted (some " 03X(d6 -h, 2d8 + 1")).run (.constant 2 false))
          ((execute {} Source.scripted (some text)).run (.constant 2 false)) := by
  have reads : Command.read (some " 03X(d6 -h, 2d8 + 1") Command.usual =
      .ok ⟨2, 6, none, false, true, 1, 1, 3⟩ := by
    decide +kernel
  obtain ⟨-, text, writes, -, -, alike⟩ :=
    execute_normalized {} Source.scripted (.constant 2 false) reads
  exact ⟨reads, text, writes, alike⟩

end Options

end DiceTower
