import DiceTower.Command.Writer
import DiceTower.Proofs.GrammarReading

/-!
# Writing and reading back

The written form of a command is a command of the notation: part by part it is the text of a form
that denotes the command (`Command.exists_form`). So what is written reads back.

The main statement is `Command.read_write`: a well-formed command whose integers all fit has a
written form, and this reads as the command whatever the fallback is.
-/

namespace DiceTower

open DiceTower.Text

/-! ## Texts of phrases -/

namespace Phrase

theorem toList_text_cons (piece : Piece) (phrase : Phrase) :
    (text (piece :: phrase)).toList = piece.text.toList ++ (text phrase).toList := by
  simp [text]

theorem toList_text_nil : (text []).toList = [] := by
  simp [text]

end Phrase

namespace Piece

theorem toList_text_words (words : String) : (Piece.words words).text.toList = words.toList :=
  rfl

/-- The writing of a number that is not negative is a run of digits with that value. -/
theorem exists_run {n : Int} (nonneg : 0 ≤ n) (fits : Numeral.Fits n) :
    ∃ run : DigitRun, (Piece.number n).text.toList = run.digits ∧ (run.value : Int) = n := by
  obtain ⟨m, rfl⟩ := Int.eq_ofNat_of_zero_le nonneg
  refine ⟨DigitRun.ofNat m fits, ?_, ?_⟩
  · exact Nat.toList_repr
  · rw [DigitRun.value_ofNat]

/-- A negative number is written as a minus sign and its size. -/
theorem exists_run_of_neg {n : Int} (negative : n < 0) (fits : Numeral.Fits n) :
    ∃ run : DigitRun, (Piece.number n).text.toList = '-' :: run.digits ∧
      -(run.value : Int) = n := by
  obtain ⟨m, rfl⟩ := Int.eq_negSucc_of_lt_zero negative
  have size : Numeral.Fits ((m + 1 : Nat) : Int) := fits
  refine ⟨DigitRun.ofNat (m + 1) size, ?_, ?_⟩
  · change ("-" ++ (m + 1).repr).toList = _
    rw [String.toList_append, Nat.toList_repr]
    rfl
  · rw [DigitRun.value_ofNat]
    rfl

end Piece

namespace Command

/-- The integers of a command are all short enough to be written. -/
structure Fits (command : Command) : Prop where
  times : Numeral.Fits command.times
  faces : Numeral.Fits command.faces
  keep : ∀ kept, command.keep = some kept → Numeral.Fits kept
  multiplier : Numeral.Fits command.multiplier
  modifier : Numeral.Fits command.modifier
  rounds : Numeral.Fits command.rounds

variable {command : Command}

/-- The numbers of everyday commands are short enough. -/
theorem fits_of_natAbs_lt (fields : ∀ field, (command.get field).natAbs < 10 ^ 12)
    (keep : ∀ kept, command.keep = some kept → kept.natAbs < 10 ^ 12) : command.Fits where
  times := Numeral.fits_of_natAbs_lt (fields .times)
  faces := Numeral.fits_of_natAbs_lt (fields .faces)
  keep kept held := Numeral.fits_of_natAbs_lt (keep kept held)
  multiplier := Numeral.fits_of_natAbs_lt (fields .multiplier)
  modifier := Numeral.fits_of_natAbs_lt (fields .modifier)
  rounds := Numeral.fits_of_natAbs_lt (fields .rounds)

/-- A command whose integers all fit has a written form. -/
theorem write_of_fits (fits : command.Fits) :
    command.write = .ok (Phrase.text command.phrase) := by
  have legible : Phrase.legible command.phrase = true := by
    have envelope : Phrase.legible command.envelopePhrase = true := by
      unfold envelopePhrase
      split <;> simp [Phrase.legible, Piece.legible, fits.rounds]
    have dice : Phrase.legible command.dicePhrase = true := by
      simp [dicePhrase, Phrase.legible, Piece.legible, fits.times, fits.faces]
    have keep : Phrase.legible command.keepPhrase = true := by
      unfold keepPhrase
      split
      · rfl
      · rename_i kept held
        split <;> simp [Phrase.legible, Piece.legible, fits.keep kept held]
    have select : Phrase.legible command.selectPhrase = true := by
      unfold selectPhrase
      split <;> rfl
    have multiplier : Phrase.legible command.multiplierPhrase = true := by
      unfold multiplierPhrase
      split <;> simp [Phrase.legible, Piece.legible, fits.multiplier]
    have modifier : Phrase.legible command.modifierPhrase = true := by
      unfold modifierPhrase
      split
      · simp [Phrase.legible, Piece.legible, fits.modifier]
      · split <;> simp [Phrase.legible, Piece.legible, fits.modifier]
    have closing : Phrase.legible command.closingPhrase = true := by
      unfold closingPhrase
      split <;> rfl
    simp only [phrase, roundPhrase, Phrase.legible_append, envelope, dice, keep, select,
      multiplier, modifier, closing, Bool.and_self]
  rw [write, Phrase.written, Phrase.write, if_pos legible]
  rfl

/-! ## The parts of a written command as parts of the notation -/

theorem exists_keep (wellformed : command.Wellformed) (fits : command.Fits) :
    ∃ clause : Option (Letter isKeepLetter × DigitRun),
      (Phrase.text command.keepPhrase).toList =
          (clause.toList.map Segment.keep).flatMap Segment.text ∧
        (clause.bind fun (_, kept) => if kept.value = 0 then none else some (kept.value : Int)) =
          command.keep := by
  cases held : command.keep with
  | none =>
    refine ⟨none, ?_, rfl⟩
    simp [keepPhrase, held, Phrase.toList_text_nil]
  | some kept =>
    have positive := wellformed.keep_pos kept held
    obtain ⟨run, digits, value⟩ := Piece.exists_run (by omega) (fits.keep kept held)
    have nonzero : ¬ kept = 0 := by omega
    have someValue : ¬ run.value = 0 := by omega
    refine ⟨some (⟨'k', rfl⟩, run), ?_, ?_⟩
    · simp [keepPhrase, held, nonzero, Phrase.toList_text_cons, Phrase.toList_text_nil,
        Piece.toList_text_words, digits, Segment.keep]
    · simp [someValue, value]

theorem exists_flags (command : Command) :
    ∃ flags : List (Letter isFlag),
      (Phrase.text command.selectPhrase).toList =
          (flags.map Segment.select).flatMap Segment.text ∧
        (flags.any fun flag => isLowestLetter flag.val) = command.lowest ∧
        (flags.any fun flag => isHighestLetter flag.val) = command.highest := by
  unfold selectPhrase
  cases command.highest <;> cases command.lowest
  · exact ⟨[], by simp [Phrase.toList_text_nil], rfl, rfl⟩
  · exact ⟨[⟨'L', rfl⟩], by
      simp [Phrase.toList_text_cons, Phrase.toList_text_nil, Piece.toList_text_words,
        Segment.select], rfl, rfl⟩
  · exact ⟨[⟨'H', rfl⟩], by
      simp [Phrase.toList_text_cons, Phrase.toList_text_nil, Piece.toList_text_words,
        Segment.select], rfl, rfl⟩
  · exact ⟨[⟨'H', rfl⟩, ⟨'L', rfl⟩], by
      simp [Phrase.toList_text_cons, Phrase.toList_text_nil, Piece.toList_text_words,
        Segment.select], rfl, rfl⟩

theorem exists_multiplier (wellformed : command.Wellformed) (fits : command.Fits) :
    ∃ clause : Option (Letter isTimesLetter × DigitRun),
      (Phrase.text command.multiplierPhrase).toList =
          (clause.toList.map Segment.multiplier).flatMap Segment.text ∧
        DigitRun.valueOr (clause.map Prod.snd) 1 = command.multiplier := by
  by_cases one : command.multiplier = 1
  · refine ⟨none, ?_, one.symm⟩
    simp [multiplierPhrase, one, Phrase.toList_text_nil]
  · have positive := wellformed.multiplier_pos
    obtain ⟨run, digits, value⟩ := Piece.exists_run (by omega) fits.multiplier
    have someValue : ¬ run.value = 0 := by omega
    refine ⟨some (⟨'x', rfl⟩, run), ?_, ?_⟩
    · simp [multiplierPhrase, one, Phrase.toList_text_cons, Phrase.toList_text_nil,
        Piece.toList_text_words, digits, Segment.multiplier]
    · simp [DigitRun.valueOr, someValue, value]

theorem exists_modifier (fits : command.Fits) :
    ∃ clause : Option (Letter isSign × Gap × DigitRun),
      (Phrase.text command.modifierPhrase).toList =
          (clause.toList.map Segment.modifier).flatMap Segment.text ∧
        clause.elim 0 signedValue = command.modifier := by
  rcases Int.lt_trichotomy command.modifier 0 with negative | none' | positive
  · obtain ⟨run, digits, value⟩ := Piece.exists_run_of_neg negative fits.modifier
    have notPositive : ¬ 0 < command.modifier := by omega
    refine ⟨some (⟨'-', rfl⟩, ⟨[], rfl⟩, run), ?_, ?_⟩
    · simp [modifierPhrase, notPositive, negative, Phrase.toList_text_cons,
        Phrase.toList_text_nil, digits, Segment.modifier]
    · simp [signedValue, value]
  · refine ⟨none, ?_, none'.symm⟩
    simp [modifierPhrase, none', Phrase.toList_text_nil]
  · obtain ⟨run, digits, value⟩ := Piece.exists_run (Int.le_of_lt positive) fits.modifier
    refine ⟨some (⟨'+', rfl⟩, ⟨[], rfl⟩, run), ?_, ?_⟩
    · simp [modifierPhrase, positive, Phrase.toList_text_cons, Phrase.toList_text_nil,
        Piece.toList_text_words, digits, Segment.modifier]
    · simp [signedValue, value]

theorem exists_wrapping (wellformed : command.Wellformed) (fits : command.Fits) :
    ∃ wrapping : Wrapping,
      (∀ body, (Phrase.text command.envelopePhrase).toList ++
          (body ++ (Phrase.text command.closingPhrase).toList) = wrapping.wrap body) ∧
        DigitRun.valueOr wrapping.count? 1 = command.rounds := by
  by_cases one : command.rounds = 1
  · refine ⟨.bare, ?_, one.symm⟩
    intro body
    simp [envelopePhrase, closingPhrase, one, Phrase.toList_text_nil, Wrapping.wrap]
  · have positive := wellformed.rounds_pos
    obtain ⟨run, digits, value⟩ := Piece.exists_run (by omega) fits.rounds
    have someValue : ¬ run.value = 0 := by omega
    refine ⟨.leading run ⟨'x', rfl⟩, ?_, ?_⟩
    · intro body
      simp [envelopePhrase, closingPhrase, one, Phrase.toList_text_cons, Phrase.toList_text_nil,
        Piece.toList_text_words, digits, Wrapping.wrap]
    · simp [Wrapping.count?, DigitRun.valueOr, someValue, value]

/-- What a command says of each round is written as a round that denotes it. -/
theorem exists_round (wellformed : command.Wellformed) (fits : command.Fits) :
    ∃ round : RoundForm, round.text = (Phrase.text command.roundPhrase).toList ∧
      ∀ count, round.command count = { command with rounds := DigitRun.valueOr count 1 } := by
  have timesPos := wellformed.times_pos
  have facesPos := wellformed.faces_pos
  obtain ⟨times, timesDigits, timesValue⟩ := Piece.exists_run (by omega) fits.times
  obtain ⟨faces, facesDigits, facesValue⟩ := Piece.exists_run (by omega) fits.faces
  obtain ⟨keep, keepText, keepValue⟩ := exists_keep wellformed fits
  obtain ⟨flags, flagsText, lowest, highest⟩ := exists_flags command
  obtain ⟨multiplier, multiplierText, multiplierValue⟩ := exists_multiplier wellformed fits
  obtain ⟨modifier, modifierText, modifierValue⟩ := exists_modifier fits
  have timesSome : ¬ times.value = 0 := by omega
  have facesSome : ¬ faces.value = 0 := by omega
  refine ⟨⟨some times, ⟨'d', rfl⟩, faces, keep, flags, multiplier, modifier⟩, ?_, fun count => ?_⟩
  · have dice : (Phrase.text command.dicePhrase).toList = times.digits ++ 'd' :: faces.digits := by
      simp [dicePhrase, Phrase.toList_text_cons, Phrase.toList_text_nil, Piece.toList_text_words,
        timesDigits, facesDigits]
    simp only [roundPhrase, Phrase.toList_text_append, dice, keepText, flagsText, multiplierText,
      modifierText]
    simp [RoundForm.text, RoundForm.segments, RoundForm.options, Segment.dice, DigitRun.digitsOf]
  · simp only [RoundForm.command, keepValue, lowest, highest, multiplierValue, modifierValue]
    simp [DigitRun.valueOr, timesSome, facesSome, timesValue, facesValue]

/-- The written form of a command is the text of a form that denotes it. -/
theorem exists_form (wellformed : command.Wellformed) (fits : command.Fits) :
    ∃ form : CommandForm, form.text = (Phrase.text command.phrase).toList ∧
      form.command = command := by
  obtain ⟨round, roundText, denotes⟩ := exists_round wellformed fits
  obtain ⟨wrapping, wrapped, roundsValue⟩ := exists_wrapping wellformed fits
  refine ⟨⟨⟨[], rfl⟩, wrapping, round, ⟨[], rfl⟩⟩, ?_, ?_⟩
  · rw [CommandForm.text, roundText, ← wrapped, phrase, Phrase.toList_text_append,
      Phrase.toList_text_append]
    simp
  · rw [CommandForm.command, denotes, roundsValue]

theorem read_text_phrase (wellformed : command.Wellformed) (fits : command.Fits)
    (fallback : String) : read (some (Phrase.text command.phrase)) fallback = .ok command := by
  obtain ⟨form, formText, denotes⟩ := exists_form wellformed fits
  have reads := read_ofList form.allBlank_text form.readText_text fallback
  rw [formText, denotes, String.ofList_toList] at reads
  exact reads

theorem isBlank_text_phrase (wellformed : command.Wellformed) (fits : command.Fits) :
    isBlank (some (Phrase.text command.phrase)) = false := by
  obtain ⟨form, formText, -⟩ := exists_form wellformed fits
  have blank := form.allBlank_text
  rw [formText] at blank
  exact blank

/-- What is written reads back: a well-formed command whose integers all fit has a written form,
and this reads as the command, whatever the fallback. -/
theorem read_write (wellformed : command.Wellformed) (fits : command.Fits) :
    ∃ text, command.write = .ok text ∧ ∀ fallback, read (some text) fallback = .ok command :=
  ⟨Phrase.text command.phrase, write_of_fits fits, read_text_phrase wellformed fits⟩

/-- A command with every part there is reads back. -/
theorem read_write_of_every_part :
    let command : Command := ⟨3, 6, some 2, true, true, 3, -7, 4⟩
    command.Wellformed ∧ command.Fits ∧
      ∃ text, command.write = .ok text ∧ ∀ fallback, read (some text) fallback = .ok command := by
  intro command
  have wellformed : command.Wellformed := by
    refine ⟨by decide, by decide, ?_, by decide, by decide⟩
    intro kept held
    cases held
    decide
  have fits : command.Fits := by
    refine fits_of_natAbs_lt (fun field => by cases field <;> decide) ?_
    intro kept held
    cases held
    decide
  exact ⟨wellformed, fits, read_write wellformed fits⟩

end Command

end DiceTower
