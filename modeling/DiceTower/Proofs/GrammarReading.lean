import DiceTower.Proofs.Grammar
import DiceTower.Proofs.Pipeline

/-!
# Reading the notation

Every command of the notation reads as what it denotes. The tokens of a round are gathered part by
part: each part finds its place in the draft still open and settles it, so the draft of the whole
row is known (`RoundForm.gather_segments`), and with the envelope and the blanks taken off so is
the command (`CommandForm.readText_text`).

The main statement is `Command.read_notation`.
-/

namespace DiceTower

open DiceTower.Text

/-- The value of a number, zero if there is none. -/
def DigitRun.valueOrZero (run : Option DigitRun) : Nat :=
  run.elim 0 DigitRun.value

theorem DigitRun.read_digitsOf (run : Option DigitRun) :
    Numeral.read (digitsOf run) = .ok (valueOrZero run) := by
  cases run with
  | none => rfl
  | some run => exact run.read_digits

theorem DigitRun.orUsual_valueOrZero (run : Option DigitRun) (usual : Nat) :
    Draft.orUsual (valueOrZero run) usual = valueOr run usual := by
  cases run with
  | none => rfl
  | some run => rfl

namespace Draft

theorem settle_open {held : Nat} (isOpen : held = 0) (run : DigitRun) :
    settle held run.digits = .ok run.value := by
  rw [settle, if_pos isOpen]
  exact run.read_digits

/-! ## Parts of a round -/

theorem add_dice (times : Option DigitRun) (die : Letter isDieLetter) (faces : DigitRun) :
    add {} (Segment.dice times die faces).token =
      .ok { times := DigitRun.valueOrZero times, faces := faces.value } := by
  have readTimes := DigitRun.read_digitsOf times
  have readFaces := faces.read_digits
  simp [Segment.dice, add, settle, readTimes, readFaces, bind, Except.bind, pure, Except.pure]

theorem foldlM_keep {draft : Draft} (isOpen : draft.keep = 0)
    (clause : Option (Letter isKeepLetter × DigitRun)) :
    ((clause.toList.map Segment.keep).map Segment.token).foldlM add draft =
      .ok { draft with keep := DigitRun.valueOrZero (clause.map Prod.snd) } := by
  cases clause with
  | none =>
    rcases draft
    subst isOpen
    rfl
  | some clause =>
    have settled := settle_open isOpen clause.2
    simp [Segment.keep, add, settled, DigitRun.valueOrZero, bind, Except.bind, pure, Except.pure]

theorem add_select (draft : Draft) (flag : Letter isFlag) :
    add draft (Segment.select flag).token =
      .ok { draft with
        lowest := draft.lowest || isLowestLetter flag.val
        highest := draft.highest || isHighestLetter flag.val } := by
  have letters := flag.property
  simp only [isFlag, isLowestLetter, isHighestLetter, Bool.or_eq_true, beq_iff_eq] at letters
  have cases : (isLowestLetter flag.val = true ∧ isHighestLetter flag.val = false) ∨
      (isLowestLetter flag.val = false ∧ isHighestLetter flag.val = true) := by
    rcases letters with (same | same) | same | same <;> rw [same]
    · exact .inl ⟨rfl, rfl⟩
    · exact .inl ⟨rfl, rfl⟩
    · exact .inr ⟨rfl, rfl⟩
    · exact .inr ⟨rfl, rfl⟩
  rcases cases with ⟨lowest, notHighest⟩ | ⟨notLowest, highest⟩
  · simp [Segment.select, add, lowest, notHighest, pure, Except.pure]
  · simp [Segment.select, add, notLowest, highest, pure, Except.pure]

/-- Each flag selects one end, and no flag takes back what an earlier one selected. -/
theorem foldlM_select (draft : Draft) (flags : List (Letter isFlag)) :
    ((flags.map Segment.select).map Segment.token).foldlM add draft =
      .ok { draft with
        lowest := draft.lowest || flags.any fun flag => isLowestLetter flag.val
        highest := draft.highest || flags.any fun flag => isHighestLetter flag.val } := by
  induction flags generalizing draft with
  | nil => simp [pure, Except.pure]
  | cons flag flags ih =>
    rw [List.map_cons, List.map_cons, List.foldlM_cons, Pipeline.bind_of_ok (add_select draft flag),
      ih, List.any_cons, List.any_cons, Bool.or_assoc, Bool.or_assoc]

theorem foldlM_multiplier {draft : Draft} (isOpen : draft.multiplier = 0)
    (clause : Option (Letter isTimesLetter × DigitRun)) :
    ((clause.toList.map Segment.multiplier).map Segment.token).foldlM add draft =
      .ok { draft with multiplier := DigitRun.valueOrZero (clause.map Prod.snd) } := by
  cases clause with
  | none =>
    rcases draft
    subst isOpen
    rfl
  | some clause =>
    have settled := settle_open isOpen clause.2
    simp [Segment.multiplier, add, settled, DigitRun.valueOrZero, bind, Except.bind, pure,
      Except.pure]

theorem foldlM_modifier {draft : Draft} (isOpen : draft.modifier = 0)
    (clause : Option (Letter isSign × Gap × DigitRun)) :
    ((clause.toList.map Segment.modifier).map Segment.token).foldlM add draft =
      .ok { draft with modifier := clause.elim 0 signedValue } := by
  cases clause with
  | none =>
    rcases draft
    subst isOpen
    rfl
  | some clause =>
    have read := clause.2.2.read_digits
    simp [Segment.modifier, add, isOpen, read, signedValue, bind, Except.bind, pure, Except.pure]

end Draft

namespace RoundForm

variable (form : RoundForm)

/-- What the tokens of a round come to. -/
def draft : Draft where
  times := DigitRun.valueOrZero form.times
  faces := form.faces.value
  keep := DigitRun.valueOrZero (form.keep.map Prod.snd)
  lowest := form.flags.any fun flag => isLowestLetter flag.val
  highest := form.flags.any fun flag => isHighestLetter flag.val
  multiplier := DigitRun.valueOrZero (form.multiplier.map Prod.snd)
  modifier := form.modifier.elim 0 signedValue

/-- Each part finds its place in the draft open, since only one part comes for it. -/
theorem gather_segments : Draft.gather (form.segments.map Segment.token) = .ok form.draft := by
  rw [Draft.gather, segments, options, List.map_cons, List.foldlM_cons,
    Pipeline.bind_of_ok (Draft.add_dice form.times form.die form.faces)]
  simp only [List.map_append, List.foldlM_append, bind_assoc]
  rw [Pipeline.bind_of_ok (Draft.foldlM_keep rfl form.keep),
    Pipeline.bind_of_ok (Draft.foldlM_select _ form.flags),
    Pipeline.bind_of_ok (Draft.foldlM_multiplier rfl form.multiplier),
    Draft.foldlM_modifier rfl form.modifier]
  rfl

theorem command_draft (count : Option DigitRun) :
    form.draft.command (DigitRun.valueOrZero count) = form.command count := by
  have keep : (if form.draft.keep = 0 then none else some (form.draft.keep : Int)) =
      (form.command count).keep := by
    rw [draft, command]
    cases form.keep with
    | none => rfl
    | some clause => rfl
  rw [Draft.command, keep]
  simp only [draft, command, DigitRun.orUsual_valueOrZero]
  rfl

end RoundForm

/-! ## Whole commands -/

namespace CommandForm

variable (form : CommandForm)

theorem strip_text : strip form.text = form.wrapping.wrap form.round.text :=
  strip_append form.before.property (form.round.solid_wrap form.wrapping) form.after.property

theorem readText_text : Command.readText form.text = .ok form.command := by
  have scanned : (Lexeme.scan form.round.text).map Lexeme.token =
      form.round.segments.map Segment.token :=
    Lexeme.map_token_scan form.round.spells
  rw [Command.readText, form.strip_text]
  simp only [form.round.split_wrap, scanned]
  rw [Pipeline.bind_of_ok (DigitRun.read_digitsOf form.wrapping.count?),
    Pipeline.bind_of_ok form.round.gather_segments, form.round.command_draft]
  rfl

theorem allBlank_text : allBlank form.text = false :=
  (form.round.solid_wrap form.wrapping).allBlank_eq_false _ _

end CommandForm

namespace Command

/-- A text that is not blank is read itself, whatever the fallback. -/
theorem read_ofList {text : List Char} {command : Command} (notBlank : allBlank text = false)
    (reads : readText text = .ok command) (fallback : String) :
    read (some (String.ofList text)) fallback = .ok command := by
  rw [read, textOr]
  simp [isBlank, notBlank, reads, Except.mapError]

/-- Every command of the notation is read as the command that it denotes. -/
theorem read_notation (form : CommandForm) (fallback : String) :
    read (some (String.ofList form.text)) fallback = .ok form.command :=
  read_ofList form.allBlank_text form.readText_text fallback

end Command

end DiceTower
