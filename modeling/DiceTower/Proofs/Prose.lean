import DiceTower.Proofs.ExecutionSteps
import DiceTower.Proofs.RoundTrip
import DiceTower.Proofs.Stripping

/-!
# Commands amid prose

Around a written command there may be other text. As long as it has no digits, no minus signs and
no parentheses (`Prose`), the scanner finds nothing in it but die letters without numbers
(`Lexeme.map_token_scanFrom_prose`), and those leave every part of a draft as it is
(`Draft.add_stray`). A times letter or a plus sign at the end of the text before the command does
not take the number of dice for its own, since a die letter follows that.

The main statement is `Command.read_amid_prose`.
-/

namespace DiceTower

open DiceTower.Text

/-- A text without digits, minus signs and parentheses. -/
def Prose (text : List Char) : Prop :=
  ∀ c ∈ text, isDigit c = false ∧ c ∉ ['-', '(', ')']

instance (text : List Char) : Decidable (Prose text) :=
  decidable_of_iff (text.all fun c => isDigit c == false && c ∉ ['-', '(', ')']) (by simp [Prose])

namespace Token

/-! ## Prose starts no token with a number -/

variable {text rest : List Char}

theorem wholeNumber?_eq_none (noDigit : ∀ c ∈ text.head?, isDigit c = false) :
    wholeNumber? text = none := by
  cases text with
  | nil => rfl
  | cons head rest => simp [wholeNumber?, spanDigits, noDigit head rfl]

/-- No number can be taken from the start of a text, with blanks before it or without. -/
structure Numberless (rest : List Char) : Prop where
  factor : wholeNumber? rest = none
  amount : wholeNumber? (rest.dropWhile isBlank) = none

theorem Numberless.nil : Numberless [] :=
  ⟨rfl, rfl⟩

/-- Prose before a text keeps its number out of reach, or leaves it as it is. -/
theorem Numberless.prose_append (numberless : Numberless rest) (prose : Prose text) :
    Numberless (text ++ rest) := by
  induction text with
  | nil => exact numberless
  | cons head others hypothesis =>
    have headProse := List.forall_mem_cons.mp prose
    have none : wholeNumber? (head :: (others ++ rest)) = none := by
      apply wholeNumber?_eq_none
      intro c same
      cases same
      exact headProse.1.1
    refine ⟨none, ?_⟩
    rw [List.cons_append, List.dropWhile_cons]
    split
    · exact (hypothesis headProse.2).amount
    · exact none

theorem first?_prose {head : Char} (noDigit : isDigit head = false)
    (noMark : head ∉ ['-', '(', ')']) (noDie : isDieLetter head = false)
    (numberless : Numberless rest) : first? (head :: rest) = none := by
  simp only [List.mem_cons, List.not_mem_nil, or_false, not_or] at noMark
  obtain ⟨noMinus, noOpening, -⟩ := noMark
  rw [first?, dice?_cons_eq_none _ noDigit noDie, keep?_cons_eq_none _ noOpening,
    select?_cons_eq_none _ (.inl noMinus)]
  simp [multiplier?, modifier?, numberless.factor, numberless.amount]

end Token

namespace Lexeme

/-- In prose the scanner finds the die letters only, and goes on behind it. A die letter at its
very end would take the number that follows for its faces. -/
theorem map_token_scanFrom_prose {text rest : List Char} (prose : Prose text)
    (numberless : Token.Numberless rest)
    (apart : rest = [] ∨ ∀ c ∈ text.getLast?, isDieLetter c = false) (position : Nat) :
    (scanFrom 0 position (text ++ rest)).map token =
      List.replicate (text.countP isDieLetter) (.dice [] []) ++
        (scanFrom 0 (position + text.length) rest).map token := by
  -- The induction leaves `rest` alone: what is left of the prose keeps its number out of reach.
  induction text generalizing position with
  | nil => rfl
  | cons head others hypothesis =>
    obtain ⟨⟨noDigit, noMark⟩, othersProse⟩ := List.forall_mem_cons.mp prose
    have othersApart : rest = [] ∨ ∀ c ∈ others.getLast?, isDieLetter c = false := by
      refine apart.imp_right fun last c ends => last c ?_
      rw [List.getLast?_cons, Option.mem_def.mp ends]
      rfl
    have goesOn := hypothesis othersProse othersApart (position + 1)
    have place : position + 1 + others.length = position + (head :: others).length := by
      rw [List.length_cons]
      omega
    rw [place] at goesOn
    cases die : isDieLetter head with
    | false =>
      rw [List.cons_append, scanFrom,
        Token.first?_prose noDigit noMark die (numberless.prose_append othersProse),
        List.countP_cons_of_neg (by simp [die])]
      exact goesOn
    | true =>
      have noFaces : (spanDigits (others ++ rest)).1 = [] := by
        cases others with
        | nil =>
          rcases apart with rfl | last
          · rfl
          · rw [last head rfl] at die
            cases die
        | cons second others => simp [spanDigits, (othersProse second List.mem_cons_self).1]
      have found : Token.first? (head :: (others ++ rest)) = some (.dice [] []) := by
        have none : AllDigits [] := List.forall_mem_nil _
        have dice := Token.first?_die none die (others ++ rest)
        rw [noFaces] at dice
        exact dice
      rw [List.cons_append, scanFrom, found, List.countP_cons_of_pos die, List.replicate_succ,
        List.cons_append, List.map_cons]
      exact congrArg _ goesOn

end Lexeme

namespace Draft

/-! ## Die letters without numbers -/

/-- Dice without numbers leave every part as it is. -/
theorem add_stray (draft : Draft) : add draft (.dice [] []) = .ok draft := by
  have kept : ∀ held, settle held [] = .ok held := by
    intro held
    unfold settle
    split
    · rename_i isOpen
      rw [isOpen]
      rfl
    · rfl
  simp [add, kept, bind, Except.bind, pure, Except.pure]

theorem foldlM_strays (draft : Draft) (count : Nat) :
    (List.replicate count (Token.dice [] [])).foldlM add draft = .ok draft := by
  induction count with
  | zero => rfl
  | succ count hypothesis =>
    rw [List.replicate_succ, List.foldlM_cons, Pipeline.bind_of_ok (add_stray draft), hypothesis]

theorem gather_amid_strays (before after : Nat) {tokens : List Token} {draft : Draft}
    (gathered : gather tokens = .ok draft) :
    gather (List.replicate before (.dice [] []) ++
      (tokens ++ List.replicate after (.dice [] []))) = .ok draft := by
  rw [gather] at gathered ⊢
  rw [List.foldlM_append, Pipeline.bind_of_ok (foldlM_strays {} before), List.foldlM_append,
    Pipeline.bind_of_ok gathered, foldlM_strays]

end Draft

namespace RoundForm

variable (form : RoundForm) {before after : List Char}

/-! ## Rounds amid prose -/

/-- The number of dice is no number for what stands before it. -/
theorem numberless_append (after : List Char) : Token.Numberless (form.text ++ after) := by
  have shape : form.text ++ after = DigitRun.digitsOf form.times ++
      form.die.val :: (form.faces.digits ++ form.options.flatMap Segment.text ++ after) := by
    rw [form.text_eq, List.append_assoc, List.cons_append]
  have span : spanDigits (form.text ++ after) = (DigitRun.digitsOf form.times,
      form.die.val :: (form.faces.digits ++ form.options.flatMap Segment.text ++ after)) := by
    rw [shape]
    apply spanDigits_append_of_allDigits (DigitRun.allDigits_digitsOf form.times)
    intro c head
    cases head
    exact isDigit_eq_false_of_isDieLetter form.die.property
  have noNumber : Token.wholeNumber? (form.text ++ after) = none := by
    simp [Token.wholeNumber?, span, form.die.property]
  have noBlank : ∀ c ∈ (form.text ++ after).head?, isBlank c = false := by
    rw [List.head?_append_of_ne_nil _ form.solid.nonempty]
    exact form.solid.head
  have kept : (form.text ++ after).dropWhile isBlank = form.text ++ after :=
    (takeWhile_dropWhile_append (List.forall_mem_nil _) noBlank).2
  exact ⟨noNumber, by rw [kept, noNumber]⟩

/-- Prose before a round does not open an envelope. -/
theorem split_amid (prose : Prose before) (after : List Char) :
    Envelope.split (before ++ (form.text ++ after)) = ⟨before ++ (form.text ++ after), []⟩ := by
  cases before with
  | nil => exact form.split_append after
  | cons head others =>
    obtain ⟨noDigit, noMark⟩ := prose head List.mem_cons_self
    have noOpening : head ≠ '(' := fun same => noMark (by rw [same]; decide)
    have none : AllDigits [] := List.forall_mem_nil _
    exact Envelope.split_bare none noDigit (.inl rfl) noOpening

/-- The tokens of a round amid prose are its own, with the die letters of the prose around them. -/
theorem map_token_scan_amid (proseBefore : Prose before) (proseAfter : Prose after)
    (noDieBefore : ∀ c ∈ before.getLast?, isDieLetter c = false)
    (noDieAfter : ∀ c ∈ after.head?, isDieLetter c = false) :
    (Lexeme.scan (before ++ (form.text ++ after))).map Lexeme.token =
      List.replicate (before.countP isDieLetter) (.dice [] []) ++
        (form.segments.map Segment.token ++
          List.replicate (after.countP isDieLetter) (.dice [] [])) := by
  have breaks : Breaks after := fun c head =>
    ⟨(proseAfter c (List.mem_of_mem_head? head)).1, noDieAfter c head⟩
  have strays := fun position =>
    Lexeme.map_token_scanFrom_prose proseAfter .nil (.inl rfl) position
  simp only [List.append_nil, Lexeme.scanFrom_nil, List.map_nil] at strays
  rw [Lexeme.scan, Lexeme.map_token_scanFrom_prose proseBefore (form.numberless_append after)
    (.inr noDieBefore), Lexeme.map_token_scanFrom_append form.spells breaks, strays]

/-- A round amid prose reads as the round alone. -/
theorem readText_amid (proseBefore : Prose before) (proseAfter : Prose after)
    (noDieBefore : ∀ c ∈ before.getLast?, isDieLetter c = false)
    (noDieAfter : ∀ c ∈ after.head?, isDieLetter c = false) :
    Command.readText (before ++ (form.text ++ after)) = .ok (form.command none) := by
  obtain ⟨outer, front, back, outer', -, -, rfl, rfl, stripped⟩ :=
    exists_strip_around form.solid before after
  have proseFront := (List.forall_mem_append.mp proseBefore).2
  have proseBack := (List.forall_mem_append.mp proseAfter).1
  have noDieFront : ∀ c ∈ front.getLast?, isDieLetter c = false := by
    intro c ends
    apply noDieBefore
    rw [List.getLast?_append, Option.mem_def.mp ends]
    rfl
  have noDieBack : ∀ c ∈ back.head?, isDieLetter c = false := by
    intro c starts
    apply noDieAfter
    rw [List.head?_append, Option.mem_def.mp starts]
    rfl
  have gathered := Draft.gather_amid_strays (front.countP isDieLetter) (back.countP isDieLetter)
    form.gather_segments
  rw [← form.map_token_scan_amid proseFront proseBack noDieFront noDieBack] at gathered
  rw [Command.readText, stripped]
  simp only [form.split_amid proseFront back]
  rw [Pipeline.bind_of_ok Numeral.read_nil, Pipeline.bind_of_ok gathered]
  exact congrArg _ (form.command_draft none)

end RoundForm

namespace Command

/-- Prose around a written command that is rolled once is not read. The die letter is the one
character that may not stand next to the command, as it would take a number of the command or
start dice of its own. -/
theorem read_amid_prose {command : Command} (wellformed : command.Wellformed)
    (fits : command.Fits) (once : command.rounds = 1) {before after : String}
    (proseBefore : Prose before.toList) (proseAfter : Prose after.toList)
    (noDieBefore : ∀ c ∈ before.toList.getLast?, isDieLetter c = false)
    (noDieAfter : ∀ c ∈ after.toList.head?, isDieLetter c = false) (fallback : String) :
    ∃ text, command.write = .ok text ∧
      read (some (before ++ text ++ after)) fallback = .ok command := by
  refine ⟨Phrase.text command.phrase, write_of_fits fits, ?_⟩
  obtain ⟨round, roundText, denotes⟩ := exists_round wellformed fits
  have written : (Phrase.text command.phrase).toList = round.text := by
    rw [roundText, phrase, envelopePhrase, closingPhrase, if_pos once, if_pos once,
      List.nil_append, List.append_nil]
  have amid : (before ++ Phrase.text command.phrase ++ after).toList =
      before.toList ++ (round.text ++ after.toList) := by
    rw [String.toList_append, String.toList_append, written, List.append_assoc]
  have notBlank : isBlank (some (before ++ Phrase.text command.phrase ++ after)) = false := by
    rw [isBlank, Option.all_some, amid]
    exact round.solid.allBlank_eq_false _ _
  have denoted : round.command none = command := by
    rw [denotes]
    cases command
    cases once
    rfl
  rw [read_of_not_blank notBlank, amid,
    round.readText_amid proseBefore proseAfter noDieBefore noDieAfter, denoted]
  rfl

/-- Letters of the notation and signs in the prose do no harm, even next to the command. -/
theorem read_amid_prose_of_stray_letters :
    let command : Command := ⟨3, 6, some 2, true, false, 2, -4, 1⟩
    let before := "roll the d, then x+ "
    let after := "lx k d++ damage"
    command.Wellformed ∧ command.Fits ∧ command.rounds = 1 ∧
      Prose before.toList ∧ Prose after.toList ∧
      (∀ c ∈ before.toList.getLast?, isDieLetter c = false) ∧
      (∀ c ∈ after.toList.head?, isDieLetter c = false) ∧
      ∃ text, command.write = .ok text ∧
        read (some (before ++ text ++ after)) usual = .ok command := by
  intro command before after
  have wellformed : command.Wellformed := by
    refine ⟨by decide, by decide, ?_, by decide, by decide⟩
    intro kept held
    cases held
    decide
  have fits : command.Fits := by
    refine fits_of_natAbs_lt (fun field => by cases field <;> decide) ?_
    intro kept held
    cases held
    decide
  have proseBefore : Prose before.toList := by decide
  have proseAfter : Prose after.toList := by decide
  have last : before.toList.getLast? = some ' ' := by decide
  have first : after.toList.head? = some 'l' := by decide
  have noDieBefore : ∀ c ∈ before.toList.getLast?, isDieLetter c = false := by
    rw [last]
    rintro c ⟨⟩
    rfl
  have noDieAfter : ∀ c ∈ after.toList.head?, isDieLetter c = false := by
    rw [first]
    rintro c ⟨⟩
    rfl
  exact ⟨wellformed, fits, rfl, proseBefore, proseAfter, noDieBefore, noDieAfter,
    read_amid_prose wellformed fits rfl proseBefore proseAfter noDieBefore noDieAfter usual⟩

end Command

end DiceTower
