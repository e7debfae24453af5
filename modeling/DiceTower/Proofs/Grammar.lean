import DiceTower.Command.Reader
import DiceTower.Proofs.DigitRun
import DiceTower.Proofs.EnvelopeText
import DiceTower.Proofs.TokenText

/-!
# The notation of commands

The notation is given as data: a `RoundForm` holds the parts of a round as they are written, each
with the choices that its writer has (a letter's case, zeros in front, the script of the digits,
the blanks after a sign), and a `CommandForm` puts a round in an envelope or none and blanks around
it all. Every form has a text and denotes a command. The parts are subtypes, so a form is a
command of the notation by its type alone.

The text of a round spells its tokens (`RoundForm.spells`), has no blank at its ends
(`RoundForm.solid`) and as many opening as closing parentheses (`RoundForm.balanced`).
-/

namespace DiceTower

open DiceTower.Text

/-- A character of a class. -/
abbrev Letter (inClass : Char → Bool) : Type :=
  { c : Char // inClass c = true }

/-- Blanks, or nothing. -/
abbrev Gap : Type :=
  { text : List Char // allBlank text = true }

/-- The signs of a modifier. -/
def isSign (c : Char) : Bool :=
  c == '+' || c == '-'

/-- The letters of the two selections. -/
def isFlag (c : Char) : Bool :=
  isLowestLetter c || isHighestLetter c

/-- What is rolled in each round, as it is written. A round may have several flags; the documented
notation has one at most. -/
structure RoundForm where
  times : Option DigitRun
  die : Letter isDieLetter
  faces : DigitRun
  keep : Option (Letter isKeepLetter × DigitRun)
  flags : List (Letter isFlag)
  multiplier : Option (Letter isTimesLetter × DigitRun)
  modifier : Option (Letter isSign × Gap × DigitRun)

/-- The three ways to write how often a round is rolled: not at all, in front of the round, and
behind it. -/
inductive Wrapping where
  | bare
  | leading (count : DigitRun) (times : Letter isTimesLetter)
  | trailing (times : Letter isTimesLetter) (count : DigitRun)

/-- A command as it is written. -/
structure CommandForm where
  before : Gap
  wrapping : Wrapping
  round : RoundForm
  after : Gap

/-! ## Texts of forms -/

/-- A token with a text that writes it. -/
structure Segment where
  token : Token
  text : List Char
  spells : token.Spells text

/-- The digits of a number that may be absent. -/
def DigitRun.digitsOf (run : Option DigitRun) : List Char :=
  run.elim [] DigitRun.digits

theorem DigitRun.allDigits_digitsOf (run : Option DigitRun) : AllDigits (digitsOf run) := by
  cases run with
  | none =>
    intro c member
    cases member
  | some run => exact run.allDigits

namespace Segment

/-- `4d6`, or `d6`. -/
def dice (times : Option DigitRun) (die : Letter isDieLetter) (faces : DigitRun) : Segment where
  token := .dice (DigitRun.digitsOf times) faces.digits
  text := DigitRun.digitsOf times ++ die.val :: faces.digits
  spells := .dice (DigitRun.allDigits_digitsOf times) die.property faces.allDigits

/-- `(k3)`. -/
def keep (clause : Letter isKeepLetter × DigitRun) : Segment where
  token := .keep clause.2.digits
  text := '(' :: clause.1.val :: (clause.2.digits ++ [')'])
  spells := .keep clause.1.property clause.2.allDigits clause.2.ne_nil

/-- `-L` or `-H`. -/
def select (flag : Letter isFlag) : Segment where
  token := .select flag.val
  text := ['-', flag.val]
  spells := .select flag.property

/-- `x3`. -/
def multiplier (clause : Letter isTimesLetter × DigitRun) : Segment where
  token := .multiplier clause.2.digits
  text := clause.1.val :: clause.2.digits
  spells := .multiplier clause.1.property clause.2.allDigits clause.2.ne_nil

/-- `+ 3` or `- 3`, with any blanks. -/
def modifier (clause : Letter isSign × Gap × DigitRun) : Segment where
  token := .modifier clause.1.val clause.2.1.val clause.2.2.digits
  text := clause.1.val :: (clause.2.1.val ++ clause.2.2.digits)
  spells := .modifier clause.1.property clause.2.1.property clause.2.2.allDigits clause.2.2.ne_nil

end Segment

namespace RoundForm

/-- The parts of a round after its dice. -/
def options (form : RoundForm) : List Segment :=
  form.keep.toList.map Segment.keep ++ form.flags.map Segment.select ++
    form.multiplier.toList.map Segment.multiplier ++ form.modifier.toList.map Segment.modifier

/-- The parts of a round in the order of the notation. -/
def segments (form : RoundForm) : List Segment :=
  .dice form.times form.die form.faces :: form.options

/-- The text of a round. -/
def text (form : RoundForm) : List Char :=
  form.segments.flatMap Segment.text

end RoundForm

namespace Wrapping

/-- A body in its envelope: `2x(body)` or `(body)x2`, or the body alone. -/
def wrap (body : List Char) : Wrapping → List Char
  | bare => body
  | leading count times => count.digits ++ times.val :: '(' :: (body ++ [')'])
  | trailing times count => '(' :: (body ++ ')' :: times.val :: count.digits)

/-- How often to roll, if this is written. -/
def count? : Wrapping → Option DigitRun
  | bare => none
  | leading count _ => some count
  | trailing _ count => some count

end Wrapping

/-- The text of a command. -/
def CommandForm.text (form : CommandForm) : List Char :=
  form.before.val ++ (form.wrapping.wrap form.round.text ++ form.after.val)

/-! ## What forms denote -/

/-- The number that is written, and the usual one in place of an absent number or of zero. -/
def DigitRun.valueOr (run : Option DigitRun) (usual : Int) : Int :=
  match run with
  | none => usual
  | some run => if run.value = 0 then usual else run.value

/-- The amount of a modifier with its sign. -/
def signedValue (clause : Letter isSign × Gap × DigitRun) : Int :=
  if clause.1.val = '-' then -(clause.2.2.value : Int) else clause.2.2.value

/-- The command of a round that is rolled as often as is written. -/
def RoundForm.command (form : RoundForm) (count : Option DigitRun) : Command where
  times := DigitRun.valueOr form.times 1
  faces := DigitRun.valueOr (some form.faces) 20
  keep := form.keep.bind fun (_, kept) => if kept.value = 0 then none else some kept.value
  lowest := form.flags.any fun flag => isLowestLetter flag.val
  highest := form.flags.any fun flag => isHighestLetter flag.val
  multiplier := DigitRun.valueOr (form.multiplier.map Prod.snd) 1
  modifier := form.modifier.elim 0 signedValue
  rounds := DigitRun.valueOr count 1

/-- The command that a form denotes. -/
def CommandForm.command (form : CommandForm) : Command :=
  form.round.command form.wrapping.count?

/-! ## Properties of texts of forms -/

namespace Token

theorem Spells.solid {token : Token} {text : List Char} (spells : token.Spells text) :
    Solid text := by
  cases spells with
  | @dice times faces letter timesDigits die facesDigits =>
    refine .of_forall (by simp) ?_
    intro c member
    simp only [List.mem_append, List.mem_cons] at member
    rcases member with inTimes | rfl | inFaces
    · exact isBlank_eq_false_of_isDigit (timesDigits c inTimes)
    · exact eq_false_of_mem (mem_of_isDieLetter die) rfl
    · exact isBlank_eq_false_of_isDigit (facesDigits c inFaces)
  | @keep kept letter isKeep digits nonempty =>
    exact Solid.between (.singleton rfl) (letter :: kept) (.singleton rfl)
  | @select flag extreme =>
    have noBlank : isBlank flag = false := eq_false_of_mem (mem_of_flag extreme) rfl
    exact Solid.append (.singleton rfl) (.singleton noBlank)
  | @multiplier factor letter times digits nonempty =>
    have noBlank : isBlank letter = false := eq_false_of_mem (mem_of_isTimesLetter times) rfl
    exact Solid.append (.singleton noBlank) (digits.solid nonempty)
  | @modifier sign gap amount signed blanks digits nonempty =>
    have noBlank : isBlank sign = false := eq_false_of_mem (mem_of_sign signed) rfl
    exact Solid.between (.singleton noBlank) gap (digits.solid nonempty)

/-- Only a keep clause has parentheses, and it has both. -/
theorem Spells.balanced {token : Token} {text : List Char} (spells : token.Spells text) :
    Balanced text := by
  have free : ∀ {c : Char} (inClass : Char → Bool), inClass c = true → inClass '(' = false →
      inClass ')' = false → c ≠ '(' ∧ c ≠ ')' :=
    fun _ isIn noOpening noClosing => ⟨ne_of_class isIn noOpening, ne_of_class isIn noClosing⟩
  cases spells with
  | @dice times faces letter timesDigits die facesDigits =>
    apply Balanced.of_forall
    intro c member
    simp only [List.mem_append, List.mem_cons] at member
    rcases member with inTimes | rfl | inFaces
    · exact free isDigit (timesDigits c inTimes) rfl rfl
    · exact free isDieLetter die rfl rfl
    · exact free isDigit (facesDigits c inFaces) rfl rfl
  | @keep kept letter isKeep digits nonempty =>
    have inner : Balanced (letter :: kept) := by
      apply Balanced.of_forall
      intro c member
      rcases List.mem_cons.mp member with rfl | inKept
      · exact free isKeepLetter isKeep rfl rfl
      · exact free isDigit (digits c inKept) rfl rfl
    exact inner.parenthesized
  | @select flag extreme =>
    apply Balanced.of_forall
    intro c member
    simp only [List.mem_cons, List.not_mem_nil, or_false] at member
    rcases member with rfl | rfl
    · exact ⟨by decide, by decide⟩
    · exact free isFlag extreme rfl rfl
  | @multiplier factor letter times digits nonempty =>
    apply Balanced.of_forall
    intro c member
    rcases List.mem_cons.mp member with rfl | inFactor
    · exact free isTimesLetter times rfl rfl
    · exact free isDigit (digits c inFactor) rfl rfl
  | @modifier sign gap amount signed blanks digits nonempty =>
    apply Balanced.of_forall
    intro c member
    simp only [List.mem_cons, List.mem_append] at member
    rcases member with rfl | inGap | inAmount
    · exact free isSign signed rfl rfl
    · exact free isBlank (List.all_eq_true.mp blanks c inGap) rfl rfl
    · exact free isDigit (digits c inAmount) rfl rfl

end Token

namespace RoundForm

variable (form : RoundForm)

/-- Every part after the dice starts with a character that no number runs on into. -/
theorem breaks_of_mem_options {segment : Segment} (member : segment ∈ form.options) :
    Breaks segment.text := by
  simp only [options, List.mem_append, List.mem_map] at member
  rcases member with ((⟨clause, -, rfl⟩ | ⟨flag, -, rfl⟩) | ⟨clause, -, rfl⟩) | ⟨clause, -, rfl⟩
  · exact .cons rfl rfl
  · exact .cons rfl rfl
  · have times := clause.1.property
    exact .cons (isDigit_eq_false_of_isTimesLetter times)
      (eq_false_of_mem (mem_of_isTimesLetter times) rfl)
  · have signed := clause.1.property
    exact .cons (eq_false_of_mem (mem_of_sign signed) rfl)
      (eq_false_of_mem (mem_of_sign signed) rfl)

end RoundForm

/-- Segments in a row spell their tokens if all but the first break off the one before. -/
theorem Segment.spells_flatMap (first : Segment) (others : List Segment)
    (breaks : ∀ segment ∈ others, Breaks segment.text) :
    Spells ((first :: others).map Segment.token) ((first :: others).flatMap Segment.text) := by
  induction others generalizing first with
  | nil => exact .cons first.spells .nil .nil
  | cons second others ih =>
    have rest := ih second fun segment member => breaks segment (List.mem_cons_of_mem _ member)
    have headBreaks := breaks second List.mem_cons_self
    exact .cons first.spells (headBreaks.append second.spells.ne_nil _) rest

namespace RoundForm

variable (form : RoundForm)

theorem spells : Spells (form.segments.map Segment.token) form.text :=
  Segment.spells_flatMap _ _ fun _ member => form.breaks_of_mem_options member

theorem solid : Solid form.text := by
  have row : ∀ (first : Segment) (others : List Segment),
      Solid ((first :: others).flatMap Segment.text) := by
    intro first others
    induction others generalizing first with
    | nil => simpa using first.spells.solid
    | cons second others ih => exact first.spells.solid.append (ih second)
  exact row _ _

theorem balanced : Balanced form.text := by
  have row : ∀ segments : List Segment, Balanced (segments.flatMap Segment.text) := by
    intro segments
    induction segments with
    | nil => rfl
    | cons first others ih => exact first.spells.balanced.append ih
  exact row _

/-- Whatever the envelope, there is no blank at either end. -/
theorem solid_wrap (wrapping : Wrapping) : Solid (wrapping.wrap form.text) := by
  cases wrapping with
  | bare => exact form.solid
  | leading count times =>
    have shape : Wrapping.wrap form.text (.leading count times) =
        count.digits ++ ((times.val :: '(' :: form.text) ++ [')']) := by
      simp [Wrapping.wrap]
    rw [shape]
    exact (count.allDigits.solid count.ne_nil).between _ (.singleton rfl)
  | trailing times count =>
    have shape : Wrapping.wrap form.text (.trailing times count) =
        ['('] ++ ((form.text ++ [')', times.val]) ++ count.digits) := by
      simp [Wrapping.wrap]
    rw [shape]
    exact Solid.between (.singleton rfl) _ (count.allDigits.solid count.ne_nil)

theorem text_eq : form.text = DigitRun.digitsOf form.times ++
    form.die.val :: (form.faces.digits ++ form.options.flatMap Segment.text) := by
  simp [text, segments, Segment.dice]

/-- A round is in no envelope, whatever comes after it. -/
theorem split_append (after : List Char) :
    Envelope.split (form.text ++ after) = ⟨form.text ++ after, []⟩ := by
  have die := form.die.property
  have noTimes : isTimesLetter form.die.val = false := eq_false_of_mem (mem_of_isDieLetter die) rfl
  rw [form.text_eq, List.append_assoc, List.cons_append]
  exact Envelope.split_bare (DigitRun.allDigits_digitsOf form.times)
    (isDigit_eq_false_of_isDieLetter die) (.inr noTimes) (ne_of_class die rfl)

/-- The envelope is found, and taken off without a loss. -/
theorem split_wrap (wrapping : Wrapping) :
    Envelope.split (wrapping.wrap form.text) =
      ⟨form.text, DigitRun.digitsOf wrapping.count?⟩ := by
  cases wrapping with
  | bare =>
    have bare := form.split_append []
    rw [List.append_nil] at bare
    exact bare
  | leading count times =>
    exact Envelope.split_leading count.allDigits count.ne_nil times.property form.balanced
  | trailing times count =>
    exact Envelope.split_trailing form.text count.allDigits count.ne_nil times.property

end RoundForm

end DiceTower
