import DiceTower.Numeral
import DiceTower.Text.Blank

/-!
# Integers in settings

A setting that is a number may be given as a text. The text may have white space around it, a sign,
zeros in front, underscores between its digits, and a fraction of zeros; its digits are ASCII.

It is read in steps, each of which takes something off: white space, the sign, the zeros in front,
the fraction, the underscores. What is left must be a numeral in its shortest writing, with no more
than the most digits a numeral may have. Zeros in front may be grouped in any way, and behind them a
minus sign may stand as well as digits.

A text that starts at once with too many digits, or with a minus sign and these, is told apart as
too long before any step, whatever stands behind the digits. Any other text that gives no integer
is unreadable.
-/

namespace DiceTower.Settings.IntegerText

open DiceTower.Text

/-- What is wrong with a text that should give an integer. -/
inductive Fault where
  | unreadable
  /-- It has too many digits. -/
  | tooLong
deriving DecidableEq, Repr, Inhabited

/-- White space around a number in a setting: the blanks without the information separators. -/
def isSpace (c : Char) : Bool :=
  isBlank c && !(28 ≤ c.toNat && c.toNat ≤ 31)

/-- The digits that a numeral of several digits may start with. -/
def isLeading (c : Char) : Bool :=
  c.isDigit && c != '0'

/-- The text behind zeros, of which `last` was the last character. The last one stays if nothing
follows, or a fraction. -/
def afterZeros? (last : Char) : List Char → Option (List Char)
  | [] => some [last]
  | c :: rest =>
    if c = '0' ∨ c = '_' then afterZeros? c rest
    else if isLeading c ∨ c = '-' then some (c :: rest)
    else if c = '.' then some (last :: c :: rest)
    else none

/-- The text without zeros in front. -/
def withoutZeros? : List Char → Option (List Char)
  | [] => none
  | c :: rest =>
    if c = '0' then afterZeros? c rest
    else if isLeading c then some (c :: rest)
    else none

/-- The text without a fraction, which may only have zeros, but at least one. -/
def withoutFraction? (text : List Char) : Option (List Char) :=
  match text.dropWhile (· != '.') with
  | [] => some text
  | _ :: zeros =>
    if !zeros.isEmpty && zeros.all (· == '0') then some (text.takeWhile (· != '.')) else none

/-- The text without underscores, of which none may stand at an end or next to another; `inside`
says that something else comes directly before. -/
def ungrouped? : (inside : Bool) → List Char → Option (List Char)
  | inside, [] => if inside then some [] else none
  | inside, c :: rest =>
    if c = '_' then
      if inside then ungrouped? false rest else none
    else
      (ungrouped? true rest).map (c :: ·)

/-- A text starts with more digits than a numeral may have, the first of which is not zero. -/
def startsTooLong (text : List Char) : Bool :=
  text.head?.any isLeading && Numeral.maxDigits < (text.takeWhile Char.isDigit).length

/-- A text starts with too many digits, or with a minus sign and too many digits. -/
def isTooLong : List Char → Bool
  | '-' :: text => startsTooLong text
  | text => startsTooLong text

/-- The number of a numeral in its shortest writing. -/
def numeral? (text : List Char) : Option Nat :=
  if text = ['0'] then some 0
  else if text.head?.any isLeading && text.all Char.isDigit && !startsTooLong text then
    some (Numeral.value text)
  else
    none

/-- The number of a numeral that may have a minus sign. -/
def signedNumeral? : List Char → Option Int
  | '-' :: text => (numeral? text).map fun size => -(size : Int)
  | text => (numeral? text).map Int.ofNat

/-- The numeral of a text, less all that may be taken off, unless it cannot be. -/
def reduced? (text : List Char) : Option (List Char) := do
  ungrouped? false (← withoutFraction? (← withoutZeros? text))

/-- The text of a number with its sign, less all that may be taken off. -/
def signedReduced? : List Char → Option (List Char)
  | '+' :: '-' :: _ => none
  | '+' :: text => reduced? text
  | '-' :: text => (reduced? text).map ('-' :: ·)
  | text => reduced? text

/-- The number that a text gives, once it is not too long as it stands. -/
def reading? (text : List Char) : Option Int := do
  signedNumeral? (← signedReduced? (trimBy isSpace text))

/-- The number that a text gives. -/
def read (text : String) : Except Fault Int :=
  if isTooLong text.toList then .error .tooLong
  else
    match reading? text.toList with
    | some value => .ok value
    | none => .error .unreadable

end DiceTower.Settings.IntegerText
