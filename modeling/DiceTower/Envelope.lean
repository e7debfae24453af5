import DiceTower.Text.Digit
import DiceTower.Text.Letter

/-!
# Repeat envelopes

A command may be wrapped in an envelope that says how often to roll it: the count in front, as in
`2x(4d6)`, or behind, as in `(4d6)x2`. `Envelope.split` takes a text apart into the body and the
digits of the count. In front the closing parenthesis may be missing; it is taken for the
envelope's only if the body would otherwise close more parentheses than it opens, so the one of a
keep clause at the end stays in the body. Behind, the text has to open with a parenthesis, so that
a keep clause before a multiplier is no envelope.
-/

namespace DiceTower

open DiceTower.Text

/-- A text taken apart: what is rolled, and how often. -/
structure Envelope where
  /-- What is rolled. -/
  body : List Char
  /-- The digits of the repeat count; none if the text is not in an envelope. -/
  count : List Char := []
deriving DecidableEq, Repr

namespace Envelope

/-- A body without the parenthesis that closes its envelope. -/
def unclosed (body : List Char) : List Char :=
  if body.getLast? == some ')' && body.count '(' < body.count ')' then body.dropLast else body

/-- A text without a line break at its very end. -/
def chomp (text : List Char) : List Char :=
  if text.getLast? == some '\n' then text.dropLast else text

/-- The envelope with the count in front. -/
def leading? (text : List Char) : Option Envelope :=
  match spanDigits text with
  | (count, letter :: '(' :: body) =>
    if !count.isEmpty && isTimesLetter letter then some ⟨unclosed body, count⟩ else none
  | _ => none

/-- The envelope with the count behind, read from its end. One line break may follow it. -/
def trailing? : List Char → Option Envelope
  | '(' :: text =>
    match spanDigits (chomp text).reverse with
    | (count, letter :: ')' :: body) =>
      if !count.isEmpty && isTimesLetter letter then
        some ⟨body.reverse, count.reverse⟩
      else
        none
    | _ => none
  | _ => none

/-- Takes a text apart. A count in front comes before a count behind, and a text without either
is all body. -/
def split (text : List Char) : Envelope :=
  (leading? text <|> trailing? text).getD ⟨text, []⟩

end Envelope

end DiceTower
