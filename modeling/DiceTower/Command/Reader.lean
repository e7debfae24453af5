import DiceTower.Command
import DiceTower.Envelope
import DiceTower.Failure
import DiceTower.Lexeme

/-!
# Reading a command

Every text reads as a command. The text is stripped and taken out of its repeat envelope, the
lexemes of the body are gathered into a `Draft`, and what the draft leaves open takes its usual
value. For each part the first value other than zero counts, and once it is there no later number
for that part is converted, so the only thing that can fail is a number that is needed and too
long to be read.
-/

namespace DiceTower

open DiceTower.Text

/-- The parts of a command gathered so far; zero stands for a part that is still open. -/
structure Draft where
  times : Nat := 0
  faces : Nat := 0
  keep : Nat := 0
  lowest : Bool := false
  highest : Bool := false
  multiplier : Nat := 0
  modifier : Int := 0
deriving DecidableEq, Repr

namespace Draft

/-- A part after one more number for it: it is converted only if the part is open. -/
def settle (held : Nat) (digits : List Char) : Except Numeral.Fault Nat :=
  if held = 0 then Numeral.read digits else .ok held

/-- A draft after one more token. -/
def add (draft : Draft) : Token → Except Numeral.Fault Draft
  | .dice times faces => do
    let times ← settle draft.times times
    let faces ← settle draft.faces faces
    return { draft with times, faces }
  | .keep kept => do
    let keep ← settle draft.keep kept
    return { draft with keep }
  | .select flag =>
    if isHighestLetter flag then
      return { draft with highest := true }
    else
      return { draft with lowest := true }
  | .multiplier factor => do
    let multiplier ← settle draft.multiplier factor
    return { draft with multiplier }
  | .modifier sign _ amount =>
    if draft.modifier = 0 then do
      let size ← Numeral.read amount
      return { draft with modifier := if sign == '-' then -size else size }
    else
      return draft

/-- The draft of a row of tokens. -/
def gather (tokens : List Token) : Except Numeral.Fault Draft :=
  tokens.foldlM add {}

/-- A count, or the usual one in place of zero. -/
def orUsual (count usual : Nat) : Int :=
  if count = 0 then usual else count

/-- The command of a draft, with the number of rounds; what is open takes its usual value. -/
def command (draft : Draft) (rounds : Nat) : Command where
  times := orUsual draft.times 1
  faces := orUsual draft.faces 20
  keep := if draft.keep = 0 then none else some draft.keep
  lowest := draft.lowest
  highest := draft.highest
  multiplier := orUsual draft.multiplier 1
  modifier := draft.modifier
  rounds := orUsual rounds 1

/-- What a draft says is a well-formed command. -/
theorem command_wellformed (draft : Draft) (rounds : Nat) :
    (draft.command rounds).Wellformed := by
  constructor
  case keep_pos =>
    intro kept held
    simp only [command] at held
    split at held
    · cases held
    · have := Option.some.inj held
      omega
  all_goals
    simp only [command, orUsual]
    split <;> omega

end Draft

namespace Command

/-- The command that is rolled when none is given. -/
def usual : String := "d20"

/-- A command that is not given, or given as blanks only. -/
def isBlank (text : Option String) : Bool :=
  text.all fun text => allBlank text.toList

/-- A command text, or the fallback in place of a blank one. -/
def textOr (text : Option String) (fallback : String) : String :=
  if isBlank text then fallback else text.getD fallback

/-- Reads a text as a command. The repeat count is converted first. -/
def readText (text : List Char) : Except Numeral.Fault Command := do
  let envelope := Envelope.split (strip text)
  let rounds ← Numeral.read envelope.count
  let draft ← Draft.gather ((Lexeme.scan envelope.body).map Lexeme.token)
  return draft.command rounds

/-- Reads a command, the fallback in place of a blank one. -/
def read (text : Option String) (fallback : String) : Except Failure Command :=
  (readText (textOr text fallback).toList).mapError Failure.numeral

end Command

end DiceTower
