import DiceTower.Narration

/-!
# Reports

A report is all that a roll comes to: the command and the text it goes by, the outcome of each
round, the steps in words, and one line with an equation. The equation shows the dice that count
of every round with the multiplier and the modifier, and states the total.
-/

namespace DiceTower

/-- What a roll comes to. -/
structure Report where
  /-- The text the command goes by. -/
  text : String
  /-- The command that was rolled. -/
  command : Command
  /-- The outcomes of the rounds. -/
  outcomes : List Outcome
  /-- The steps of the roll. -/
  remarks : List Remark
deriving DecidableEq, Repr

namespace Report

/-- What all rounds come to. -/
def total (report : Report) : Int :=
  Outcome.grandTotal report.outcomes

/-- The steps in words. -/
def lines (report : Report) : List String :=
  report.remarks.map Remark.text

/-! ## The equation -/

/-- Dice in brackets, added up. -/
def dicePart (rolls : List Int) : Phrase :=
  (["[ "] : Phrase) ++ Phrase.separated " + " rolls ++ ([" ]"] : Phrase)

/-- The multiplier, if it has an effect. -/
def multiplierPart (command : Command) : List Phrase :=
  if 1 < command.multiplier then [["x ", command.multiplier]] else []

/-- The modifier with its sign apart, if it is not zero. -/
def modifierPart (command : Command) : List Phrase :=
  if 0 < command.modifier then [["+ ", command.modifier]]
  else if command.modifier < 0 then [["- ", .number (-command.modifier)]]
  else []

/-- The parts of the side of the equation that shows a round. -/
def parts (command : Command) (rolls : List Int) : List Phrase :=
  [dicePart rolls] ++ multiplierPart command ++ modifierPart command

/-- Phrases in a row, with a separator between any two. -/
def joined (separator : String) (phrases : List Phrase) : Phrase :=
  (phrases.intersperse [Piece.words separator]).flatten

/-- The parts of a round in parentheses. -/
def enclosed (round : List Phrase) : Phrase :=
  (["("] : Phrase) ++ joined " " round ++ ([")"] : Phrase)

/-- The equation of some rounds, given by their parts. Several rounds are put in parentheses and
added up; without any, the total stands alone. -/
def equation (rounds : List (List Phrase)) (total : Int) : Phrase :=
  match rounds with
  | [] => [total]
  | [round] => joined " " round ++ ([" = ", total] : Phrase)
  | rounds => joined " + " (rounds.map enclosed) ++ ([" = ", total] : Phrase)

/-- The line that gives the result of a command with some outcomes. -/
def resultPhrase (text : String) (command : Command) (outcomes : List Outcome) : Phrase :=
  (["The result of ", text, " is "] : Phrase) ++
    equation (outcomes.map fun outcome => parts command outcome.rolls)
      (Outcome.grandTotal outcomes)

/-- The line that gives the result. -/
def result (report : Report) : String :=
  Phrase.text (resultPhrase report.text report.command report.outcomes)

end Report

end DiceTower
