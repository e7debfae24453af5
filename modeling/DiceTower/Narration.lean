import DiceTower.Outcome
import DiceTower.Phrase

/-!
# Narration

Each step of a roll is told in one line. A `Remark` is such a line before it is worded: the step
and the numbers in it. `Remark.ofRound` lists the steps of a round after its dice are thrown, and
`Remark.phrase` words a step.
-/

namespace DiceTower

/-- A step of a roll. -/
inductive Remark where
  /-- A die was thrown, the one of that number in its round. -/
  | thrown (number value : Int)
  /-- Some dice were kept of those asked for. -/
  | kept (keep times : Int) (dice : List Int)
  /-- One die was selected. -/
  | selected (extreme : Command.Extreme) (value : Int)
  /-- The dice were added up. -/
  | summed (rolls : List Int) (sum : Int)
  /-- The sum was multiplied. -/
  | multiplied (sum factor : Int)
  /-- The modifier was added. -/
  | modified (sum modifier : Int)
  /-- A round came to its total. -/
  | roundTotal (number total : Int)
  /-- All rounds of a command came to a total. -/
  | grandTotal (text : String) (total : Int)
deriving DecidableEq, Repr

namespace Remark

/-- The word for an end of the dice. -/
def extremeWord : Command.Extreme → String
  | .highest => "highest"
  | .lowest => "lowest"

/-- A step in words. -/
def phrase : Remark → Phrase
  | thrown number value => ["Roll #", number, ": ", value]
  | kept keep times dice =>
    (["Keeping ", keep, " of ", times, " rolls: "] : Phrase) ++ Phrase.separated ", " dice
  | selected extreme value => ["Selecting the ", extremeWord extreme, " roll: ", value]
  | summed rolls sum =>
    (["Adding up all the rolls: "] : Phrase) ++ Phrase.separated " + " rolls ++
      ([" = ", sum] : Phrase)
  | multiplied sum factor =>
    ["Applying the multiplier: ", sum, " x ", factor, " = ", sum * factor]
  | modified sum modifier =>
    ["Adding the modifier: ", sum, " + ", modifier, " = ", sum + modifier]
  | roundTotal number total => ["The total of outcome #", number, " is ", total]
  | grandTotal text total => ["The result of ", text, " is ", total]

/-- The line of a step. -/
def text (remark : Remark) : String :=
  Phrase.text remark.phrase

/-- The throws of a round, numbered from one. -/
def throws (dice : List Int) : List Remark :=
  dice.mapIdx fun place die => thrown (place + 1) die

/-- The choice of the dice to keep, if one is made. -/
def keepSteps (command : Command) (keptDice : List Int) : List Remark :=
  (command.keeping.map fun keep => kept keep command.times keptDice).toList

/-- The selection of a die, if there is one. -/
def selectSteps (command : Command) (keptDice : List Int) : List Remark :=
  ((command.selected keptDice).map fun (extreme, die) => selected extreme die).toList

/-- The sum of the dice that count, told if more than one die was asked for. -/
def sumSteps (command : Command) (rolls : List Int) : List Remark :=
  if 1 < command.times then [summed rolls (sumOf rolls)] else []

/-- The multiplication, if it has an effect. -/
def multiplySteps (command : Command) (sum : Int) : List Remark :=
  if 1 < command.multiplier then [multiplied sum command.multiplier] else []

/-- The addition of a positive modifier; a negative one shows in the total only. -/
def modifySteps (command : Command) (product : Int) : List Remark :=
  if 0 < command.modifier then [modified product command.modifier] else []

/-- The steps of a round after its throws and its keeping. -/
def reckoning (command : Command) (number : Int) (keptDice : List Int) : List Remark :=
  let rolls := command.counted keptDice
  let product := command.multiplied (sumOf rolls)
  selectSteps command keptDice ++ sumSteps command rolls ++ multiplySteps command (sumOf rolls) ++
    modifySteps command product ++ [roundTotal number (product + command.modifier)]

/-- The steps of a round. -/
def ofRound (command : Command) (number : Int) (dice keptDice : List Int) : List Remark :=
  throws dice ++ keepSteps command keptDice ++ reckoning command number keptDice

end Remark

end DiceTower
