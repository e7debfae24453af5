import DiceTower.Command
import DiceTower.Failure

/-!
# Writing a command

`Command.phrase` is the one written form of a command: the dice, then the parts that differ from
their usual value, in a fixed order, and around it the repeat envelope if there is more or less
than one round. `Command.write` is its text, which reads back as the command if that is well
formed.
-/

namespace DiceTower.Command

/-- The number of dice and of their faces. -/
def dicePhrase (command : Command) : Phrase :=
  [command.times, "d", command.faces]

/-- The keep clause, if any dice are to be kept. -/
def keepPhrase (command : Command) : Phrase :=
  match command.keep with
  | none => []
  | some kept => if kept = 0 then [] else ["(k", kept, ")"]

/-- The selections, the highest first. -/
def selectPhrase (command : Command) : Phrase :=
  match command.highest, command.lowest with
  | true, true => ["-H", "-L"]
  | true, false => ["-H"]
  | false, true => ["-L"]
  | false, false => []

/-- The multiplier, if it is not one. -/
def multiplierPhrase (command : Command) : Phrase :=
  if command.multiplier = 1 then [] else ["x", command.multiplier]

/-- The modifier with its sign, if it is not zero. -/
def modifierPhrase (command : Command) : Phrase :=
  if 0 < command.modifier then ["+", command.modifier]
  else if command.modifier < 0 then [command.modifier]
  else []

/-- The written form of what is rolled in each round. -/
def roundPhrase (command : Command) : Phrase :=
  command.dicePhrase ++ command.keepPhrase ++ command.selectPhrase ++ command.multiplierPhrase ++
    command.modifierPhrase

/-- The repeat count and the parenthesis that opens its envelope, unless there is one round. -/
def envelopePhrase (command : Command) : Phrase :=
  if command.rounds = 1 then [] else [command.rounds, "x("]

/-- The parenthesis that closes the envelope. -/
def closingPhrase (command : Command) : Phrase :=
  if command.rounds = 1 then [] else [")"]

/-- The written form of a command. -/
def phrase (command : Command) : Phrase :=
  command.envelopePhrase ++ command.roundPhrase ++ command.closingPhrase

/-- The text of a command. -/
def write (command : Command) : Except Failure String :=
  command.phrase.written

/-- The text of a command, or the fallback if there is none. -/
def writeOr (command : Option Command) (fallback : String) : Except Failure String :=
  match command with
  | none => .ok fallback
  | some command => command.write

end DiceTower.Command
