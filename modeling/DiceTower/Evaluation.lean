import DiceTower.Command.Writer
import DiceTower.Play
import DiceTower.Report

/-!
# Evaluation

`Command.evaluate` rolls a command on a random source. Each round throws its dice one by one,
draws the dice to keep if the command asks for it, and tells its steps; each line is worded when
its step is done, so a number too long to be written ends the run at that very step. Nothing is
drawn for a command whose dice have no faces.
-/

namespace DiceTower

namespace Play

/-- Words a step; all that counts here is whether it can be worded. -/
def say {σ : Type} (remark : Remark) : Play σ Unit :=
  ofExcept (discard remark.phrase.written)

/-- Words some steps in order. -/
def sayAll {σ : Type} (remarks : List Remark) : Play σ Unit :=
  remarks.forM say

/-- Throws a die with faces from one on. -/
def throwDie {σ : Type} (source : Source σ) (faces : Int) : Play σ Int :=
  if faces < 1 then fail (.noFaces faces) else die source 1 faces

end Play

namespace Command

open Play

/-- Throws a number of dice, the first of them being the one of that number in its round. -/
def throwDice {σ : Type} (source : Source σ) (faces : Int) :
    (count : Nat) → (number : Int) → Play σ (List Int)
  | 0, _ => pure []
  | count + 1, number => do
    let die ← throwDie source faces
    say (.thrown number die)
    (die :: ·) <$> throwDice source faces count (number + 1)

/-- Draws the dice to keep; all of them are kept if the command does not ask for fewer. -/
def keepDice {σ : Type} (source : Source σ) (command : Command) (dice : List Int) :
    Play σ (List Int) :=
  match command.keeping with
  | none => pure dice
  | some keep => do
    let kept ← sample source dice (min keep dice.length)
    say (.kept keep command.times kept)
    return kept

/-- Rolls the round of a number. -/
def playRound {σ : Type} (source : Source σ) (command : Command) (number : Int) :
    Play σ (Outcome × List Remark) := do
  let dice ← throwDice source command.faces command.times.toNat 1
  let kept ← keepDice source command dice
  sayAll (Remark.reckoning command number kept)
  return (Outcome.ofDice command dice kept, Remark.ofRound command number dice kept)

/-- Rolls a number of rounds, the first of them having that number. -/
def playRounds {σ : Type} (source : Source σ) (command : Command) :
    (count : Nat) → (number : Int) → Play σ (List (Outcome × List Remark))
  | 0, _ => pure []
  | count + 1, number => do
    let round ← playRound source command number
    (round :: ·) <$> playRounds source command count (number + 1)

/-- Rolls all rounds of a command that goes by a text, and words the result. -/
def playAll {σ : Type} (source : Source σ) (command : Command) (text : String) :
    Play σ Report := do
  report (.evaluationStarted text command)
  let rounds ← playRounds source command command.rounds.toNat 1
  let outcomes := rounds.map Prod.fst
  let total := Outcome.grandTotal outcomes
  say (.grandTotal text total)
  ofExcept (discard (Report.resultPhrase text command outcomes).written)
  report (.evaluated text total outcomes.length)
  return { text, command, outcomes,
           remarks := (rounds.map Prod.snd).flatten ++ [.grandTotal text total] }

/-- Rolls a command. It goes by the given text, or by its written form if there is none. -/
def evaluate {σ : Type} (source : Source σ) (command : Command) (text : Option String) :
    Play σ Report :=
  if command.faces < 1 then
    fail (.noFaces command.faces)
  else do
    let text ← ofExcept (text.elim command.write .ok)
    playAll source command text

end Command

end DiceTower
