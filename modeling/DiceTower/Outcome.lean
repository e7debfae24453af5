import DiceTower.Command

/-!
# Outcomes of a round

A round throws the dice of a command and may keep some of them. What follows is arithmetic:
`Outcome.ofDice` says which of the kept dice count, what they add up to, and what the multiplier
and the modifier make of the sum. It is a function of the dice alone, so two rounds with equal
dice have equal outcomes.
-/

namespace DiceTower

/-- Some numbers added up. -/
def sumOf (numbers : List Int) : Int :=
  numbers.foldr (· + ·) 0

@[simp]
theorem sumOf_nil : sumOf [] = 0 :=
  rfl

@[simp]
theorem sumOf_cons (first : Int) (others : List Int) :
    sumOf (first :: others) = first + sumOf others :=
  rfl

theorem sumOf_append (left right : List Int) :
    sumOf (left ++ right) = sumOf left + sumOf right := by
  induction left with
  | nil => simp
  | cons first others ih => simp [ih, Int.add_assoc]

namespace Command

/-- How many dice to keep, if a choice is to be made at all: zero asks for none. -/
def keeping (command : Command) : Option Int :=
  command.keep.filter (· ≠ 0)

/-- Which of two ends of the dice is selected; the highest comes first. -/
inductive Extreme where
  | highest
  | lowest
deriving DecidableEq, Repr

/-- The end of the dice that a command selects. -/
def extreme (command : Command) : Option Extreme :=
  if command.highest then some .highest else if command.lowest then some .lowest else none

/-- The die at one end of some dice. -/
def Extreme.of? : Extreme → List Int → Option Int
  | .highest, dice => dice.max?
  | .lowest, dice => dice.min?

/-- The die that is selected among the kept ones, if the command selects and there are any. -/
def selected (command : Command) (kept : List Int) : Option (Extreme × Int) :=
  command.extreme.bind fun extreme => (extreme.of? kept).map (extreme, ·)

/-- The dice that count among the kept ones. -/
def counted (command : Command) (kept : List Int) : List Int :=
  match command.selected kept with
  | some (_, die) => [die]
  | none => kept

/-- A sum after the multiplier; factors below two have no effect. -/
def multiplied (command : Command) (sum : Int) : Int :=
  if 1 < command.multiplier then sum * command.multiplier else sum

end Command

/-- What a round comes to. -/
structure Outcome where
  /-- The dice that count. -/
  rolls : List Int
  /-- What they come to. -/
  total : Int
  /-- The dice as thrown, where some of them may not count. -/
  thrown : Option (List Int) := none
deriving DecidableEq, Repr

namespace Outcome

/-- The dice as thrown, told where a choice or a selection was made among them. -/
def thrownDice (command : Command) (dice kept : List Int) : Option (List Int) :=
  if (command.selected kept).isSome then some (if dice.isEmpty then kept else dice)
  else if command.keeping.isSome then some dice
  else none

/-- The outcome of thrown dice of which some are kept. -/
def ofDice (command : Command) (dice kept : List Int) : Outcome where
  rolls := command.counted kept
  total := command.multiplied (sumOf (command.counted kept)) + command.modifier
  thrown := thrownDice command dice kept

/-- What several outcomes come to. -/
def grandTotal (outcomes : List Outcome) : Int :=
  sumOf (outcomes.map Outcome.total)

theorem grandTotal_append (left right : List Outcome) :
    grandTotal (left ++ right) = grandTotal left + grandTotal right := by
  rw [grandTotal, List.map_append, sumOf_append, grandTotal, grandTotal]

end Outcome

end DiceTower
