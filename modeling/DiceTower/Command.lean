/-!
# Commands

A command says what to roll: how many dice of how many faces, which of them to keep, whether to
select the lowest or the highest, what to do to their sum, and how often to do all this over. Its
integers are not restricted here; a command that was read from a text is `Wellformed`. A `Field`
is one of the five parts that a limit can be put on.
-/

namespace DiceTower

/-- What to roll. Without any wish of its own a command rolls one die of twenty faces, once. -/
structure Command where
  /-- The number of dice of a round. -/
  times : Int := 1
  /-- The number of faces of each die. -/
  faces : Int := 20
  /-- How many dice to keep, chosen at random; all of them if there is no such number. -/
  keep : Option Int := none
  /-- Only the lowest of the kept dice counts, unless the highest is asked for too. -/
  lowest : Bool := false
  /-- Only the highest of the kept dice counts. -/
  highest : Bool := false
  /-- The factor on the sum of a round; factors below two have no effect. -/
  multiplier : Int := 1
  /-- What is added to each round after the multiplication. -/
  modifier : Int := 0
  /-- How many rounds are rolled. -/
  rounds : Int := 1
deriving DecidableEq, Repr, Inhabited

/-- The parts of a command that a limit can be put on. -/
inductive Field where
  | times
  | faces
  | modifier
  | multiplier
  | rounds
deriving DecidableEq, Repr, Inhabited

namespace Field

/-- All fields, in the order in which limits are checked. -/
def all : List Field :=
  [times, faces, modifier, multiplier, rounds]

/-- The name of a field in messages and settings. -/
def name : Field → String
  | times => "times"
  | faces => "faces"
  | modifier => "modifier"
  | multiplier => "multiplier"
  | rounds => "repeat"

/-- The field of a name. -/
def ofName? (name : String) : Option Field :=
  all.find? fun field => field.name == name

theorem mem_all (field : Field) : field ∈ all := by
  cases field <;> decide

theorem ofName?_name (field : Field) : ofName? field.name = some field := by
  cases field <;> decide

end Field

namespace Command

/-- The value of a field. -/
def get (command : Command) : Field → Int
  | .times => command.times
  | .faces => command.faces
  | .modifier => command.modifier
  | .multiplier => command.multiplier
  | .rounds => command.rounds

/-- The commands that can be read from a text: all counts are positive. -/
structure Wellformed (command : Command) : Prop where
  times_pos : 1 ≤ command.times
  faces_pos : 1 ≤ command.faces
  keep_pos : ∀ kept, command.keep = some kept → 1 ≤ kept
  multiplier_pos : 1 ≤ command.multiplier
  rounds_pos : 1 ≤ command.rounds

end Command

end DiceTower
