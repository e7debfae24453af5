import DiceTower.Play

/-!
# Limits

Limits are upper bounds on the fields of a command; a field without one is not bounded. The
fields are checked in a fixed order before anything is rolled, and the first value above its
limit is reported and refused. Values that were not asked for count like all others.
-/

namespace DiceTower

/-- Upper bounds on the fields of a command. -/
structure Limits where
  times : Option Int := none
  faces : Option Int := none
  modifier : Option Int := none
  multiplier : Option Int := none
  rounds : Option Int := none
deriving DecidableEq, Repr, Inhabited

namespace Limits

/-- The limit of a field. -/
def get (limits : Limits) : Field → Option Int
  | .times => limits.times
  | .faces => limits.faces
  | .modifier => limits.modifier
  | .multiplier => limits.multiplier
  | .rounds => limits.rounds

/-- The limits with another one for a field. -/
def set (limits : Limits) (field : Field) (limit : Option Int) : Limits :=
  match field with
  | .times => { limits with times := limit }
  | .faces => { limits with faces := limit }
  | .modifier => { limits with modifier := limit }
  | .multiplier => { limits with multiplier := limit }
  | .rounds => { limits with rounds := limit }

/-- One and the same limit for every field. -/
def uniform (limit : Int) : Limits :=
  ⟨some limit, some limit, some limit, some limit, some limit⟩

/-- The limit of a field that a command is above. -/
def exceeded? (limits : Limits) (command : Command) (field : Field) : Option Int :=
  (limits.get field).filter (· < command.get field)

/-- The first field of a command that is above its limit, with the limit. -/
def firstExceeded? (limits : Limits) (command : Command) : Option (Field × Int) :=
  Field.all.findSome? fun field => (limits.exceeded? command field).map (field, ·)

/-- Refuses a command that is above a limit. -/
def check {σ : Type} (limits : Limits) (command : Command) : Play σ Unit :=
  match limits.firstExceeded? command with
  | none => pure ()
  | some (field, limit) => do
    Play.report (.rejected field (command.get field) limit)
    Play.fail (.overLimit field (command.get field) limit)

theorem get_set (limits : Limits) (field other : Field) (limit : Option Int) :
    (limits.set field limit).get other = if other = field then limit else limits.get other := by
  cases field <;> cases other <;> rfl

end Limits

end DiceTower
