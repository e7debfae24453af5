import DiceTower.Command.Reader
import DiceTower.Limits

/-!
# Options

Options are what a roll depends on beside its text: the command that stands in for a blank one,
and the limits. They are revised by whole values: a `Revision` may name another command and may
replace the limits or lay single ones over them. The last revision that speaks of a part decides
it.
-/

namespace DiceTower

/-- What a roll depends on beside its text. -/
structure Options where
  /-- The command in place of a blank one. -/
  command : String := Command.usual
  /-- The limits of every command. -/
  limits : Limits := Limits.uniform 100
deriving DecidableEq, Repr, Inhabited

/-- What a revision does to the limits. -/
inductive LimitsRevision where
  /-- They stay as they are. -/
  | kept
  /-- They are all replaced, the absent ones too. -/
  | replaced (limits : Limits)
  /-- The named ones are replaced, and names of no field are passed over. -/
  | overlaid (named : List (String × Option Int))
deriving DecidableEq, Repr, Inhabited

/-- A change of options. -/
structure Revision where
  /-- Another command; the empty one changes nothing. -/
  command : Option String := none
  /-- The change of the limits. -/
  limits : LimitsRevision := .kept
deriving DecidableEq, Repr, Inhabited

namespace Limits

/-- The limits after one named limit. -/
def setNamed (limits : Limits) (name : String) (limit : Option Int) : Limits :=
  match Field.ofName? name with
  | some field => limits.set field limit
  | none => limits

/-- The limits with named ones laid over them. -/
def overlay (limits : Limits) (named : List (String × Option Int)) : Limits :=
  named.foldl (fun limits (name, limit) => limits.setNamed name limit) limits

/-- The limits after a revision. -/
def revise (limits : Limits) : LimitsRevision → Limits
  | .kept => limits
  | .replaced others => others
  | .overlaid named => limits.overlay named

end Limits

namespace Options

/-- A command text, unless it is empty. -/
def orUsual (text : String) : String :=
  if text.isEmpty then Command.usual else text

/-- The options after a revision. -/
def revise (options : Options) (revision : Revision) : Options where
  command :=
    match revision.command with
    | none => options.command
    | some command => if command.isEmpty then options.command else command
  limits := options.limits.revise revision.limits

/-- The text a command goes by: the text itself, or the command of the options in place of a
blank one. -/
def resolve (options : Options) (text : Option String) : String :=
  Command.textOr text (orUsual options.command)

/-- Options grown by one revision of one of them, the last one unless a place is given. -/
def grow (states : List Options) (place : Option Nat) (revision : Revision) : List Options :=
  states ++ ((states[place.getD (states.length - 1)]?).map (revise · revision)).toList

end Options

end DiceTower
