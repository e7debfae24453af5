import DiceTower.Command

/-!
# Events

An event is something that happens while a command is carried out and that is worth a log line. A
run gives its events in order; how they are written is the business of the journal.
-/

namespace DiceTower

/-- What is reported about a run. -/
inductive Event where
  /-- A text was taken up, exactly as it was given. -/
  | rollStarted (text : Option String)
  /-- A value above its limit was found. -/
  | rejected (field : Field) (value limit : Int)
  /-- A command is about to be rolled, under the text it goes by. -/
  | evaluationStarted (text : String) (command : Command)
  /-- All rounds of a command were rolled. -/
  | evaluated (text : String) (total : Int) (outcomes : Nat)
  /-- A text was carried out. -/
  | rollFinished (text : String) (total : Int)
deriving DecidableEq, Repr

end DiceTower
