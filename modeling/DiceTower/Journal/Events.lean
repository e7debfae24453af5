import DiceTower.Event
import DiceTower.Journal.Line
import DiceTower.Report.Payload

/-!
# Events in the journal

Each event of a run has a name, a severity and fields. `Event.entry` is the entry that is logged
for it, with whatever is bound when it is reported.
-/

namespace DiceTower

namespace Event

open Journal

/-- The name of an event. -/
def name : Event → String
  | rollStarted _ => "dice.roll.start"
  | rejected .. => "dice.throttle.rejected"
  | evaluationStarted .. => "dice.evaluate.start"
  | evaluated .. => "dice.evaluate.result"
  | rollFinished .. => "dice.roll.result"

/-- The severity of an event. -/
def severity : Event → Severity
  | rollStarted _ => .info
  | rejected .. => .warning
  | evaluationStarted .. => .debug
  | evaluated .. => .debug
  | rollFinished .. => .info

/-- The fields of an event. -/
def fields : Event → Record Value
  | rollStarted text => [("command", Value.orNull .text text)]
  | rejected field value limit =>
    [("field", .text field.name), ("value", .int value), ("limit", .int limit)]
  | evaluationStarted text command =>
    [("command", .text text), ("parsed", .record command.fields)]
  | evaluated text total outcomes =>
    [("command", .text text), ("total", .int total), ("outcomes", .int outcomes)]
  | rollFinished text total => [("command", .text text), ("total", .int total)]

/-- The entry of an event that is reported while some fields are bound. -/
def entry (event : Event) (bound : Record Value) : Journal.Entry where
  origin := .structured event.severity
  message := event.name
  own := event.fields
  bound := bound

end Event

end DiceTower
