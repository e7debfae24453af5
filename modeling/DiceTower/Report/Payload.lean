import DiceTower.Report
import DiceTower.Value

/-!
# Reports as records

What a report is to a caller who wants data and not text: records of named values, in a fixed
order of the names.
-/

namespace DiceTower

/-- The named values of a command. -/
def Command.fields (command : Command) : Record Value :=
  [("times", .int command.times), ("faces", .int command.faces),
    ("keep", Value.orNull .int command.keep), ("lowest", .bool command.lowest),
    ("highest", .bool command.highest), ("multiplier", .int command.multiplier),
    ("modifier", .int command.modifier), ("repeat", .int command.rounds)]

/-- A list of integers as a value. -/
def Value.ints (numbers : List Int) : Value :=
  .list (numbers.map Value.int)

/-- The named values of an outcome. -/
def Outcome.fields (outcome : Outcome) : Record Value :=
  [("rolls", Value.ints outcome.rolls), ("original_rolls", Value.orNull Value.ints outcome.thrown),
    ("total", .int outcome.total)]

/-- The named values of a report. -/
def Report.fields (report : Report) : Record Value :=
  [("command", .text report.text), ("parsed", .record report.command.fields),
    ("outcomes", .list (report.outcomes.map fun outcome => .record outcome.fields)),
    ("text", .text report.result), ("verbose", .list (report.lines.map Value.text)),
    ("total", .int report.total)]

end DiceTower
