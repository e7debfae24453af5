import DiceTower.Evaluation
import DiceTower.Options
import DiceTower.Scene
import DiceTower.Stamp

/-!
# Execution of a text

`Options.execute` carries out a text: it is read, the limits are checked, and only then the dice
are rolled. `Options.rollText` does the same as a request: it reports before and after, binds the
identity of the request for as long as that takes, and gives a receipt that names the request and
the random source.
-/

namespace DiceTower

/-- A report with the particulars of the request. -/
structure Receipt where
  report : Report
  stamp : Stamp
  /-- The random source that was asked. -/
  sourceName : String
deriving DecidableEq, Repr

/-- The field that marks what is reported while a request is carried out. -/
def Stamp.mark (stamp : Stamp) : Record Value :=
  [("request_id", .text stamp.requestId)]

namespace Options

/-- Reads a text, checks the limits and rolls. -/
def execute {σ : Type} (options : Options) (source : Source σ) (text : Option String) :
    Play σ Report := do
  let name := options.resolve text
  let command ← Play.ofExcept (Command.read (some name) options.command)
  options.limits.check command
  command.evaluate source (some name)

/-- Carries out a text, and reports that it starts and what it has come to. -/
def rollReported {σ : Type} (options : Options) (source : Source σ) (text : Option String) :
    Play σ Report := do
  Play.report (.rollStarted text)
  let report ← options.execute source text
  Play.report (.rollFinished report.text report.total)
  return report

/-- Carries out a text as a request. Its identity is bound until that has come to an end. -/
def rollText {σ : Type} (options : Options) (source : Source σ) (stamp : Stamp)
    (text : Option String) : Play (Scene σ) Receipt := do
  let report ← Play.binding stamp.mark (options.rollReported source.inScene text)
  return ⟨report, stamp, source.name⟩

end Options

end DiceTower
