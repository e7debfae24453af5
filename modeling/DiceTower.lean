import DiceTower.Binary
import DiceTower.Binary.Notation
import DiceTower.Binary.Shortest
import DiceTower.Command
import DiceTower.Command.Reader
import DiceTower.Command.Writer
import DiceTower.Envelope
import DiceTower.Evaluation
import DiceTower.Event
import DiceTower.Execution
import DiceTower.Failure
import DiceTower.Journal.Events
import DiceTower.Journal.Line
import DiceTower.Journal.Severity
import DiceTower.Journal.Template
import DiceTower.Journal.Template.Conversion
import DiceTower.Journal.Template.Fault
import DiceTower.Journal.Template.Placeholder
import DiceTower.Lexeme
import DiceTower.Limits
import DiceTower.Main
import DiceTower.Narration
import DiceTower.Numeral
import DiceTower.Options
import DiceTower.Outcome
import DiceTower.Phrase
import DiceTower.Play
import DiceTower.Proofs.Alike
import DiceTower.Proofs.Arithmetic
import DiceTower.Proofs.BoundFields
import DiceTower.Proofs.BoundedWork
import DiceTower.Proofs.Characters
import DiceTower.Proofs.ConfiguredLimits
import DiceTower.Proofs.ConsecutiveRounds
import DiceTower.Proofs.CountedDice
import DiceTower.Proofs.DigitRun
import DiceTower.Proofs.DrawnDice
import DiceTower.Proofs.DueCalls
import DiceTower.Proofs.Echo
import DiceTower.Proofs.Ending
import DiceTower.Proofs.EnforcedLimits
import DiceTower.Proofs.EntryPoints
import DiceTower.Proofs.EnvelopeForms
import DiceTower.Proofs.EnvelopeText
import DiceTower.Proofs.ExecutionSteps
import DiceTower.Proofs.FailedExecution
import DiceTower.Proofs.FirstValues
import DiceTower.Proofs.FoundTokens
import DiceTower.Proofs.Grammar
import DiceTower.Proofs.GrammarReading
import DiceTower.Proofs.InvisibleSteps
import DiceTower.Proofs.JournalLines
import DiceTower.Proofs.KeepClauses
import DiceTower.Proofs.LawfulRounds
import DiceTower.Proofs.LawfulSource
import DiceTower.Proofs.Legibility
import DiceTower.Proofs.LimitCheck
import DiceTower.Proofs.Mentions
import DiceTower.Proofs.NarratedDice
import DiceTower.Proofs.Pipeline
import DiceTower.Proofs.PossibleFailures
import DiceTower.Proofs.Prose
import DiceTower.Proofs.Readable
import DiceTower.Proofs.Redrawing
import DiceTower.Proofs.ReportedNames
import DiceTower.Proofs.Reporting
import DiceTower.Proofs.RequestLog
import DiceTower.Proofs.Revisions
import DiceTower.Proofs.RoundTrip
import DiceTower.Proofs.Rounds
import DiceTower.Proofs.ServedCalls
import DiceTower.Proofs.ShownEquations
import DiceTower.Proofs.Spelling
import DiceTower.Proofs.StartedService
import DiceTower.Proofs.Stripping
import DiceTower.Proofs.TokenPlaces
import DiceTower.Proofs.TokenText
import DiceTower.Proofs.UnforgedLines
import DiceTower.Proofs.WholeRoll
import DiceTower.Proofs.Wording
import DiceTower.Record
import DiceTower.Report
import DiceTower.Report.Payload
import DiceTower.Rounding
import DiceTower.Scene
import DiceTower.Service
import DiceTower.Service.Payload
import DiceTower.Settings
import DiceTower.Settings.EnvFile
import DiceTower.Settings.IntegerText
import DiceTower.Source
import DiceTower.Stamp
import DiceTower.Table
import DiceTower.Text.Blank
import DiceTower.Text.Digit
import DiceTower.Text.Letter
import DiceTower.Text.Occurrence
import DiceTower.Text.Printable
import DiceTower.Text.Quoted
import DiceTower.Value
import DiceTower.Value.Json
import DiceTower.Value.Literal
