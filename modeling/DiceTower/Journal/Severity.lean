import DiceTower.Numeral

/-!
# Severities

An event has a severity, and a journal has a threshold below which nothing is written. What is
logged without fields may also go by a number of its own (`Level`). The threshold is looked up by
name among the log's own constants, without regard to case. A name that is no constant means the
usual threshold; two constants are no levels, and looking them up fails.
-/

namespace DiceTower.Journal

/-- How severe an event is. -/
inductive Severity where
  | debug
  | info
  | warning
  | error
  | critical
deriving DecidableEq, Repr, Inhabited

namespace Severity

/-- The name of a severity in a log line. -/
def name : Severity → String
  | debug => "debug"
  | info => "info"
  | warning => "warning"
  | error => "error"
  | critical => "critical"

/-- The rank of a severity among the thresholds. -/
def rank : Severity → Nat
  | debug => 10
  | info => 20
  | warning => 30
  | error => 40
  | critical => 50

/-- All severities. -/
def all : List Severity :=
  [debug, info, warning, error, critical]

end Severity

/-- What an entry is logged at. -/
inductive Level where
  | named (severity : Severity)
  /-- A number. It is positive, for nothing else is ever logged, and short enough to be written. -/
  | numbered (number : Nat) (positive : 0 < number) (fits : Numeral.Fits number)
deriving DecidableEq, Repr

namespace Level

/-- The name of a level in a log line: that of the severity of a number, if there is one. -/
def name : Level → String
  | named severity => severity.name
  | numbered number _ _ =>
    match Severity.all.find? fun severity => severity.rank == number with
    | some severity => severity.name
    | none => "level " ++ toString number

/-- The rank of a level among the thresholds. -/
def rank : Level → Nat
  | named severity => severity.rank
  | numbered number _ _ => number

end Level

/-- A constant that stands where a level should, but is none. -/
inductive NotALevel where
  /-- The layout of plain log lines. -/
  | layout
  /-- The table of layout styles. -/
  | styles
deriving DecidableEq, Repr, Inhabited

/-- The wording of the failure to use a constant as a level. -/
def NotALevel.message : NotALevel → String
  | layout => "Unknown level: '%(levelname)s:%(name)s:%(message)s'"
  | styles =>
    "Level not an integer or a valid string: \x7b'%': (<class 'logging.PercentStyle'>, " ++
      "'%(levelname)s:%(name)s:%(message)s'), '\x7b': (<class 'logging.StrFormatStyle'>, " ++
      "'\x7blevelname\x7d:\x7bname\x7d:\x7bmessage\x7d'), '$': " ++
      "(<class 'logging.StringTemplateStyle'>, " ++
      "'$\x7blevelname\x7d:$\x7bname\x7d:$\x7bmessage\x7d')\x7d"

/-- The ranks of the named levels; the last one lets everything through. -/
def levels : List (String × Nat) :=
  [("DEBUG", 10), ("INFO", 20), ("WARNING", 30), ("WARN", 30), ("ERROR", 40), ("CRITICAL", 50),
    ("FATAL", 50), ("NOTSET", 0)]

/-- The rank in place of a name that is unknown. -/
def usualThreshold : Nat := 20

/-- The capitals of a character, as far as they are ASCII letters; other characters stand for
themselves, because no level has one in its name. -/
def capitals (c : Char) : List Char :=
  match c with
  | '\u00df' => ['S', 'S']
  | '\u0131' => ['I']
  | '\u017f' => ['S']
  | '\ufb00' => ['F', 'F']
  | '\ufb01' => ['F', 'I']
  | '\ufb02' => ['F', 'L']
  | '\ufb03' => ['F', 'F', 'I']
  | '\ufb04' => ['F', 'F', 'L']
  | '\ufb05' => ['S', 'T']
  | '\ufb06' => ['S', 'T']
  | c => [c.toUpper]

/-- A name in capitals. -/
def upperCase (name : String) : String :=
  String.ofList (name.toList.flatMap capitals)

/-- The threshold of a name. -/
def threshold (name : String) : Except NotALevel Nat :=
  let name := upperCase name
  if name = "BASIC_FORMAT" then .error .layout
  else if name = "_STYLES" then .error .styles
  else .ok ((levels.lookup name).getD usualThreshold)

end DiceTower.Journal
