import DiceTower.Journal.Severity
import DiceTower.Journal.Template
import DiceTower.Text.Occurrence

/-!
# Log lines

An entry of the journal has a level, a message with its arguments, fields of its own, and the
fields bound in its context. `Entry.line?` gives the line that is written for it, as a record: its
own fields, the message, and those bound fields whose names are still free. The level and the
time are put in last, over any field of that name, so no field can pass for them; and the message
is there before the bound fields, so none of these can pass for it. The arguments of a message may
also stand in a field, which is then left out of the line.

Entries also come from parts of the program that know nothing of fields. Their message is worded
only when a line is written, and one that cannot be worded gives no line, but a notice that quotes
the message. `Entry.echoes` says whether the message of an entry, as it was given, can be found in
what is written for it.
-/

namespace DiceTower.Journal

/-- Where an entry comes from, and what it is logged at. -/
inductive Origin where
  /-- From the program, with fields. -/
  | structured (severity : Severity)
  /-- From a part that has messages only. -/
  | plain (level : Level)
deriving DecidableEq, Repr

/-- What an entry of the origin is logged at. -/
def Origin.level : Origin → Level
  | structured severity => .named severity
  | plain level => level

/-- What is to be logged. -/
structure Entry where
  origin : Origin
  /-- The message, a template if there are arguments. -/
  message : String
  arguments : List Value := []
  /-- Its own fields. -/
  own : Record Value := []
  /-- The fields bound in its context. -/
  bound : Record Value := []

/-- What an entry is logged at. -/
abbrev Entry.level (entry : Entry) : Level :=
  entry.origin.level

/-- The names of the arguments of a logging call. -/
def argumentNames : List String :=
  ["self", "event"]

/-- The name that is kept for the way from a logging call to its journal. -/
def routeName : String := "method_name"

/-- The name of the field that may hold the arguments of a message. -/
def argumentsName : String := "positional_args"

/-- Why an entry cannot be taken. -/
inductive Refusal where
  /-- A field has a name that is kept for an argument of the logging call. -/
  | reservedName (level : Level) (name : String)
  /-- The message cannot be worded. -/
  | template (fault : Template.Fault)
deriving DecidableEq, Repr

/-- The wording of a refusal. -/
def Refusal.message : Refusal → String
  | reservedName level name =>
    let routine := if name = routeName then "_proxy_to_logger" else level.name
    "BoundLogger." ++ routine ++ "() got multiple values for argument '" ++ name ++ "'"
  | template fault => fault.message

/-- The names of fields that never reach a line: those that ask for particulars of the program, and
those that the journal keeps for itself. -/
def hiddenNames : List String :=
  ["stack_info", "exc_info", "_record", "_from_structlog"]

/-- The record without the fields that never reach a line. -/
def withoutHidden (fields : Record Value) : Record Value :=
  hiddenNames.foldl Record.erase fields

/-- The line of some fields: time and level over them, and bound fields where names are free. -/
def finish (level : Level) (time : String) (bound fields : Record Value) : Record Value :=
  let timed := Record.put fields "timestamp" (.text time)
  let levelled := Record.put timed "level" (.text level.name)
  withoutHidden (Record.putAllNew levelled bound)

namespace Entry

/-- The name of a field of its own that is taken: the first one that names an argument of the call,
and otherwise the one that is kept. -/
def takenName? (entry : Entry) : Option String :=
  let names := entry.own.map Prod.fst
  (names.find? argumentNames.contains).or (names.find? (· == routeName))

/-- The wording of the message of an entry that has some fields in all. The arguments of its call
go before those in a field. -/
def wording (entry : Entry) (fields : Record Value) : Except Template.Fault String :=
  match entry.arguments, fields.get? argumentsName with
  | [], some value =>
    if value.isVoid then .ok entry.message
    else do Template.fillWith entry.message (← Template.Arguments.ofValue value)
  | arguments, _ => Template.fill entry.message arguments

/-- The fields of an entry without the one for its arguments. It stays if it is null and has not
been in the way of arguments. -/
def withoutArguments (entry : Entry) (fields : Record Value) : Record Value :=
  match entry.arguments, fields.get? argumentsName with
  | [], some .null => fields
  | _, _ => fields.erase argumentsName

/-- The line of an entry with fields, or why it is refused. -/
def structuredLine (entry : Entry) (time : String) : Except Refusal (Record Value) :=
  match entry.takenName? with
  | some name => .error (.reservedName entry.level name)
  | none => do
    let fields := Record.putAllNew entry.own entry.bound
    let message ← (entry.wording fields).mapError Refusal.template
    let worded := (entry.withoutArguments fields).put "event" (.text message)
    let levelled := Record.put worded "level" (.text entry.level.name)
    return finish entry.level time entry.bound (withoutHidden levelled)

/-- The wording of the message of an entry that has no fields. -/
def plainWording (entry : Entry) : Except Template.Fault String :=
  Template.fill entry.message entry.arguments

/-- The line of an entry that has only a message, unless it cannot be worded. -/
def plainLine? (entry : Entry) (time : String) : Option (Record Value) := do
  let message ← entry.plainWording.toOption
  let levelled := Record.put [("event", .text message)] "level" (.text entry.level.name)
  return finish entry.level time entry.bound (Record.putAllNew levelled entry.bound)

/-- An entry is severe enough for a threshold. -/
def reaches (entry : Entry) (threshold : Nat) : Bool :=
  threshold ≤ entry.level.rank

/-- The line of an entry, if one can be written: its numbers may not be too long. An entry with
fields that is refused is refused whether its line would be written or not. -/
def line? (entry : Entry) (threshold : Nat) (time : String) :
    Except Refusal (Option (Record Value)) := do
  let line ←
    match entry.origin with
    | .structured _ => some <$> entry.structuredLine time
    | .plain _ => pure (entry.plainLine? time)
  return line.filter fun line => entry.reaches threshold && Value.legibleFields line

/-- The notice that the message of a plain entry cannot be worded holds that message in quotes. It
is given only for an entry that is severe enough. -/
def notice? (entry : Entry) (threshold : Nat) : Option String :=
  match entry.origin, entry.plainWording with
  | .plain _, .error _ =>
    if entry.reaches threshold then some (Text.quoted entry.message) else none
  | _, _ => none

/-- What is written for an entry, in stretches: the names and values of its line, or its notice, or
nothing. -/
def written (entry : Entry) (threshold : Nat) : Except Refusal (List String) := do
  match ← entry.line? threshold "" with
  | some line => return line.flatMap fun (name, value) => [name, value.display.toOption.getD ""]
  | none => return [(entry.notice? threshold).getD ""]

/-- The message of an entry, as it was given, can be found in what is written for the entry. An
empty message can be found anywhere. -/
def echoes (entry : Entry) (threshold : Nat) : Except Refusal Bool := do
  let stretches ← entry.written threshold
  return stretches.any fun stretch => Text.occurs entry.message.toList stretch.toList

end Entry

end DiceTower.Journal
