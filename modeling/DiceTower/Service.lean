import DiceTower.Execution
import DiceTower.Journal.Events
import DiceTower.Settings

/-!
# The service

The service answers calls of two tools: one rolls a text, the other reads it and gives its written
form. It is started from settings, which fix its options, the threshold of its journal and the
form of its lines. A roll that fails is answered with the wording of its failure, and does not end
the service.

`Service.serve` answers calls in order, in one scene. Each call has a stamp of its own, and each
event is told with the fields that were bound when it was reported. `Service.lines` gives the log
lines of what was served: a line has these fields, and a time of its own.
-/

namespace DiceTower

/-- A call of a tool. -/
inductive ToolCall where
  /-- Roll a text. -/
  | roll (text : Option String)
  /-- Read a text. -/
  | read (text : Option String)
deriving DecidableEq, Repr

/-- The reading of a text. -/
structure Reading where
  /-- The text as it was given. -/
  text : Option String
  command : Command
  /-- The written form of the command. -/
  canonical : String
deriving DecidableEq, Repr

/-- What a call comes to. -/
inductive Reply where
  | rolled (receipt : Receipt)
  | read (reading : Reading)
deriving DecidableEq, Repr

/-- A service that was started. -/
structure Service where
  options : Options
  /-- The least rank that is logged. -/
  threshold : Nat
  renderer : Renderer
deriving DecidableEq, Repr

/-- An event with the fields that were bound when it was reported. -/
structure Told where
  event : Event
  bound : Record Value

/-- A call that was answered. -/
structure Served where
  stamp : Stamp
  /-- What it came to, or the wording of its failure. -/
  reply : Except String Reply
  calls : List Call
  /-- What was reported, in order. -/
  told : List Told

/-- The events reported while a call was answered. -/
def Served.events (served : Served) : List Event :=
  served.told.map Told.event

/-- Why a service does not start. -/
inductive StartFailure where
  | settings (faults : List (Setting × Setting.Fault))
  | notALevel (constant : Journal.NotALevel)
deriving DecidableEq, Repr

namespace Service

/-- Starts a service with settings. -/
def ofSettings (settings : Settings) : Except Journal.NotALevel Service := do
  let threshold ← Journal.threshold settings.loggingLevel
  return { options := settings.options, threshold, renderer := settings.renderer }

/-- Starts a service with the settings that places give. -/
def start (places : Places) : Except StartFailure Service := do
  let settings ← (Settings.load places).mapError StartFailure.settings
  (ofSettings settings).mapError StartFailure.notALevel

/-- Reads a text and gives its written form. -/
def read (service : Service) (text : Option String) : Except Failure Reading := do
  let command ← Command.read text service.options.command
  let canonical ← command.write
  return ⟨text, command, canonical⟩

/-- Does what a tool is called for. -/
def perform {σ : Type} (service : Service) (source : Source σ) (stamp : Stamp) :
    ToolCall → Play (Scene σ) Reply
  | .roll text => .rolled <$> service.options.rollText source stamp text
  | .read text => .read <$> Play.ofExcept (service.read text)

/-- Answers one call. -/
def answer {σ : Type} (service : Service) (source : Source σ) (stamp : Stamp) (call : ToolCall)
    (scene : Scene σ) : Served × Scene σ :=
  let ran := (service.perform source stamp call).run scene
  (⟨stamp, ran.result.mapError Failure.message, ran.calls,
    ran.notes.map fun note => ⟨note.event, note.state.bound⟩⟩, ran.source)

/-- Answers calls in order. The stamps are those of the calls, by their number. -/
def serve {σ : Type} (service : Service) (source : Source σ) (stamps : Nat → Stamp) :
    (number : Nat) → List ToolCall → Scene σ → List Served × Scene σ
  | _, [], scene => ([], scene)
  | number, call :: rest, scene =>
    let (served, scene) := service.answer source (stamps number) call scene
    let (others, scene) := service.serve source stamps (number + 1) rest scene
    (served :: others, scene)

/-- The log line of what was told at a time, if one is written. -/
def line? (service : Service) (time : String) (told : Told) : Option (Record Value) :=
  ((told.event.entry told.bound).line? service.threshold time).toOption.join

/-- The log lines of what was served, in order. The times are those of the events, by their
number. -/
def lines (service : Service) (times : Nat → String) (served : List Served) :
    List (Record Value) :=
  (served.flatMap Served.told).zipIdx.filterMap fun (told, number) =>
    service.line? (times number) told

end Service

end DiceTower
