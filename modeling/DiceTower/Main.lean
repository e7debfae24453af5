import DiceTower.Service.Payload
import DiceTower.Value.Json
import Std.Time.DateTime.Timestamp

/-!
# The command line

The program takes its settings from the environment and from the file `.env`, and answers the
lines of its standard input. A line `read` and a text reads the text; any other line is rolled.
Each answer is one line of JSON on standard output, and the log goes to standard error.
-/

namespace DiceTower.CommandLine

/-- The part of the environment that holds settings. -/
def settingsEnvironment : IO (List (String × String)) :=
  Setting.all.filterMapM fun setting => do
    let name := setting.environmentName.toUpper
    return (← IO.getEnv name).map (name, ·)

/-- The text of the environment file, empty if there is none. -/
def environmentFile : IO String :=
  try IO.FS.readFile ".env" catch _ => return ""

/-- The seconds since the year 1970 began. -/
def secondsNow : IO Nat := do
  return (← Std.Time.Timestamp.now).toSecondsSinceUnixEpoch.val.toNat

/-- A stamp for a request that is answered now. -/
def freshStamp : IO Stamp := do
  return Stamp.of (← IO.rand 0 (Nat.pow 16 32 - 1)) (← secondsNow)

/-- Writes the line of what was told, if there is one. -/
def log (service : Service) (told : Told) : IO Unit := do
  let time := Stamp.timeText (← secondsNow)
  if let some fields := service.line? time told then
    IO.eprintln (Value.json (.record fields))

/-- The call that a line of input is. -/
def callOf (line : String) : ToolCall :=
  match line.toList with
  | 'r' :: 'e' :: 'a' :: 'd' :: ' ' :: text => .read (String.ofList text)
  | text => .roll (String.ofList text)

/-- Answers the lines of the input until it ends. -/
partial def answerLines (service : Service) (scene : Scene StdGen) : IO Unit := do
  let line ← (← IO.getStdin).getLine
  if line.isEmpty then
    return
  let call := callOf (line.dropEndWhile (· == '\n')).toString
  let (served, scene) := service.answer Source.system (← freshStamp) call scene
  for told in served.told do
    log service told
  match served.reply with
  | .ok reply => IO.println (Value.json (.record reply.fields))
  | .error message => IO.println (Value.json (.record [("error", .text message)]))
  (← IO.getStdout).flush
  answerLines service scene

/-- Starts the service and answers, or says why it does not start. -/
def run : IO UInt32 := do
  let environment ← settingsEnvironment
  let file ← environmentFile
  match Service.start { environment, file } with
  | .error (.settings faults) =>
    for (setting, fault) in faults do
      IO.eprintln (setting.name ++ ": " ++ fault.code)
    return 1
  | .error (.notALevel constant) =>
    IO.eprintln constant.message
    return 1
  | .ok service =>
    answerLines service ⟨mkStdGen (← IO.rand 0 (Nat.pow 2 62)), []⟩
    return 0

end DiceTower.CommandLine

/-- The program. -/
def main : IO UInt32 :=
  DiceTower.CommandLine.run
