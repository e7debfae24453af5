import DiceTower.Options
import DiceTower.Settings.EnvFile
import DiceTower.Settings.IntegerText
import DiceTower.Value

/-!
# Settings

The settings of the program are the command in place of a blank one, a limit for each field, and
the level and form of its log. Each may come from four places: it is given in code, or stands in
the environment, or in an environment file, or takes its usual value. The first of these places
that names a setting decides it, and only the value found there has to be valid.
`Settings.load` gives the settings, or all faults in the order of the settings.

Names are compared without regard to case. In the environment and its file they carry the mark
`DICE_` in front. Where several writings of one name are there, the first one counts in code, and
the last one elsewhere.
-/

namespace DiceTower

/-- The forms of a log line. -/
inductive Renderer where
  | json
  | console
deriving DecidableEq, Repr, Inhabited

/-- The settings of the program. -/
structure Settings where
  /-- The command in place of a blank one. -/
  defaultCommand : String := Command.usual
  /-- The limits of every command. -/
  limits : Limits := Limits.uniform 100
  /-- The name of the least level that is logged. -/
  loggingLevel : String := "INFO"
  /-- The form of log lines. -/
  renderer : Renderer := .json
deriving DecidableEq, Repr, Inhabited

/-- The single settings. -/
inductive Setting where
  | defaultCommand
  | limit (field : Field)
  | loggingLevel
  | renderer
deriving DecidableEq, Repr, Inhabited

namespace Setting

/-- All settings, in the order in which faults are told. -/
def all : List Setting :=
  [defaultCommand] ++ Field.all.map limit ++ [loggingLevel, renderer]

/-- The name of a setting. -/
def name : Setting → String
  | defaultCommand => "default_command"
  | limit field => "throttle_" ++ field.name
  | loggingLevel => "logging_level"
  | renderer => "logging_renderer"

/-- The name of a setting in the environment and its file. -/
def environmentName (setting : Setting) : String :=
  "dice_" ++ setting.name

/-- What is wrong with the value of a setting. -/
inductive Fault where
  /-- It is not a text. -/
  | notText
  /-- It is not a number. -/
  | notInteger
  /-- It is a text that gives no integer. -/
  | unreadableInteger
  /-- It is a number that is too long or too large. -/
  | tooLong
  /-- It is a number with a fraction. -/
  | fraction
  /-- It is infinite. -/
  | notFinite
  /-- It is none of the values that are allowed. -/
  | notAllowed
deriving DecidableEq, Repr, Inhabited

/-- The code of a fault. -/
def Fault.code : Fault → String
  | notText => "string_type"
  | notInteger => "int_type"
  | unreadableInteger => "int_parsing"
  | tooLong => "int_parsing_size"
  | fraction => "int_from_float"
  | notFinite => "finite_number"
  | notAllowed => "literal_error"

/-! ## Reading values -/

/-- A value as a text. -/
def readText : Value → Except Fault String
  | .text text => .ok text
  | _ => .error .notText

/-- A binary number as a limit: it must be whole, and of a size that sixty-four bits can hold. -/
def readBinary (value : Binary) : Except Fault Int :=
  match value.truncate with
  | none => .error .notFinite
  | some whole =>
    if !value.isWhole then .error .fraction
    else if whole.natAbs < Nat.pow 2 63 then .ok whole
    else .error .tooLong

/-- What is wrong with the text of a limit. -/
def faultOfText : Settings.IntegerText.Fault → Fault
  | .unreadable => .unreadableInteger
  | .tooLong => .tooLong

/-- A value as a limit; null is no limit. Truth values count as one and zero. -/
def readLimit : Value → Except Fault (Option Int)
  | .null => .ok none
  | .bool value => .ok (some (if value then 1 else 0))
  | .int value => .ok (some value)
  | .binary value => (readBinary value).map some
  | .text text => ((Settings.IntegerText.read text).mapError faultOfText).map some
  | .list _ => .error .notInteger
  | .record _ => .error .notInteger

/-- A value as the form of log lines. -/
def readRenderer : Value → Except Fault Renderer
  | .text text =>
    if text = "json" then .ok .json
    else if text = "console" then .ok .console
    else .error .notAllowed
  | _ => .error .notAllowed

end Setting

/-- The places that settings come from, the usual values apart. -/
structure Places where
  /-- What is given in code, by name. -/
  given : List (String × Value) := []
  /-- The environment. -/
  environment : List (String × String) := []
  /-- The text of the environment file. -/
  file : String := ""

namespace Places

/-- The first value of a name, without regard to case. -/
def firstNamed? {α : Type} (named : List (String × α)) (name : String) : Option α :=
  (named.find? fun (key, _) => key.toLower == name).map Prod.snd

/-- The last value of a name, without regard to case. -/
def lastNamed? {α : Type} (named : List (String × α)) (name : String) : Option α :=
  firstNamed? named.reverse name

/-- The value of a setting, from the first place that names it. -/
def find? (places : Places) (setting : Setting) : Option Value :=
  (firstNamed? places.given setting.name).or <|
    ((lastNamed? places.environment setting.environmentName).or
      (lastNamed? (Settings.EnvFile.read places.environment places.file)
        setting.environmentName).join).map Value.text

/-- A setting as it is read from its place, or its usual value if no place names it. -/
def setting {α : Type} (places : Places) (setting : Setting)
    (read : Value → Except Setting.Fault α) (usual : α) : Except Setting.Fault α :=
  match places.find? setting with
  | some value => read value
  | none => .ok usual

/-- The command in place of a blank one. -/
def defaultCommand (places : Places) : Except Setting.Fault String :=
  places.setting .defaultCommand Setting.readText Command.usual

/-- The limit of a field. -/
def limit (places : Places) (field : Field) : Except Setting.Fault (Option Int) :=
  places.setting (.limit field) Setting.readLimit (some 100)

/-- The name of the least level that is logged. -/
def loggingLevel (places : Places) : Except Setting.Fault String :=
  places.setting .loggingLevel Setting.readText "INFO"

/-- The form of log lines. -/
def renderer (places : Places) : Except Setting.Fault Renderer :=
  places.setting .renderer Setting.readRenderer .json

/-- What is wrong with a setting. -/
def fault? (places : Places) : Setting → Option Setting.Fault
  | .defaultCommand => errorOf places.defaultCommand
  | .limit field => errorOf (places.limit field)
  | .loggingLevel => errorOf places.loggingLevel
  | .renderer => errorOf places.renderer
where
  /-- The error of a reading. -/
  errorOf {α : Type} : Except Setting.Fault α → Option Setting.Fault
    | .error fault => some fault
    | .ok _ => none

/-- All faults, in the order of the settings. -/
def faults (places : Places) : List (Setting × Setting.Fault) :=
  Setting.all.filterMap fun setting => (places.fault? setting).map (setting, ·)

end Places

namespace Settings

/-- The settings that places give, or all that is wrong with them. -/
def load (places : Places) : Except (List (Setting × Setting.Fault)) Settings :=
  match places.defaultCommand, places.limit .times, places.limit .faces, places.limit .modifier,
    places.limit .multiplier, places.limit .rounds, places.loggingLevel, places.renderer with
  | .ok defaultCommand, .ok times, .ok faces, .ok modifier, .ok multiplier, .ok rounds,
    .ok loggingLevel, .ok renderer =>
    .ok { defaultCommand, limits := { times, faces, modifier, multiplier, rounds },
          loggingLevel, renderer }
  | _, _, _, _, _, _, _, _ => .error places.faults

/-- The options that settings denote. -/
def options (settings : Settings) : Options where
  command := Options.orUsual settings.defaultCommand
  limits := settings.limits

end Settings

end DiceTower
