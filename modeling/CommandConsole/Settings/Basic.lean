import CommandConsole.Settings.Json
import CommandConsole.Text.Utf8

namespace CommandConsole

/-!
# Settings

The settings of the program in their two groups, with their defaults, and the
reasons for which settings are refused.
-/

/-- The limits on what is typed. -/
structure CommandLimits where
  /-- The length of the longest command name. -/
  nameLength : Int := 32
  /-- The length of the longest pending line. -/
  lineLength : Int := 1024
  deriving Repr, DecidableEq

/-- The settings of the read loop. -/
structure ShellSettings where
  prompt : String := "> "
  exitCode : Int := 0
  deriving Repr, DecidableEq

/-- All settings. -/
structure Settings where
  logLevel : String := "INFO"
  version : String := "0.0.5"
  limits : CommandLimits := {}
  shell : ShellSettings := {}
  deriving Repr, DecidableEq

namespace Settings

/-- Why one setting is refused. -/
inductive Refusal where
  | integerFormat
  | fraction
  | notFinite
  | integerSize
  | notInteger
  | notText
  | notUnicode
  | notGroup
  deriving Repr, DecidableEq

/-- The name of a refusal. -/
def Refusal.label : Refusal → String
  | .integerFormat =>
      "int_parsing"
  | .fraction =>
      "int_from_float"
  | .notFinite =>
      "finite_number"
  | .integerSize =>
      "int_parsing_size"
  | .notInteger =>
      "int_type"
  | .notText =>
      "string_type"
  | .notUnicode =>
      "string_unicode"
  | .notGroup =>
      "model_type"

/-- A refused setting by its place. -/
structure Problem where
  place : String
  refusal : Refusal
  deriving Repr, DecidableEq

/-- A problem as messages show it. -/
def Problem.message (problem : Problem) : String :=
  problem.place ++ " " ++ problem.refusal.label

/-- The sets of settings that are checked each on its own. -/
inductive Owner where
  | commands
  | shell
  | all
  deriving Repr, DecidableEq

/-- The name of a set of settings in messages. -/
def Owner.label : Owner → String
  | .commands =>
      "CommandSettings"
  | .shell =>
      "ShellSettings"
  | .all =>
      "Settings"

/-- Where settings come from. -/
inductive Origin where
  | environment
  | file
  deriving Repr, DecidableEq

/-- The name of an origin in messages. -/
def Origin.label : Origin → String
  | .environment =>
      "EnvSettingsSource"
  | .file =>
      "DotEnvSettingsSource"

end Settings

/-- Why settings are refused. -/
inductive SettingsFault where
  /-- Settings have values that they cannot have. -/
  | invalid (owner : Settings.Owner) (problems : List Settings.Problem)
  /-- The value of a whole group cannot be read. -/
  | unreadable (group : String) (origin : Settings.Origin)
  /-- The value of a whole group holds too many containers inside one another. -/
  | tooDeep (container : Settings.Container)
  /-- The environment file is not UTF-8. -/
  | undecodable (defect : Text.Utf8.Defect)
  deriving Repr, DecidableEq

/-- The wording of a fault. -/
def SettingsFault.message : SettingsFault → String
  | .invalid owner problems =>
      owner.label ++ ": " ++ "; ".intercalate (problems.map Settings.Problem.message)
  | .unreadable group origin =>
      "error parsing value for field \"" ++ group ++ "\" from source \"" ++ origin.label ++ "\""
  | .tooDeep container =>
      "maximum recursion depth exceeded while decoding a JSON " ++ container.label ++
        " from a unicode string"
  | .undecodable defect =>
      defect.message

end CommandConsole
