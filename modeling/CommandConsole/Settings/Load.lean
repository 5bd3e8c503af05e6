import CommandConsole.Number.Power
import CommandConsole.Settings.Basic
import CommandConsole.Settings.EnvironmentFile
import CommandConsole.Settings.Json
import CommandConsole.Settings.Numeral

namespace CommandConsole.Settings

/-!
# Loading settings

Settings come from the environment and from an environment file, of which the
environment counts more; letter case does not count in their names. Each group
has variables of its own, and one variable can give the group as a whole. The
groups are checked first from their own variables, then all settings together.
-/

/-- Variables by their origin, with lower-case names; the last binding of a name counts. -/
structure Environment where
  process : List (String × Option String)
  file : List (String × Option String)
  deriving Repr, DecidableEq

namespace Environment

/-- The variables of a process and of the text of an environment file. -/
def ofProcess (process : List (String × String)) (fileText : String) : Environment where
  process :=
    process.map fun (name, value) => (name.toLower, some value)
  file :=
    (EnvironmentFile.bindings process fileText).map fun (name, value) => (name.toLower, value)

/-- The value in the last binding of a name. -/
def lastValue? (bindings : List (String × Option String)) (name : String) : Option String :=
  (bindings.reverse.lookup name).join

/-- The value of a name. -/
def get? (environment : Environment) (name : String) : Option String :=
  (lastValue? environment.process name).or (lastValue? environment.file name)

end Environment

/-- Beyond the magnitude of every double that may stand for an integer. -/
def realBound : Int :=
  Number.powerOfTwo 63

/-- The integer of a number that is written with a fraction or an exponent. -/
def integerOfReal : Number.Double → Except Refusal Int
  | .finite negative significand exponent =>
      let value := Number.Double.truncate negative significand exponent
      if !Number.Double.isWhole significand exponent then
        .error .fraction
      else if -realBound < value ∧ value < realBound then
        .ok value
      else
        .error .integerSize
  | _ =>
      .error .notFinite

/-- The integer of a text. -/
def integerOfText (text : String) : Except Refusal Int :=
  if beginsTooLong text then
    .error .integerSize
  else
    match integer? text with
    | some value =>
        .ok value
    | none =>
        .error .integerFormat

/-- The integer of a structured value. -/
def integerOfJson : Json → Except Refusal Int
  | .integer value =>
      .ok value
  | .boolean value =>
      .ok (if value then 1 else 0)
  | .real value =>
      integerOfReal value
  | .text value =>
      integerOfText value
  | .brokenText =>
      .error .notUnicode
  | _ =>
      .error .notInteger

/-- The text of a structured value. -/
def textOfJson : Json → Except Refusal String
  | .text value =>
      .ok value
  | .brokenText =>
      .error .notUnicode
  | _ =>
      .error .notText

/-- A setting that is given in a group, or else by a variable, or else has its default. -/
def readSetting
    (ofJson : Json → Except Refusal α)
    (ofText : String → Except Refusal α)
    (given : Option Json)
    (text : Option String)
    (default : α) :
    Except Refusal α :=
  match given, text with
  | some value, _ =>
      ofJson value
  | none, some text =>
      ofText text
  | none, none =>
      .ok default

/-- The problem of a setting at a place, if it has one. -/
def problems (place : String) : Except Refusal α → List Problem
  | .ok _ =>
      []
  | .error refusal =>
      [⟨place, refusal⟩]

/-- A group of two settings, or the problems of both in order. -/
def combine
    (build : α → β → γ)
    (firstPlace secondPlace : String)
    (first : Except Refusal α)
    (second : Except Refusal β) :
    Except (List Problem) γ :=
  match first, second with
  | .ok first, .ok second =>
      .ok (build first second)
  | first, second =>
      .error (problems firstPlace first ++ problems secondPlace second)

/-- The limits on what is typed, from the fields of a group and from their own variables. -/
def readLimits
    (fields : List (String × Json))
    (environment : Environment) :
    Except (List Problem) CommandLimits :=
  let defaults : CommandLimits := {}
  combine CommandLimits.mk "max_name_length" "max_line_length"
    (readSetting integerOfJson integerOfText (fields.lookup "max_name_length")
      (environment.get? "mcs_cmd_max_name_length") defaults.nameLength)
    (readSetting integerOfJson integerOfText (fields.lookup "max_line_length")
      (environment.get? "mcs_cmd_max_line_length") defaults.lineLength)

/-- The settings of the read loop, from the fields of a group and from their own variables. -/
def readShellSettings
    (fields : List (String × Json))
    (environment : Environment) :
    Except (List Problem) ShellSettings :=
  let defaults : ShellSettings := {}
  combine ShellSettings.mk "prompt" "exit_code"
    (readSetting textOfJson .ok (fields.lookup "prompt")
      (environment.get? "mcs_shell_prompt") defaults.prompt)
    (readSetting integerOfJson integerOfText (fields.lookup "exit_code")
      (environment.get? "mcs_shell_exit_code") defaults.exitCode)

/-- A field with its key in lower case where that is the name of a setting of the group. -/
def normalizeField (names : List String) (field : String × Json) : String × Json :=
  let name := field.1.toLower
  if names.contains name then
    (name, field.2)
  else
    field

/-- The value of a whole group in one origin, if it is given there and is not null. -/
def readGroup
    (group : String)
    (origin : Origin)
    (names : List String)
    (text : Option String) :
    Except SettingsFault (Option Json) :=
  match text with
  | none =>
      .ok none
  | some text =>
      match Json.ofText text with
      | .error .malformed =>
          .error (.unreadable group origin)
      | .error (.tooDeep container) =>
          .error (.tooDeep container)
      | .ok .null =>
          .ok none
      | .ok (.object fields) =>
          .ok (some (.object (bindAll ((bindAll fields).map (normalizeField names)))))
      | .ok value =>
          .ok (some value)

/-- The value of a group given in both origins; objects are merged, the environment first. -/
def mergeGroups : Option Json → Option Json → Option Json
  | some (.object fields), some (.object others) =>
      some (.object (fields ++ others))
  | some value, _ =>
      some value
  | none, value =>
      value

/-- A group as a part of all settings; what is not an object is no group. -/
def readPart
    (group : String)
    (read : List (String × Json) → Except (List Problem) α) :
    Option Json → Except (List Problem) α
  | none =>
      read []
  | some (.object fields) =>
      (read fields).mapError fun problems =>
        problems.map fun problem => ⟨group ++ "." ++ problem.place, problem.refusal⟩
  | some _ =>
      .error [⟨group, .notGroup⟩]

/-- Check each group from its own variables. -/
def checkGroups (environment : Environment) : Except SettingsFault Unit := do
  let _ ← (readLimits [] environment).mapError (.invalid .commands)
  let _ ← (readShellSettings [] environment).mapError (.invalid .shell)

/-- The names of the limits on what is typed. -/
def limitNames : List String :=
  ["max_name_length", "max_line_length"]

/-- The names of the settings of the read loop. -/
def shellNames : List String :=
  ["prompt", "exit_code"]

/-- The problems of a part, if it has any. -/
def partProblems : Except (List Problem) α → List Problem
  | .ok _ =>
      []
  | .error problems =>
      problems

/-- All settings, once the groups are checked. -/
def readAll (environment : Environment) : Except SettingsFault Settings := do
  let process := Environment.lastValue? environment.process
  let file := Environment.lastValue? environment.file
  let commands ← readGroup "commands" .environment limitNames (process "mcs_commands")
  let shell ← readGroup "shell" .environment shellNames (process "mcs_shell")
  let fileCommands ← readGroup "commands" .file limitNames (file "mcs_commands")
  let fileShell ← readGroup "shell" .file shellNames (file "mcs_shell")
  let limits :=
    readPart "commands" (readLimits · environment) (mergeGroups commands fileCommands)
  let shell :=
    readPart "shell" (readShellSettings · environment) (mergeGroups shell fileShell)
  let defaults : Settings := {}
  match limits, shell with
  | .ok limits, .ok shell =>
      .ok {
        logLevel := (environment.get? "mcs_log_level").getD defaults.logLevel
        version := (environment.get? "mcs_version").getD defaults.version
        limits := limits
        shell := shell
      }
  | limits, shell =>
      .error (.invalid .all (partProblems limits ++ partProblems shell))

/-- The text of an environment file. -/
def decodeFile (bytes : List UInt8) : Except SettingsFault String :=
  match Text.Utf8.decodeChunk 0 [] bytes with
  | .error defect =>
      .error (.undecodable defect)
  | .ok (characters, pending) =>
      match Text.Utf8.unfinished? (bytes.length - pending.length) pending with
      | none =>
          .ok (String.ofList characters)
      | some defect =>
          .error (.undecodable defect)

/-- The variables of a process and of an environment file, with each group checked. -/
def gather
    (process : List (String × String))
    (file : Option (List UInt8)) :
    Except SettingsFault Environment := do
  let text ← decodeFile (file.getD [])
  let environment := Environment.ofProcess process text
  checkGroups environment
  return environment

/-- All settings from the variables of a process and an environment file. -/
def load
    (process : List (String × String))
    (file : Option (List UInt8)) :
    Except SettingsFault Settings := do
  readAll (← gather process file)

end CommandConsole.Settings
