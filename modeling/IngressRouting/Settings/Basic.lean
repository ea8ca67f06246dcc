/-
Settings: where the declarations come from, where the tables go, and what is
compiled. Every setting has a default.

`Settings.problems` lists all that is wrong with settings, in the order of the
fields.
-/
import IngressRouting.Text.Blank

namespace IngressRouting

/-- Where the declarations are, and how often they are looked at. -/
structure InputSettings where
  declarationsPath : String := "declarations.json"
  pollSeconds : UInt64 := 2
  deriving DecidableEq, Repr

/-- Where the tables go, and how they are written. -/
structure OutputSettings where
  routePath : String := "route_rule.data"
  redirectPath : String := "redirect.data"
  pretty : Bool := true
  deriving DecidableEq, Repr

/-- What is compiled. -/
structure ModuleSettings where
  redirectEnabled : Bool := true
  deriving DecidableEq, Repr

/-- How log lines are written. -/
inductive LogFormat
  | pretty
  | json
  deriving DecidableEq, Repr

/-- What is logged, and how. -/
structure LogSettings where
  level : String := "info"
  format : LogFormat := .pretty
  deriving DecidableEq, Repr

/-- All settings; what a document leaves out has its default. -/
structure Settings where
  input : InputSettings := {}
  output : OutputSettings := {}
  modules : ModuleSettings := {}
  log : LogSettings := {}
  deriving DecidableEq, Repr

/-- One thing that is wrong with settings. -/
inductive SettingsProblem
  | noDeclarationsPath
  | zeroPollInterval
  | noRoutePath
  | noRedirectPath
  | sameTablePaths
  | unknownLogLevel (level : String)
  deriving DecidableEq, Repr

/-- The levels of the log, from the most detailed to the least. -/
def LogSettings.levels : List String := ["trace", "debug", "info", "warn", "error"]

namespace SettingsProblem

/-- The setting that has the problem. -/
def field : SettingsProblem → String
  | noDeclarationsPath => "input.declarations_path"
  | zeroPollInterval => "input.poll_interval_secs"
  | noRoutePath => "output.route_table_path"
  | noRedirectPath => "output.redirect_table_path"
  | sameTablePaths => "output.redirect_table_path"
  | unknownLogLevel _ => "observability.log_level"

/-- The wording of a problem. -/
def message : SettingsProblem → String
  | noDeclarationsPath => "must not be empty"
  | zeroPollInterval => "must be greater than zero"
  | noRoutePath => "must not be empty"
  | noRedirectPath => "must not be empty when redirect is enabled"
  | sameTablePaths => "must differ from output.route_table_path"
  | unknownLogLevel level =>
    "unknown level '" ++ level ++ "', expected one of " ++ ", ".intercalate LogSettings.levels

/-- A problem with the field that it is in. -/
def describe (p : SettingsProblem) : String := p.field ++ ": " ++ p.message

end SettingsProblem

/-- Whether a text is nothing but white space. -/
def isBlankText (s : String) : Bool := s.toList.all isBlank

/-- A level is known in any mix of ASCII cases. -/
def LogSettings.hasKnownLevel (l : LogSettings) : Bool :=
  levels.contains (l.level.map Char.toLower)

/-- The problems of the redirect table's path, which matter where redirects are enabled. -/
def Settings.redirectProblems (s : Settings) : List SettingsProblem :=
  if !s.modules.redirectEnabled then []
  else if isBlankText s.output.redirectPath then [.noRedirectPath]
  else if s.output.redirectPath = s.output.routePath then [.sameTablePaths]
  else []

/-- All that is wrong with settings, in the order in which it is reported. -/
def Settings.problems (s : Settings) : List SettingsProblem :=
  (if isBlankText s.input.declarationsPath then [.noDeclarationsPath] else []) ++
  (if s.input.pollSeconds = 0 then [.zeroPollInterval] else []) ++
  (if isBlankText s.output.routePath then [.noRoutePath] else []) ++
  s.redirectProblems ++
  (if s.log.hasKnownLevel then [] else [.unknownLogLevel s.log.level])

end IngressRouting
