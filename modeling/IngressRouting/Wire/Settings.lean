/-
The JSON form of settings. Whatever is left out keeps its default.
-/
import IngressRouting.Json.Record
import IngressRouting.Json.Value
import IngressRouting.Settings.Document

namespace IngressRouting

open Json

namespace InputSettings

/-- The JSON form of input settings. -/
def toJson (s : InputSettings) : Json.Value :=
  .object [("declarations_path", .string s.declarationsPath),
    ("poll_interval_secs", .number s.pollSeconds.toNat)]

/-- Input settings as far as their fields have been read. -/
structure Draft where
  declarationsPath : Option String
  pollSeconds : Option UInt64

/-- How input settings are read: what is left out has its default. -/
def record : Record Decoder Draft InputSettings where
  title := "struct InputConfig"
  fields :=
    [.ofDecoder "declarations_path" (·.declarationsPath)
      (fun x s => { s with declarationsPath := some x }) .text,
     .ofDecoder "poll_interval_secs" (·.pollSeconds)
      (fun x s => { s with pollSeconds := some x }) .uint64]
  blank := ⟨none, none⟩
  build s :=
    let d : InputSettings := {}
    .ok ⟨s.declarationsPath.getD d.declarationsPath, s.pollSeconds.getD d.pollSeconds⟩

end InputSettings

namespace OutputSettings

/-- The JSON form of output settings. -/
def toJson (s : OutputSettings) : Json.Value :=
  .object [("route_table_path", .string s.routePath),
    ("redirect_table_path", .string s.redirectPath), ("pretty", .bool s.pretty)]

/-- Output settings as far as their fields have been read. -/
structure Draft where
  routePath : Option String
  redirectPath : Option String
  pretty : Option Bool

/-- How output settings are read: what is left out has its default. -/
def record : Record Decoder Draft OutputSettings where
  title := "struct OutputConfig"
  fields :=
    [.ofDecoder "route_table_path" (·.routePath) (fun x s => { s with routePath := some x }) .text,
     .ofDecoder "redirect_table_path" (·.redirectPath)
      (fun x s => { s with redirectPath := some x }) .text,
     .ofDecoder "pretty" (·.pretty) (fun x s => { s with pretty := some x }) .bool]
  blank := ⟨none, none, none⟩
  build s :=
    let d : OutputSettings := {}
    .ok ⟨s.routePath.getD d.routePath, s.redirectPath.getD d.redirectPath,
      s.pretty.getD d.pretty⟩

end OutputSettings

namespace ModuleSettings

/-- The JSON form of module settings. -/
def toJson (s : ModuleSettings) : Json.Value :=
  .object [("redirect_enabled", .bool s.redirectEnabled)]

/-- How module settings are read: what is left out has its default. -/
def record : Record Decoder (Option Bool) ModuleSettings where
  title := "struct ModulesConfig"
  fields := [.ofDecoder "redirect_enabled" id (fun x _ => some x) .bool]
  blank := none
  build s :=
    let d : ModuleSettings := {}
    .ok ⟨s.getD d.redirectEnabled⟩

end ModuleSettings

namespace LogSettings

/-- The JSON form of log settings. -/
def toJson (s : LogSettings) : Json.Value :=
  .object [("log_level", .string s.level), ("log_format", .string s.format.name)]

/-- Log settings as far as their fields have been read. -/
structure Draft where
  level : Option String
  format : Option LogFormat

/-- How log settings are read: what is left out has its default. -/
def record : Record Decoder Draft LogSettings where
  title := "struct ObservabilityConfig"
  fields :=
    [.ofDecoder "log_level" (·.level) (fun x s => { s with level := some x }) .text,
     .ofDecoder "log_format" (·.format) (fun x s => { s with format := some x })
      (.variant LogFormat.known)]
  blank := ⟨none, none⟩
  build s :=
    let d : LogSettings := {}
    .ok ⟨s.level.getD d.level, s.format.getD d.format⟩

end LogSettings

namespace Settings

/-- The JSON form of all settings. -/
def toJson (s : Settings) : Json.Value :=
  .object [("input", s.input.toJson), ("output", s.output.toJson),
    ("modules", s.modules.toJson), ("observability", s.log.toJson)]

/-- Settings as far as their sections have been read. -/
structure Draft where
  input : Option InputSettings
  output : Option OutputSettings
  modules : Option ModuleSettings
  log : Option LogSettings

/-- How settings are read: a section that is left out has its defaults. -/
def record : Record Decoder Draft Settings where
  title := "struct CompilerConfig"
  fields :=
    [.ofDecoder "input" (·.input) (fun x s => { s with input := some x })
      (.record InputSettings.record),
     .ofDecoder "output" (·.output) (fun x s => { s with output := some x })
      (.record OutputSettings.record),
     .ofDecoder "modules" (·.modules) (fun x s => { s with modules := some x })
      (.record ModuleSettings.record),
     .ofDecoder "observability" (·.log) (fun x s => { s with log := some x })
      (.record LogSettings.record)]
  blank := ⟨none, none, none, none⟩
  build s := .ok ⟨s.input.getD {}, s.output.getD {}, s.modules.getD {}, s.log.getD {}⟩

/-- Reads settings. -/
def decoder : Decoder Settings := .record record

end Settings

end IngressRouting
