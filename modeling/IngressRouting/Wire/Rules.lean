/-
The JSON form of compiled rules.
-/
import IngressRouting.Rules
import IngressRouting.Wire.Action

namespace IngressRouting

open Json

namespace RuleAction

/-- The JSON form of an action, tagged with what it does. -/
def toJson : RuleAction → Json.Value
  | forward target => .object [("type", .string "forward"), ("target", .string target)]
  | defer => .object [("type", .string "advanced_mode")]
  | redirect action status =>
    .object [("type", .string "redirect"), ("action", action.toJson),
      ("status", .number status.toNat)]

/-- Reads an action by its tag. -/
def decoder : Decoder RuleAction := .tagged "RuleAction" "type"
  [("forward", targetReader "struct variant RuleAction::Forward" forward),
   ("advanced_mode", Buffered.nothing defer),
   ("redirect", redirectReader "struct variant RuleAction::Redirect" redirect)]

end RuleAction

namespace Rule

/-- The JSON form of a rule. -/
def toJson (r : Rule) : Json.Value :=
  .object [("source", .string r.source), ("host", .string r.host), ("path", .string r.path),
    ("condition", .string r.condition), ("action", r.action.toJson)]

/-- A rule as far as its fields have been read. -/
structure Draft where
  source : Option String
  host : Option String
  path : Option String
  condition : Option String
  action : Option RuleAction

/-- How a rule is read: no field may be left out. -/
def record : Record Decoder Draft Rule where
  title := "struct CompiledRule"
  fields :=
    [.ofDecoder "source" (·.source) (fun x s => { s with source := some x }) .text,
     .ofDecoder "host" (·.host) (fun x s => { s with host := some x }) .text,
     .ofDecoder "path" (·.path) (fun x s => { s with path := some x }) .text,
     .ofDecoder "condition" (·.condition) (fun x s => { s with condition := some x }) .text,
     .ofDecoder "action" (·.action) (fun x s => { s with action := some x }) RuleAction.decoder]
  blank := ⟨none, none, none, none, none⟩
  build s := do
    let source ← required "source" s.source
    let host ← required "host" s.host
    let path ← required "path" s.path
    let condition ← required "condition" s.condition
    let action ← required "action" s.action
    return ⟨source, host, path, condition, action⟩

end Rule

namespace Rules

/-- The JSON form of compiled rules. -/
def toJson (r : Rules) : Json.Value :=
  .object [("basic", .list (r.basic.map Rule.toJson)),
    ("advanced", .list (r.advanced.map Rule.toJson))]

/-- Compiled rules as far as their fields have been read. -/
structure Draft where
  basic : Option (List Rule)
  advanced : Option (List Rule)

/-- How compiled rules are read: neither tier may be left out. -/
def record : Record Decoder Draft Rules where
  title := "struct CompiledRules"
  fields :=
    [.ofDecoder "basic" (·.basic) (fun x s => { s with basic := some x })
      (.listOf (.record Rule.record)),
     .ofDecoder "advanced" (·.advanced) (fun x s => { s with advanced := some x })
      (.listOf (.record Rule.record))]
  blank := ⟨none, none⟩
  build s := do
    let basic ← required "basic" s.basic
    let advanced ← required "advanced" s.advanced
    return ⟨basic, advanced⟩

/-- Reads compiled rules. -/
def decoder : Decoder Rules := .record record

end Rules

end IngressRouting
