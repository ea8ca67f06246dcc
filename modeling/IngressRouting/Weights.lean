/-
Weights: how the traffic of a service is split between its sub-services, as a
JSON object in an annotation. Every split has at least one sub-service and a
positive total.
-/
import IngressRouting.Binding
import IngressRouting.Json.Record
import IngressRouting.Rejection

namespace IngressRouting

/-- The weight of each sub-service. -/
abbrev Split := Dict UInt32

/-- The sum of the weights, in 64 bits. -/
def Split.total (s : Split) : UInt64 := (s.values.map UInt32.toUInt64).foldl (· + ·) 0

/-- What is wrong with the split of a service, if anything. -/
def Split.objection? (service : String) (s : Split) : Option String :=
  if s.isEmpty then some ("service " ++ service ++ " has no weighted backends")
  else if s.total = 0 then some ("weights of service " ++ service ++ " sum to zero")
  else none

/-- Reads the splits of services. -/
def splitsDecoder : Json.Decoder (Dict Split) := .dictOf (.dictOf .uint32)

namespace Annotations

/-- The splits asked for, by service. -/
def weights (a : Annotations) : Except Fault (Option (Dict Split)) :=
  match a.get? weightKey with
  | none => .ok none
  | some raw =>
    match Json.decode splitsDecoder raw with
    | .error e => .error (.badValue weightKey e.message)
    | .ok splits =>
      match splits.entries.findSome? fun (service, s) => Split.objection? service s with
      | some reason => .error (.badValue weightKey reason)
      | none => .ok (some splits)

end Annotations

end IngressRouting
