/-
The JSON form of bindings.
-/
import IngressRouting.Binding
import IngressRouting.Wire.Action

namespace IngressRouting

open Json

namespace TableKind

/-- The tables by their names. -/
def known : List (String × TableKind) := [route, redirect].map fun k => (k.name, k)

/-- The JSON form of a kind of table. -/
def toJson (k : TableKind) : Json.Value := .string k.name

/-- Reads a kind of table. -/
def decoder : Decoder TableKind := .variant known

end TableKind

/-- A dictionary as an object, in the order of its keys. -/
def Dict.toJson {α : Type} (write : α → Json.Value) (d : Dict α) : Json.Value :=
  .object (d.entries.map fun (k, v) => (k, write v))

namespace Annotations

/-- The JSON form of annotations. -/
def toJson (a : Annotations) : Json.Value := Dict.toJson .string a

/-- Reads annotations. -/
def decoder : Decoder Annotations := .dictOf .text

end Annotations

namespace Effect

/-- The JSON form of an effect, tagged with its table. -/
def toJson : Effect → Json.Value
  | forward target => .object [("kind", .string "route"), ("target", .string target)]
  | redirect action status =>
    .object [("kind", .string "redirect"), ("action", action.toJson),
      ("status", .number status.toNat)]

/-- Reads an effect by its tag. -/
def decoder : Decoder Effect := .tagged "Extension" "kind"
  [("route", targetReader "struct variant Extension::Route" forward),
   ("redirect", redirectReader "struct variant Extension::Redirect" redirect)]

end Effect

namespace Binding

/-- The JSON form of a binding. -/
def toJson (b : Binding) : Json.Value :=
  .object [("source", .string b.source), ("host", .string b.host), ("path", .string b.path),
    ("annotations", b.annotations.toJson), ("create_time", .number b.since.toNat),
    ("extension", b.effect.toJson)]

/-- A binding as far as its fields have been read. -/
structure Draft where
  source : Option String
  host : Option String
  path : Option String
  annotations : Option Annotations
  since : Option UInt64
  effect : Option Effect

/-- How a binding is read: no field may be left out. -/
def record : Record Decoder Draft Binding where
  title := "struct Declaration"
  fields :=
    [.ofDecoder "source" (·.source) (fun x s => { s with source := some x }) .text,
     .ofDecoder "host" (·.host) (fun x s => { s with host := some x }) .text,
     .ofDecoder "path" (·.path) (fun x s => { s with path := some x }) .text,
     .ofDecoder "annotations" (·.annotations) (fun x s => { s with annotations := some x })
      Annotations.decoder,
     .ofDecoder "create_time" (·.since) (fun x s => { s with since := some x }) .uint64,
     .ofDecoder "extension" (·.effect) (fun x s => { s with effect := some x }) Effect.decoder]
  blank := ⟨none, none, none, none, none, none⟩
  build s := do
    let source ← required "source" s.source
    let host ← required "host" s.host
    let path ← required "path" s.path
    let annotations ← required "annotations" s.annotations
    let since ← required "create_time" s.since
    let effect ← required "extension" s.effect
    return ⟨source, host, path, annotations, since, effect⟩

/-- Reads a binding. -/
def decoder : Decoder Binding := .record record

end Binding

end IngressRouting
