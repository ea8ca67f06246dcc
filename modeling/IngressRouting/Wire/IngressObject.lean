/-
The JSON form of ingress objects. All but the namespace and the name of an
object may be left out, and all but the service of a backend.
-/
import IngressRouting.IngressObject
import IngressRouting.Wire.Binding

namespace IngressRouting

open Json

namespace PathType

/-- The name of a path type in JSON. -/
def wireName : PathType → String
  | exact => "Exact"
  | below => "Prefix"
  | implementationSpecific => "ImplementationSpecific"

/-- The path types by their names. -/
def known : List (String × PathType) :=
  [exact, below, implementationSpecific].map fun t => (t.wireName, t)

end PathType

/-- A value, or null for none. -/
def optionJson {α : Type} (write : α → Json.Value) : Option α → Json.Value
  | none => .null
  | some a => write a

namespace ServiceRef

/-- The JSON form of a service. -/
def toJson (r : ServiceRef) : Json.Value :=
  .object [("service", .string r.service),
    ("port", optionJson (fun p : UInt16 => .number p.toNat) r.port)]

/-- A service as far as its fields have been read. -/
structure Draft where
  service : Option String
  port : Option (Option UInt16)

/-- How a service is read: it need not have a port. -/
def record : Record Decoder Draft ServiceRef where
  title := "struct ServiceBackend"
  fields :=
    [.ofDecoder "service" (·.service) (fun x s => { s with service := some x }) .text,
     .ofDecoder "port" (·.port) (fun x s => { s with port := some x }) (.optional .uint16)]
  blank := ⟨none, none⟩
  build s := do
    let service ← required "service" s.service
    return ⟨service, s.port.getD none⟩

end ServiceRef

namespace PathEntry

/-- The JSON form of a path entry. -/
def toJson (p : PathEntry) : Json.Value :=
  .object [("path", .string p.path),
    ("path_type", optionJson (fun t : PathType => .string t.wireName) p.pathType),
    ("backend", p.backend.toJson)]

/-- A path entry as far as its fields have been read. -/
structure Draft where
  path : Option String
  pathType : Option (Option PathType)
  backend : Option ServiceRef

/-- How a path entry is read: it need not have a type. -/
def record : Record Decoder Draft PathEntry where
  title := "struct HttpPath"
  fields :=
    [.ofDecoder "path" (·.path) (fun x s => { s with path := some x }) .text,
     .ofDecoder "path_type" (·.pathType) (fun x s => { s with pathType := some x })
      (.optional (.variant PathType.known)),
     .ofDecoder "backend" (·.backend) (fun x s => { s with backend := some x })
      (.record ServiceRef.record)]
  blank := ⟨none, none, none⟩
  build s := do
    let path ← required "path" s.path
    let backend ← required "backend" s.backend
    return ⟨path, s.pathType.getD none, backend⟩

end PathEntry

namespace HostEntry

/-- The JSON form of a host with its paths. -/
def toJson (h : HostEntry) : Json.Value :=
  .object [("host", .string h.host), ("paths", .list (h.paths.map PathEntry.toJson))]

/-- A host as far as its fields have been read. -/
structure Draft where
  host : Option String
  paths : Option (List PathEntry)

/-- How a host is read: both fields may be left out. -/
def record : Record Decoder Draft HostEntry where
  title := "struct HostRule"
  fields :=
    [.ofDecoder "host" (·.host) (fun x s => { s with host := some x }) .text,
     .ofDecoder "paths" (·.paths) (fun x s => { s with paths := some x })
      (.listOf (.record PathEntry.record))]
  blank := ⟨none, none⟩
  build s := .ok ⟨s.host.getD "", s.paths.getD []⟩

end HostEntry

namespace IngressObject

/-- The JSON form of an ingress object. -/
def toJson (o : IngressObject) : Json.Value :=
  .object [("namespace", .string o.namespaceName), ("name", .string o.name),
    ("annotations", o.annotations.toJson), ("creation_timestamp", .number o.created.toNat),
    ("rules", .list (o.hosts.map HostEntry.toJson))]

/-- An ingress object as far as its fields have been read. -/
structure Draft where
  namespaceName : Option String
  name : Option String
  annotations : Option Annotations
  created : Option UInt64
  hosts : Option (List HostEntry)

/-- How an ingress object is read: it has to have its names. -/
def record : Record Decoder Draft IngressObject where
  title := "struct SourceObject"
  fields :=
    [.ofDecoder "namespace" (·.namespaceName) (fun x s => { s with namespaceName := some x }) .text,
     .ofDecoder "name" (·.name) (fun x s => { s with name := some x }) .text,
     .ofDecoder "annotations" (·.annotations) (fun x s => { s with annotations := some x })
      Annotations.decoder,
     .ofDecoder "creation_timestamp" (·.created) (fun x s => { s with created := some x }) .uint64,
     .ofDecoder "rules" (·.hosts) (fun x s => { s with hosts := some x })
      (.listOf (.record HostEntry.record))]
  blank := ⟨none, none, none, none, none⟩
  build s := do
    let namespaceName ← required "namespace" s.namespaceName
    let name ← required "name" s.name
    return ⟨namespaceName, name, s.annotations.getD ∅, s.created.getD 0, s.hosts.getD []⟩

/-- Reads an ingress object. -/
def decoder : Decoder IngressObject := .record record

end IngressObject

end IngressRouting
