/-
Ingress objects: what a user asks for at some hosts and paths. Every path goes
to a service of the object's namespace.
-/
import IngressRouting.Binding
import IngressRouting.Match.Pattern

namespace IngressRouting

/-- What a path entry says of the paths it is for. -/
inductive PathType
  | exact
  | below
  | implementationSpecific
  deriving DecidableEq, Repr

/-- A service with the port that is meant, where there is one. -/
structure ServiceRef where
  service : String
  port : Option UInt16
  deriving DecidableEq, Repr

/-- The cluster that stands for a service in a namespace. -/
def ServiceRef.cluster (r : ServiceRef) (namespaceName : String) : String :=
  let name := namespaceName ++ "_" ++ r.service
  match r.port with
  | none => name
  | some p => name ++ "_" ++ toString p.toNat

/-- One path of a host, and where its requests go. -/
structure PathEntry where
  path : String
  pathType : Option PathType
  backend : ServiceRef
  deriving DecidableEq, Repr

/-- One host, and its paths. -/
structure HostEntry where
  /-- Empty for every host. -/
  host : String
  paths : List PathEntry
  deriving DecidableEq, Repr

/-- An ingress object, as it is declared. -/
structure IngressObject where
  namespaceName : String
  name : String
  annotations : Annotations
  /-- When the object was created, in Unix seconds. -/
  created : UInt64
  hosts : List HostEntry
  deriving DecidableEq

/-- The key of a namespaced name. -/
def sourceKey (namespaceName name : String) : String := namespaceName ++ "/" ++ name

/-- What an object asks for at one host and path. -/
structure PathRule where
  host : String
  /-- With a marker where it stands for every path below it. -/
  path : String
  service : String
  target : String
  deriving DecidableEq, Repr

/-- The host as it is kept, with `*` for an empty one. -/
def checkHost (host : String) : Except Fault String :=
  if host = "" then .ok HostPattern.anyText
  else (HostPattern.parse host).map fun _ => host

/-- Objects write their paths without markers. -/
def checkPath (path : String) : Except Fault Unit :=
  if path = "" then .error .emptyPath
  else if '*' ∈ path.toList then .error (.illegalPath path)
  else .ok ()

/-- The path with a marker unless it is to match exactly. -/
def PathEntry.text (p : PathEntry) : String :=
  if p.pathType = some .exact then p.path else PathPattern.markText p.path

namespace IngressObject

/-- The key of an object among the sources. -/
def key (o : IngressObject) : String := sourceKey o.namespaceName o.name

/-- The annotations that count. -/
def rules (o : IngressObject) : Annotations := o.annotations.withoutReport

/-- The rule of one path entry, if its path is one. -/
def pathRule (o : IngressObject) (host : String) (p : PathEntry) : Except Fault PathRule := do
  checkPath p.path
  return ⟨host, p.text, p.backend.service, p.backend.cluster o.namespaceName⟩

/-- A host without paths asks for nothing and is not looked at. -/
def hostRules (o : IngressObject) (h : HostEntry) : Except Fault (List PathRule) :=
  if h.paths.isEmpty then .ok []
  else do
    let host ← checkHost h.host
    h.paths.mapM (o.pathRule host)

/-- What the object asks for, in the order in which it is written. -/
def pathRules (o : IngressObject) : Except Fault (List PathRule) := do
  return (← o.hosts.mapM o.hostRules).flatten

/-- The services referred to, in the order in which they are written. -/
def services (o : IngressObject) : List String :=
  o.hosts.flatMap fun h => h.paths.map fun p => sourceKey o.namespaceName p.backend.service

end IngressObject

end IngressRouting
