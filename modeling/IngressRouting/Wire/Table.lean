/-
The JSON form of the tables, and of the editions in which they are published.
-/
import IngressRouting.Edition
import IngressRouting.Table
import IngressRouting.Wire.Binding

namespace IngressRouting

open Json

/-- The JSON form of a split. -/
def Split.toJson (s : Split) : Json.Value := Dict.toJson (fun w : UInt32 => .number w.toNat) s

namespace BasicRow

/-- The JSON form of a basic row. -/
def toJson (r : BasicRow) : Json.Value :=
  .object [("host", .string r.host), ("path", .string r.path), ("cluster", .string r.cluster)]

/-- A basic row as far as its fields have been read. -/
structure Draft where
  host : Option String
  path : Option String
  cluster : Option String

/-- How a basic row is read: no field may be left out. -/
def record : Record Decoder Draft BasicRow where
  title := "struct BasicRouteRule"
  fields :=
    [.ofDecoder "host" (·.host) (fun x s => { s with host := some x }) .text,
     .ofDecoder "path" (·.path) (fun x s => { s with path := some x }) .text,
     .ofDecoder "cluster" (·.cluster) (fun x s => { s with cluster := some x }) .text]
  blank := ⟨none, none, none⟩
  build s := do
    let host ← required "host" s.host
    let path ← required "path" s.path
    let cluster ← required "cluster" s.cluster
    return ⟨host, path, cluster⟩

end BasicRow

namespace AdvancedRow

/-- The JSON form of an advanced row. -/
def toJson (r : AdvancedRow) : Json.Value :=
  .object [("cond", .string r.condition), ("cluster", .string r.cluster)]

/-- An advanced row as far as its fields have been read. -/
structure Draft where
  condition : Option String
  cluster : Option String

/-- How an advanced row is read: no field may be left out. -/
def record : Record Decoder Draft AdvancedRow where
  title := "struct AdvancedRouteRule"
  fields :=
    [.ofDecoder "cond" (·.condition) (fun x s => { s with condition := some x }) .text,
     .ofDecoder "cluster" (·.cluster) (fun x s => { s with cluster := some x }) .text]
  blank := ⟨none, none⟩
  build s := do
    let condition ← required "cond" s.condition
    let cluster ← required "cluster" s.cluster
    return ⟨condition, cluster⟩

end AdvancedRow

namespace RouteTable

/-- The members of the table; splits are left out where there are none. -/
def members (t : RouteTable) : List (String × Json.Value) :=
  [("basic", .list (t.basic.map BasicRow.toJson)),
   ("advanced", .list (t.advanced.map AdvancedRow.toJson))] ++
    if t.balance.isEmpty then [] else [("balance", Dict.toJson Split.toJson t.balance)]

/-- The JSON form of a route table. -/
def toJson (t : RouteTable) : Json.Value := .object t.members

/-- A route table as far as its fields have been read. -/
structure Draft where
  basic : Option (List BasicRow)
  advanced : Option (List AdvancedRow)
  balance : Option (Dict Split)

/-- How a route table is read: only the splits may be left out. -/
def record : Record Decoder Draft RouteTable where
  title := "struct RouteTable"
  fields :=
    [.ofDecoder "basic" (·.basic) (fun x s => { s with basic := some x })
      (.listOf (.record BasicRow.record)),
     .ofDecoder "advanced" (·.advanced) (fun x s => { s with advanced := some x })
      (.listOf (.record AdvancedRow.record)),
     .ofDecoder "balance" (·.balance) (fun x s => { s with balance := some x }) splitsDecoder]
  blank := ⟨none, none, none⟩
  build s := do
    let basic ← required "basic" s.basic
    let advanced ← required "advanced" s.advanced
    return ⟨basic, advanced, s.balance.getD ∅⟩

/-- Reads a route table. -/
def decoder : Decoder RouteTable := .record record

end RouteTable

namespace RedirectRow

/-- The JSON form of a redirect row. -/
def toJson (r : RedirectRow) : Json.Value :=
  .object [("cond", .string r.condition), ("actions", .list (r.actions.map RedirectAction.toJson)),
    ("status", .number r.status.toNat)]

/-- A redirect row as far as its fields have been read. -/
structure Draft where
  condition : Option String
  actions : Option (List RedirectAction)
  status : Option UInt16

/-- How a redirect row is read: no field may be left out. -/
def record : Record Decoder Draft RedirectRow where
  title := "struct RedirectRule"
  fields :=
    [.ofDecoder "cond" (·.condition) (fun x s => { s with condition := some x }) .text,
     .ofDecoder "actions" (·.actions) (fun x s => { s with actions := some x })
      (.listOf RedirectAction.decoder),
     .ofDecoder "status" (·.status) (fun x s => { s with status := some x }) .uint16]
  blank := ⟨none, none, none⟩
  build s := do
    let condition ← required "cond" s.condition
    let actions ← required "actions" s.actions
    let status ← required "status" s.status
    return ⟨condition, actions, status⟩

end RedirectRow

namespace RedirectTable

/-- The members of the table. -/
def members (t : RedirectTable) : List (String × Json.Value) :=
  [("rules", .list (t.rows.map RedirectRow.toJson))]

/-- The JSON form of a redirect table. -/
def toJson (t : RedirectTable) : Json.Value := .object t.members

/-- How a redirect table is read: its rows may not be left out. -/
def record : Record Decoder (Option (List RedirectRow)) RedirectTable where
  title := "struct RedirectTable"
  fields := [.ofDecoder "rules" id (fun x _ => some x) (.listOf (.record RedirectRow.record))]
  blank := none
  build s := (required "rules" s).map .mk

/-- Reads a redirect table. -/
def decoder : Decoder RedirectTable := .record record

end RedirectTable

/-- The version comes first, then the members of the table. -/
def Edition.toJson {α : Type} (members : α → List (String × Json.Value)) (e : Edition α) :
    Json.Value :=
  .object (("version", .number e.version) :: members e.table)

end IngressRouting
