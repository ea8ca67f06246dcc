/-
The tables that rules are compiled to. The route table has clusters by host and path,
then conditions in the order in which they are tried, and how the traffic of a cluster is
split. The redirect table has conditions with what they answer, in the order in which they
are tried.
-/
import IngressRouting.Rules
import IngressRouting.Weights

namespace IngressRouting

/-! ## The route table -/

/-- The cluster of a placeholder: the advanced rows decide. -/
def deferCluster : String := "ADVANCED_MODE"

/-- A row for one host and path: where its requests go. -/
structure BasicRow where
  host : String
  path : String
  cluster : String
  deriving DecidableEq, Repr

/-- A row for one condition: where the requests that pass it go. -/
structure AdvancedRow where
  condition : String
  cluster : String
  deriving DecidableEq, Repr

/-- The table that requests are routed by. -/
structure RouteTable where
  basic : List BasicRow
  advanced : List AdvancedRow
  /-- The split of each cluster that has one. -/
  balance : Dict Split
  deriving DecidableEq

namespace RouteTable

/-- The route table without rows. -/
def empty : RouteTable := ⟨[], [], ∅⟩

/-- The row of a basic rule. Redirects have none. -/
def basicRow? (r : Rule) : Option BasicRow :=
  match r.action with
  | .forward target => some ⟨r.host, r.path, target⟩
  | .defer => some ⟨r.host, r.path, deferCluster⟩
  | .redirect _ _ => none

/-- The row of an advanced rule. Placeholders and redirects have none. -/
def advancedRow? (r : Rule) : Option AdvancedRow :=
  match r.action with
  | .forward target => some ⟨r.condition, target⟩
  | _ => none

/-- The table of compiled rules, with the split of each cluster. -/
def ofRules (rules : Rules) (balance : Dict Split) : RouteTable :=
  ⟨rules.basic.filterMap basicRow?, rules.advanced.filterMap advancedRow?, balance⟩

/-- The number of rows. -/
def size (t : RouteTable) : Nat := t.basic.length + t.advanced.length

end RouteTable

/-! ## The redirect table -/

/-- A row for one condition: what is answered to the requests that pass it. -/
structure RedirectRow where
  condition : String
  actions : List RedirectAction
  status : UInt16
  deriving DecidableEq, Repr

/-- The table that requests are redirected by. -/
structure RedirectTable where
  rows : List RedirectRow
  deriving DecidableEq, Repr

namespace RedirectTable

/-- The redirect table without rows. -/
def empty : RedirectTable := ⟨[]⟩

/-- The row of a rule that redirects. -/
def row? (r : Rule) : Option RedirectRow :=
  match r.action with
  | .redirect action status => some ⟨r.condition, [action], status⟩
  | _ => none

/-- The basic rules come first; placeholders are left out. -/
def ofRules (rules : Rules) : RedirectTable :=
  ⟨(rules.basic ++ rules.advanced).filterMap row?⟩

/-- The number of redirects. -/
def size (t : RedirectTable) : Nat := t.rows.length

end RedirectTable

end IngressRouting
