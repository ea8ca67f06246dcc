/-
The gateway: applies changes of ingress objects to both rulebooks and publishes
the tables.

Everything an object asks for comes into force, or nothing does: the changes to
the rulebooks are recorded while an object is applied and taken back where it is
refused. `reconcile` brings the gateway in line with a full list of objects.
-/
import IngressRouting.Dict
import IngressRouting.Edition
import IngressRouting.IngressObject
import IngressRouting.Rulebook
import IngressRouting.Table

namespace IngressRouting

/-! ## Backends -/

/-- The services of each registered source. -/
abbrev Backends := Dict StringSet

namespace Backends

/-- Registers a source, in place of what was known of it. -/
def register (b : Backends) (source : String) (services : List String) : Backends :=
  b.insert source (StringSet.ofList services)

/-- Whether a registered source refers to a service. -/
def isReferenced (b : Backends) (service : String) : Bool :=
  b.values.any (·.contains service)

end Backends

/-! ## Gateways -/

/-- A change of the declared objects. -/
inductive Event
  | upsert (object : IngressObject)
  | delete (namespaceName name : String)
  deriving DecidableEq

/-- The key of the object that an event is about. -/
def Event.source : Event → String
  | upsert object => object.key
  | delete namespaceName name => sourceKey namespaceName name

/-- What became of an event. -/
structure Outcome where
  source : String
  result : Except Rejection Unit

/-- Whether an event was accepted. -/
def Outcome.isOk (o : Outcome) : Bool := o.result.isOk

/-- The split of each cluster. -/
abbrev ClusterSplits := Dict Split

/-- Gives the splits of services to the clusters that the rules send their
traffic to. -/
def clusterSplits (rules : List PathRule) (splits : Dict Split) : Except Fault ClusterSplits :=
  splits.entries.foldlM (fun d (service, split) =>
    match (rules.filter (·.service = service)).map (·.target) with
    | [] =>
      throw (.badValue Annotations.weightKey
        ("service " ++ service ++ " is not a backend of this source"))
    | targets => return targets.foldl (fun d t => d.insert t split) d) ∅

/-- All that is in force, and what is published of it. -/
structure Gateway where
  route : Rulebook
  /-- Absent where redirects are not enabled. -/
  redirect : Option Rulebook
  /-- The splits that each source asks for. -/
  splits : Dict ClusterSplits
  backends : Backends
  routeEdition : Edition RouteTable
  redirectEdition : Edition RedirectTable

/-- What an object comes to before anything is changed. -/
structure Plan where
  source : String
  annotations : Annotations
  since : UInt64
  rules : List PathRule
  redirected : Bool
  splits : Option ClusterSplits

namespace Gateway

/-- The gateway before the first event. -/
def empty (redirectEnabled : Bool) : Gateway where
  route := .empty .route
  redirect := if redirectEnabled then some (.empty .redirect) else none
  splits := ∅
  backends := ∅
  routeEdition := .first .empty
  redirectEdition := .first .empty

/-- Whether redirects are enabled. -/
def redirectEnabled (g : Gateway) : Bool := g.redirect.isSome

/-- Checks the actions first, then the hosts and paths, then the weights. -/
def plan (redirectEnabled : Bool) (o : IngressObject) : Except Rejection Plan := do
  let annotations := o.rules
  let redirected ←
    if redirectEnabled then (·.isSome) <$> annotations.redirectCommand else pure false
  let rules ← o.pathRules.mapError .fault
  let splits ← annotations.weights.mapError .fault
  let splits ← match splits with
    | none => pure none
    | some splits => some <$> (clusterSplits rules splits).mapError .fault
  return ⟨o.key, annotations, o.created, rules, redirected, splits⟩

/-- Both rulebooks. -/
structure Books where
  route : Rulebook
  redirect : Option Rulebook

namespace Books

/-- Does the same to both rulebooks. -/
def map (b : Books) (f : Rulebook → Rulebook) : Books := ⟨f b.route, b.redirect.map f⟩

/-- Puts one rule of a plan, first into the route rulebook and then, where it
redirects, into the other. -/
def putRule (b : Books) (p : Plan) (r : PathRule) : Step Books (Except Rejection Unit) :=
  let route := b.route.bind p.source r.host r.path p.annotations r.target p.since
  match route.answer with
  | .error e => ⟨.error e, { b with route := route.state }, route.samples⟩
  | .ok _ =>
    match if p.redirected then b.redirect else none with
    | none => ⟨.ok (), { b with route := route.state }, route.samples⟩
    | some book =>
      let redirect := book.bind p.source r.host r.path p.annotations "" p.since
      ⟨redirect.answer.map fun _ => (), ⟨route.state, some redirect.state⟩,
        route.samples ++ redirect.samples⟩

/-- Puts rules up to the first that is refused. -/
def putRules (b : Books) (p : Plan) : List PathRule → Step Books (Except Rejection Unit)
  | [] => ⟨.ok (), b, []⟩
  | r :: rs =>
    let first := b.putRule p r
    match first.answer with
    | .error e => ⟨.error e, first.state, first.samples⟩
    | .ok () =>
      let rest := first.state.putRules p rs
      ⟨rest.answer, rest.state, first.samples ++ rest.samples⟩

/-- The tables of both rulebooks. -/
def render (b : Books) (balance : ClusterSplits) :
    Except Rejection (RouteTable × Option RedirectTable) × List Sample :=
  match b.route.compile with
  | (.error e, samples) => (.error e, samples)
  | (.ok rules, samples) =>
    let table := RouteTable.ofRules rules balance
    match b.redirect with
    | none => (.ok (table, none), samples)
    | some book =>
      match book.compile with
      | (.error e, more) => (.error e, samples ++ more)
      | (.ok rules, more) =>
        (.ok (table, some (RedirectTable.ofRules rules)), samples ++ more)

end Books

/-- The rulebooks of a gateway. -/
def books (g : Gateway) : Books := ⟨g.route, g.redirect⟩

/-- The gateway with other rulebooks. -/
def withBooks (g : Gateway) (b : Books) : Gateway :=
  { g with route := b.route, redirect := b.redirect }

/-- The splits of all sources; on a cluster that several split, the last source
by key counts. -/
def balance (splits : Dict ClusterSplits) : ClusterSplits :=
  splits.values.foldl Dict.override ∅

/-- Publishes tables. Without a redirect table the published one stays. -/
def publish (g : Gateway) (tables : RouteTable × Option RedirectTable) : Gateway :=
  { g with
    routeEdition := g.routeEdition.publish tables.1
    redirectEdition := match tables.2 with
      | none => g.redirectEdition
      | some t => g.redirectEdition.publish t }

/-- Puts everything that an object asks for in the place of what its source asked for, up to what
is wrong with it. The new splits are written before the tables are rendered. -/
def attempt (g : Gateway) (o : IngressObject) :
    Step Gateway (Except Rejection (RouteTable × Option RedirectTable)) :=
  match plan g.redirectEnabled o with
  | .error e => ⟨.error e, g, []⟩
  | .ok p =>
    let put := (g.books.map (·.removeSource p.source)).putRules p p.rules
    let g := g.withBooks put.state
    match put.answer with
    | .error e => ⟨.error e, g, put.samples⟩
    | .ok () =>
      let g := { g with splits := g.splits.put p.source p.splits }
      let rendered := g.books.render (balance g.splits)
      ⟨rendered.1, g, put.samples ++ rendered.2⟩

/-- Takes an attempt back: the rulebooks are those from before, and the source has the splits
that it had. -/
def refuse (g : Gateway) (source : String) (prior : Option ClusterSplits) : Gateway :=
  { g.withBooks (g.books.map Rulebook.rollback) with splits := g.splits.put source prior }

/-- Keeps what was attempted, and registers the source with the services it refers to. -/
def keep (g : Gateway) (source : String) (services : List String) : Gateway :=
  { g.withBooks (g.books.map Rulebook.commit) with
    backends := g.backends.register source services }

/-- Replaces everything that the object's source asked for. Where the object is
refused, all is put back as it was. -/
def upsert (g : Gateway) (o : IngressObject) : Step Gateway (Except Rejection Unit) :=
  let prior := g.splits.get? o.key
  let attempt := (g.withBooks (g.books.map Rulebook.begin)).attempt o
  match attempt.answer with
  | .error e => ⟨.error e, attempt.state.refuse o.key prior, attempt.samples⟩
  | .ok tables =>
    let g := attempt.state.keep o.key o.services
    ⟨.ok (), g.publish tables, attempt.samples ++ [.sources g.backends.size]⟩

/-- Removes everything that a source asked for. -/
def delete (g : Gateway) (namespaceName name : String) :
    Step Gateway (Except Rejection Unit) :=
  let source := sourceKey namespaceName name
  let registered := g.backends.contains source
  let backends := g.backends.erase source
  let g := { g.withBooks (g.books.map (·.removeSource source)) with
    splits := g.splits.erase source, backends := backends }
  let removed := if registered then [.sources backends.size] else []
  match g.books.render (balance g.splits) with
  | (.error e, samples) => ⟨.error e, g, removed ++ samples⟩
  | (.ok tables, samples) => ⟨.ok (), g.publish tables, removed ++ samples⟩

/-- Applies one event. -/
def applyEvent (g : Gateway) : Event → Step Gateway (Except Rejection Unit)
  | .upsert object => g.upsert object
  | .delete namespaceName name => g.delete namespaceName name

/-- Applies each event by itself, whatever becomes of the others. -/
def apply (g : Gateway) : List Event → Step Gateway (List Outcome)
  | [] => ⟨[], g, []⟩
  | e :: es =>
    let first := g.applyEvent e
    let rest := first.state.apply es
    ⟨⟨e.source, first.answer⟩ :: rest.answer, rest.state, first.samples ++ rest.samples⟩

/-- Every source that is registered or owns a binding, in ascending order. -/
def knownSources (g : Gateway) : List String :=
  let owners := (g.redirect.map (·.roster.sources)).getD []
  (StringSet.ofList (g.backends.keys ++ g.route.roster.sources ++ owners)).keys

/-- The event that removes a source. -/
def removal? (source : String) : Option Event :=
  (cut '/' source).map fun (namespaceName, name) => .delete namespaceName name

/-- Whether an object is applied no later than another: the older one first,
and by key among those of equal age. -/
def appliedBefore (a b : IngressObject) : Bool :=
  a.created < b.created || (a.created == b.created && !(decide (b.key < a.key)))

/-- The events that bring the gateway in line with a full list of objects: the
objects in order, then the removal of every source that is not among them. -/
def reconciliation (g : Gateway) (objects : List IngressObject) : List Event :=
  let objects := objects.mergeSort appliedBefore
  let present := StringSet.ofList (objects.map IngressObject.key)
  let stale := g.knownSources.filter fun s => !present.contains s
  objects.map .upsert ++ stale.filterMap removal?

/-- Brings the gateway in line with a full list of objects. -/
def reconcile (g : Gateway) (objects : List IngressObject) : Step Gateway (List Outcome) :=
  g.apply (g.reconciliation objects)

/-- Whether an object is registered. -/
def containsSource (g : Gateway) (namespaceName name : String) : Bool :=
  g.backends.contains (sourceKey namespaceName name)

/-- Whether a registered source refers to a service of a namespace. -/
def isServiceReferenced (g : Gateway) (namespaceName service : String) : Bool :=
  g.backends.isReferenced (sourceKey namespaceName service)

end Gateway

end IngressRouting
