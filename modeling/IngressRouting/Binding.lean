/-
Bindings: what one source asks for at one host and path. Requests that match
the host, the path and the traits in the annotations get the effect, which is of
the kind of one of the two tables.

Annotations are equal as sets of pairs, because a dictionary keeps its keys in order.
-/
import IngressRouting.Dict

namespace IngressRouting

/-! ## Annotations -/

/-- The annotations of an object, by key. -/
abbrev Annotations := Dict String

namespace Annotations

/-- Routes by the value of a cookie. -/
def cookieKey : String := "bfe.ingress.kubernetes.io/router.cookie"

/-- Routes by the value of a request header. -/
def headerKey : String := "bfe.ingress.kubernetes.io/router.header"

/-- Splits the traffic of a service between sub-services. -/
def weightKey : String := "bfe.ingress.kubernetes.io/balance.weight"

/-- Redirects to a URL of its own. -/
def urlSetKey : String := "bfe.ingress.kubernetes.io/redirect.url-set"

/-- Redirects to the URL in a parameter of the request's query. -/
def urlFromQueryKey : String := "bfe.ingress.kubernetes.io/redirect.url-from-query"

/-- Redirects to the requested path behind a URL. -/
def urlPrefixAddKey : String := "bfe.ingress.kubernetes.io/redirect.url-prefix-add"

/-- Redirects to the same URL in another scheme. -/
def schemeSetKey : String := "bfe.ingress.kubernetes.io/redirect.scheme-set"

/-- Overrides the status a redirect answers with. -/
def responseStatusKey : String := "bfe.ingress.kubernetes.io/redirect.response-status"

/-- Where the outcome for an object is written back to it. -/
def reportKey : String := "bfe.ingress.kubernetes.io/bfe-ingress-status"

/-- Without the report, so that writing one back never changes what an object
asks for. -/
def withoutReport (a : Annotations) : Annotations := a.erase reportKey

end Annotations

/-! ## The two tables -/

/-- The two tables a set of ingress objects is compiled into. -/
inductive TableKind
  | route
  | redirect
  deriving DecidableEq, Repr, Inhabited

/-- The name of a table in messages and in the names of measurements. -/
def TableKind.name : TableKind → String
  | .route => "route"
  | .redirect => "redirect"

/-! ## Redirect actions -/

/-- What a redirect does with the URL of a request. -/
inductive RedirectCommand
  | urlSet
  | urlFromQuery
  | urlPrefixAdd
  | schemeSet
  deriving DecidableEq, Repr, Inhabited

/-- The annotation that selects a command; its value is the parameter. -/
def RedirectCommand.key : RedirectCommand → String
  | urlSet => Annotations.urlSetKey
  | urlFromQuery => Annotations.urlFromQueryKey
  | urlPrefixAdd => Annotations.urlPrefixAddKey
  | schemeSet => Annotations.schemeSetKey

/-- Every command, in the order in which several present at once are listed. -/
def RedirectCommand.every : List RedirectCommand :=
  [.urlSet, .urlFromQuery, .urlPrefixAdd, .schemeSet]

/-- A command with its parameters, as it stands in the redirect table. -/
structure RedirectAction where
  command : RedirectCommand
  params : List String
  deriving DecidableEq, Repr, Inhabited

/-- A redirect that annotations ask for. -/
structure Redirect where
  action : RedirectAction
  status : UInt16
  deriving DecidableEq, Repr

/-! ## Bindings -/

/-- What becomes of a request that matches. -/
inductive Effect
  /-- Send the request to a cluster. -/
  | forward (target : String)
  /-- Answer the request with a redirect. -/
  | redirect (action : RedirectAction) (status : UInt16)
  deriving DecidableEq, Repr

/-- The table that has the effect. -/
def Effect.kind : Effect → TableKind
  | forward _ => .route
  | redirect _ _ => .redirect

/-- What one source asks for at one host and path. -/
structure Binding where
  /-- The key of the ingress object that owns the binding. -/
  source : String
  host : String
  path : String
  annotations : Annotations
  /-- When the owner was created, in Unix seconds. -/
  since : UInt64
  effect : Effect
  deriving DecidableEq

/-- The table that a binding is for. -/
def Binding.kind (b : Binding) : TableKind := b.effect.kind

end IngressRouting
