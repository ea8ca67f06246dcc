/-
Compiled rules: every binding with the text of its condition, in two tiers.

A host and path with a single binding that asks for no traits is basic: looking up the
host and the path is enough. Every other host and path is deferred: its basic entry is a
placeholder, which only says that conditions have to be evaluated, and its bindings go
to the advanced tier. There they are tried in order of precedence: more specific hosts
first, then more specific paths, then more traits, then the older binding. Bindings equal
in all of these keep the order they had.
-/
import IngressRouting.Binding
import IngressRouting.Match.Condition
import IngressRouting.Match.Pattern
import IngressRouting.Match.Trait
import IngressRouting.Roster

namespace IngressRouting.Precedence

/-! ## Precedence -/

/-- Texts that stand for one thing come before those that stand for many, and
longer texts before shorter ones. Length is counted in UTF-8 bytes. -/
def bySpecificity (standsForMany : String → Bool) (a b : String) : Ordering :=
  match standsForMany a, standsForMany b with
  | false, true => .lt
  | true, false => .gt
  | _, _ => compare b.utf8ByteSize a.utf8ByteSize

/-- How two bindings compare: the lesser one is tried first. -/
def order (a b : Binding) : Ordering :=
  (bySpecificity HostPattern.isWildcardText a.host b.host).then
    ((bySpecificity PathPattern.isMarkedText a.path b.path).then
      ((compare b.annotations.traitClass.rank a.annotations.traitClass.rank).then
        (compare a.since b.since)))

/-- Sorts by precedence; equals stay in order. -/
def sort (bs : List Binding) : List Binding :=
  bs.mergeSort fun a b => order a b != .gt

end IngressRouting.Precedence

namespace IngressRouting

/-! ## Tiers -/

/-- The entry of one host and path in the basic tier. -/
structure BasicEntry where
  /-- The binding, or the first of several. -/
  binding : Binding
  deferred : Bool

/-- The bindings of a roster in two tiers. -/
structure Tiers where
  basic : List BasicEntry
  advanced : List Binding

namespace Site

/-- Whether conditions have to be evaluated to choose among the bindings. -/
def deferred (s : Site) : Bool :=
  match s.bindings with
  | [b] => b.annotations.traitClass != .none
  | _ => true

/-- The entry of a host and path; none where there are no bindings. -/
def basicEntry? (s : Site) : Option BasicEntry :=
  s.bindings.head?.map fun b => ⟨b, s.deferred⟩

end Site

/-- The tiers of a roster. Hosts and paths go in their order, deferred bindings by precedence. -/
def Roster.tiers (r : Roster) : Tiers :=
  let sites := r.toSites
  ⟨sites.filterMap Site.basicEntry?,
    Precedence.sort ((sites.filter Site.deferred).flatMap (·.bindings))⟩

/-! ## Rules -/

/-- What becomes of a request that a rule is for. -/
inductive RuleAction
  | forward (target : String)
  /-- A placeholder: the advanced tier decides. -/
  | defer
  | redirect (action : RedirectAction) (status : UInt16)
  deriving DecidableEq, Repr

/-- The action of a rule that stands for a binding. -/
def Effect.toAction : Effect → RuleAction
  | .forward target => .forward target
  | .redirect action status => .redirect action status

/-- A compiled binding, or the placeholder of several. -/
structure Rule where
  source : String
  host : String
  path : String
  condition : String
  action : RuleAction
  deriving DecidableEq, Repr

/-- Whether a rule leaves the decision to others. -/
def Rule.isPlaceholder (r : Rule) : Bool := r.action = .defer

/-- The compiled rules of one table. -/
structure Rules where
  basic : List Rule
  /-- In order of precedence. -/
  advanced : List Rule
  deriving DecidableEq, Repr

/-- The rule of a binding, if its condition can be built. -/
def Binding.rule (b : Binding) : Except Fault Rule := do
  return ⟨b.source, b.host, b.path, ← Condition.build b.host b.path b.annotations, b.effect.toAction⟩

/-- The condition of a placeholder tests the host and the path only. -/
def BasicEntry.rule (e : BasicEntry) : Except Fault Rule :=
  if e.deferred then do
    let b := e.binding
    return ⟨b.source, b.host, b.path, ← Condition.build b.host b.path ∅, .defer⟩
  else e.binding.rule

/-- The rules of a roster, all of them or none. -/
def Roster.rules (r : Roster) : Except Fault Rules := do
  let tiers := r.tiers
  let basic ← tiers.basic.mapM BasicEntry.rule
  let advanced ← tiers.advanced.mapM Binding.rule
  return ⟨basic, advanced⟩

end IngressRouting
