/-
Conditions: the tests on a request that a binding's host, path and annotations
ask for, all of which have to pass. A part that every request passes is left
out of the text, so the condition that always passes is written as nothing.
-/
import IngressRouting.Match.Pattern
import IngressRouting.Match.Trait

namespace IngressRouting

/-- What a request is tested for. -/
inductive Condition
  | host (p : HostPattern)
  | path (p : PathPattern)
  | traits (ts : List Trait)
  | all (cs : List Condition)
  deriving Repr

namespace Condition

/-- The connective between tests that all have to pass. -/
def connective : String := "&&"

/-- Tests joined by the connective; none of them is no test. -/
def join : List String → Option String
  | [] => none
  | t :: ts => some (connective.intercalate (t :: ts))

mutual

/-- The text of a condition; none where every request passes. -/
def render : Condition → Option String
  | host p => p.render
  | path p => p.render
  | traits ts => join (ts.map Trait.render)
  | all cs => join (renderEach cs)

/-- The texts of those conditions that have one. -/
def renderEach : List Condition → List String
  | [] => []
  | c :: cs =>
    match c.render with
    | none => renderEach cs
    | some t => t :: renderEach cs

end

/-- The condition of a host, a path and annotations. The host is looked at
first, then the path, then the annotations. -/
def parse (host path : String) (a : Annotations) : Except Fault Condition := do
  let h ← HostPattern.parse host
  let p ← PathPattern.parse path
  let ts ← a.traits
  return .all [.host h, .path p, .traits ts]

/-- The text of the condition of a host, a path and annotations. -/
def build (host path : String) (a : Annotations) : Except Fault String :=
  (parse host path a).map fun c => c.render.getD ""

end Condition

end IngressRouting
