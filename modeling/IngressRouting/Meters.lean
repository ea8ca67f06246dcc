/-
Measurements. Operations say what they measured as samples; the meters add up
counters and keep the last value of gauges. A series is there once it has been
touched.
-/
import IngressRouting.Binding
import IngressRouting.Dict

namespace IngressRouting

/-- A measurement, made while something is done. -/
inductive Sample
  /-- A binding was put with this outcome. -/
  | put (kind : TableKind) (outcome : String)
  /-- A binding was refused for a conflict. -/
  | conflict (kind : TableKind)
  /-- A table was compiled, or could not be. -/
  | compile (kind : TableKind) (ok : Bool)
  /-- The sizes of the two tiers of a compiled table. -/
  | rules (kind : TableKind) (basic advanced : Nat)
  /-- How many sources are registered. -/
  | sources (n : Nat)
  deriving DecidableEq, Repr

/-- The value of each series by its name and labels. -/
abbrev Meters := Dict Nat

namespace Meters

/-- The name of a series with its labels. -/
def series (name : String) (labels : List (String × String)) : String :=
  name ++ "\x7b" ++ ",".intercalate (labels.map fun (k, v) => k ++ "=" ++ v) ++ "\x7d"

/-- Counts one more in a series. -/
def count (m : Meters) (name : String) : Meters := m.insert name ((m.get? name).getD 0 + 1)

/-- The counter of bindings put with an outcome. -/
def putSeries (kind : TableKind) (outcome : String) : String :=
  series "rule_compiler_puts_total" [("kind", kind.name), ("outcome", outcome)]

/-- The counter of bindings refused for a conflict. -/
def conflictSeries (kind : TableKind) : String :=
  series "rule_compiler_conflicts_total" [("kind", kind.name)]

/-- The counter of compilations with a result. -/
def compileSeries (kind : TableKind) (ok : Bool) : String :=
  series "rule_compiler_compiles_total"
    [("kind", kind.name), ("result", if ok then "ok" else "error")]

/-- The gauge of the rules in one tier of a table. -/
def ruleSeries (kind : TableKind) (tier : String) : String :=
  series "rule_compiler_rules" [("kind", kind.name), ("set", tier)]

/-- The gauge of the sources that are registered. -/
def sourceSeries : String := series "rule_compiler_sources" []

/-- Enters a measurement: counters go up, and gauges are set. -/
def record (m : Meters) : Sample → Meters
  | .put kind outcome => m.count (putSeries kind outcome)
  | .conflict kind => m.count (conflictSeries kind)
  | .compile kind ok => m.count (compileSeries kind ok)
  | .rules kind basic advanced =>
    (m.insert (ruleSeries kind "basic") basic).insert (ruleSeries kind "advanced") advanced
  | .sources n => m.insert sourceSeries n

/-- Enters measurements one after the other. -/
def recordAll (m : Meters) (samples : List Sample) : Meters := samples.foldl record m

end Meters

/-- What an operation leaves behind: its answer, the new state, and the samples
it took on the way, in order. -/
structure Step (σ α : Type) where
  answer : α
  state : σ
  samples : List Sample

end IngressRouting
