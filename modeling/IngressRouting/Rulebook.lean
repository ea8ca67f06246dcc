/-
A rulebook: the roster behind one table. A binding is checked before it gets to
the roster, so that what is in the roster can always be compiled.
-/
import IngressRouting.Meters
import IngressRouting.Redirect
import IngressRouting.Rules
import IngressRouting.Weights

namespace IngressRouting

/-- The bindings of one table. -/
structure Rulebook where
  kind : TableKind
  roster : Roster

namespace Rulebook

/-- The rulebook without bindings. -/
def empty (kind : TableKind) : Rulebook := ⟨kind, .empty⟩

/-- The effect of a binding: a route goes to the target, and a redirect is what
the annotations say. -/
def effect (kind : TableKind) (a : Annotations) (target : String) : Except Rejection Effect :=
  match kind with
  | .route => .ok (.forward target)
  | .redirect =>
    match a.redirect with
    | .error e => .error e
    | .ok none => .error (.fault .noRedirectAction)
    | .ok (some r) => .ok (.redirect r.action r.status)

/-- The binding as it is kept, with `*` for an empty host, if it is one of this
kind and says nothing wrong. -/
def check (kind : TableKind) (b : Binding) : Except Fault Binding := do
  let b := if b.host = "" then { b with host := HostPattern.anyText } else b
  if b.kind ≠ kind then throw (.wrongKind kind b.kind)
  let _ ← Condition.build b.host b.path b.annotations
  if kind = .route then
    let _ ← b.annotations.weights
  return b

/-- Puts a binding that passes the check into the roster, and measures what became of it. -/
def put (r : Rulebook) (b : Binding) : Step Rulebook (Except Rejection Admission) :=
  match check r.kind b with
  | .error f => ⟨.error (.fault f), r, []⟩
  | .ok b =>
    match r.roster.put b with
    | (.ok a, roster) => ⟨.ok a, { r with roster := roster }, [.put r.kind a.name]⟩
    | (.error c, roster) => ⟨.error (.conflict c), { r with roster := roster }, [.conflict r.kind]⟩

/-- Puts the binding of a source at a host and path. -/
def bind (r : Rulebook) (source host path : String) (a : Annotations) (target : String)
    (since : UInt64) : Step Rulebook (Except Rejection Admission) :=
  match effect r.kind a target with
  | .error e => ⟨.error e, r, []⟩
  | .ok effect => r.put ⟨source, host, path, a, since, effect⟩

/-- Removes the bindings of a source. -/
def removeSource (r : Rulebook) (source : String) : Rulebook :=
  { r with roster := (r.roster.removeSource source).2 }

/-- Whether a source owns a binding in the rulebook. -/
def containsSource (r : Rulebook) (source : String) : Bool := r.roster.containsSource source

/-- Opens the journal of the roster. -/
def begin (r : Rulebook) : Rulebook := { r with roster := r.roster.begin }

/-- Closes the journal, and keeps the changes. -/
def commit (r : Rulebook) : Rulebook := { r with roster := r.roster.commit }

/-- Closes the journal, and takes the changes back. -/
def rollback (r : Rulebook) : Rulebook := { r with roster := r.roster.rollback.2 }

/-- Compiles the rules, and measures them. -/
def compile (r : Rulebook) : Except Rejection Rules × List Sample :=
  match r.roster.rules with
  | .ok rules =>
    (.ok rules, [.compile r.kind true, .rules r.kind rules.basic.length rules.advanced.length])
  | .error f => (.error (.fault f), [.compile r.kind false])

end Rulebook

end IngressRouting
