/-
What a gateway does not depend on: the order in which a snapshot lists its objects and a
roster its owners (`Reachable.reconcile_perm`), and the reports that are written back to
objects (`trace_eq_of_sameRequests`).

Objects are applied in an order of their own, which leaves nothing open where no two of them
agree in both age and key, and what is stale is sorted before it is removed. Reports are taken
off before anything looks at the annotations, so an operation is the same for an object and
for its request, which is the object without its report.
-/
import IngressRouting.Proofs.Gateway.Accounts
import IngressRouting.Proofs.Gateway.Operations
import IngressRouting.Wire.Report

namespace IngressRouting

namespace Gateway

variable {enabled : Bool} {g : Gateway} {objects objects' : List IngressObject} {known : List String}

/-! ## The order of a snapshot -/

/-- The events of a reconciliation, with the sources that are known in whatever order they come. -/
def reconciliationOf (known : List String) (objects : List IngressObject) : List Event :=
  let present := StringSet.ofList ((inOrder objects).map IngressObject.key)
  let stale := (StringSet.ofList known).keys.filter fun s => !present.contains s
  (inOrder objects).map .upsert ++ stale.filterMap removal?

theorem keys_ofList_eq {ks : List String} (h : ∀ s, s ∈ known ↔ s ∈ ks) :
    (StringSet.ofList known).keys = (StringSet.ofList ks).keys :=
  Dict.keys_ext fun s => by
    rw [Bool.eq_iff_iff, StringSet.contains_ofList, StringSet.contains_ofList, h]

theorem reconciliation_eq (h : ∀ s, s ∈ known ↔ s ∈ g.knownSources) :
    g.reconciliation objects = reconciliationOf known objects := by
  have hkeys : (StringSet.ofList known).keys = g.knownSources := by
    rw [knownSources]
    refine keys_ofList_eq fun s => ?_
    rw [h, knownSources, Dict.mem_keys_iff, StringSet.contains_ofList]
  rw [reconciliationOf, hkeys]
  rfl

/-- **The order of a snapshot does not matter.** After any run, reconciling two snapshots that
list the same objects in different orders, no two of one age and key, gives the same outcomes
in the same order, the same gateway and the same measurements. Nor does it matter in which
order the sources that are known are gone through. -/
theorem Reachable.reconcile_perm (h : Reachable enabled g) (hp : objects.Perm objects')
    (hd : (objects.map fun o => (o.created, o.key)).Nodup) :
    g.reconcile objects = g.reconcile objects' ∧ ∀ known, (∀ s, s ∈ known ↔ g.Knows s) →
      g.apply (reconciliationOf known objects') = g.reconcile objects := by
  have hsame : g.reconciliation objects = g.reconciliation objects' := by
    have horder := inOrder_eq_of_perm hp hd
    rw [inOrder, inOrder] at horder
    rw [reconciliation, reconciliation, horder]
  refine ⟨?_, fun known hknown => ?_⟩
  · rw [Gateway.reconcile, Gateway.reconcile, hsame]
  · have hlisted : ∀ s, s ∈ known ↔ s ∈ g.knownSources := fun s => by
      rw [hknown, h.knows_iff, h.registered.mem_knownSources]
    rw [Gateway.reconcile, hsame, reconciliation_eq hlisted]

/-- Two objects of one age, and two of one key, in both orders; the source that is gone may be
gone through twice. -/
theorem reconcile_perm_repeated :
    let g := ((Gateway.empty true).upsert (plainObject "c" 3)).state
    let objects := [plainObject "b" 1, plainObject "a" 2, plainObject "a" 1]
    let objects' := [plainObject "a" 2, plainObject "b" 1, plainObject "a" 1]
    (∀ s, s ∈ ["ns/c", "ns/c"] ↔ g.Knows s) ∧ g.reconcile objects = g.reconcile objects' ∧
      g.apply (reconciliationOf ["ns/c", "ns/c"] objects') = g.reconcile objects := by
  have hg : Reachable true ((Gateway.empty true).upsert (plainObject "c" 3)).state :=
    .upsert .empty (plainObject "c" 3)
  have hkeys : ((Gateway.empty true).upsert (plainObject "c" 3)).state.backends.keys = ["ns/c"] := by decide +kernel
  have hknown : ∀ s, s ∈ ["ns/c", "ns/c"] ↔
      ((Gateway.empty true).upsert (plainObject "c" 3)).state.Knows s := fun s => by
    rw [hg.knows_iff, ← Dict.mem_keys_iff, hkeys]
    simp
  obtain ⟨hsame, hlisted⟩ := Reachable.reconcile_perm hg
    (.swap (plainObject "a" 2) (plainObject "b" 1) [plainObject "a" 1]) (by decide)
  exact ⟨hknown, hsame, hlisted _ hknown⟩

end Gateway

/-! ## Requests -/

/-- Two objects that differ in their reports at most. -/
structure IngressObject.SameRequest (o o' : IngressObject) : Prop where
  namespaceName : o.namespaceName = o'.namespaceName
  name : o.name = o'.name
  created : o.created = o'.created
  hosts : o.hosts = o'.hosts
  annotations : ∀ k, k ≠ Annotations.reportKey → o.annotations.get? k = o'.annotations.get? k

/-- Two events that differ in the reports of their objects at most. -/
inductive Event.SameRequest : Event → Event → Prop
  | upsert {o o' : IngressObject} (h : o.SameRequest o') : SameRequest (.upsert o) (.upsert o')
  | delete (namespaceName name : String) :
    SameRequest (.delete namespaceName name) (.delete namespaceName name)

/-- Two operations that differ in the reports of their objects at most. -/
inductive Operation.SameRequest : Operation → Operation → Prop
  | upsert {o o' : IngressObject} (h : o.SameRequest o') : SameRequest (.upsert o) (.upsert o')
  | delete (namespaceName name : String) :
    SameRequest (.delete namespaceName name) (.delete namespaceName name)
  | apply {es es' : List Event} (h : List.Forall₂ Event.SameRequest es es') :
    SameRequest (.apply es) (.apply es')
  | reconcile {os os' : List IngressObject} (h : List.Forall₂ IngressObject.SameRequest os os') :
    SameRequest (.reconcile os) (.reconcile os')

/-- The object with a report written back to it. -/
def IngressObject.reported (o : IngressObject) (r : Report) : IngressObject :=
  { o with annotations := o.annotations.insert Annotations.reportKey r.render }

/-- The object without its report. -/
def IngressObject.request (o : IngressObject) : IngressObject := { o with annotations := o.rules }

/-- The event without the report of its object. -/
def Event.request : Event → Event
  | .upsert o => .upsert o.request
  | .delete namespaceName name => .delete namespaceName name

/-- The operation without the reports of its objects. -/
def Operation.request : Operation → Operation
  | .upsert o => .upsert o.request
  | .delete namespaceName name => .delete namespaceName name
  | .apply es => .apply (es.map Event.request)
  | .reconcile os => .reconcile (os.map IngressObject.request)

section request

theorem map_eq_of_forall₂ {α β : Type} {R : α → α → Prop} {f : α → β} (hf : ∀ a b, R a b → f a = f b)
    {as bs : List α} (h : List.Forall₂ R as bs) : as.map f = bs.map f := by
  induction h with
  | nil => rfl
  | cons hab _ ih => rw [List.map_cons, List.map_cons, hf _ _ hab, ih]

variable {o o' : IngressObject}

theorem IngressObject.sameRequest_reported (o : IngressObject) (r : Report) :
    o.SameRequest (o.reported r) := by
  refine ⟨rfl, rfl, rfl, rfl, fun k hk => ?_⟩
  rw [reported, Dict.get?_insert, if_neg hk]

theorem IngressObject.SameRequest.rules_eq (h : o.SameRequest o') : o.rules = o'.rules := by
  refine Dict.ext_get? fun k => ?_
  simp only [rules, Annotations.withoutReport, Dict.get?_erase]
  split
  · rfl
  · next hk => exact h.annotations k hk

theorem IngressObject.SameRequest.request_eq (h : o.SameRequest o') : o.request = o'.request := by
  rw [request, request, h.rules_eq, h.namespaceName, h.name, h.created, h.hosts]

theorem Event.SameRequest.request_eq {e e' : Event} (h : e.SameRequest e') :
    e.request = e'.request := by
  cases h with
  | upsert h => exact congrArg Event.upsert h.request_eq
  | delete namespaceName name => rfl

theorem Operation.SameRequest.request_eq {op op' : Operation} (h : op.SameRequest op') :
    op.request = op'.request := by
  cases h with
  | upsert h => exact congrArg Operation.upsert h.request_eq
  | delete namespaceName name => rfl
  | apply h =>
    have hes := map_eq_of_forall₂ (f := Event.request) (fun _ _ he => he.request_eq) h
    exact congrArg Operation.apply hes
  | reconcile h =>
    have hos := map_eq_of_forall₂ (f := IngressObject.request) (fun _ _ ho => ho.request_eq) h
    exact congrArg Operation.reconcile hos

/-- What is taken off once is gone. -/
theorem IngressObject.rules_request (o : IngressObject) : o.request.rules = o.rules :=
  Dict.erase_eq_self (by simp [request, rules, Annotations.withoutReport])

end request

namespace Gateway

theorem plan_request (enabled : Bool) (o : IngressObject) :
    plan enabled o.request = plan enabled o := by
  rw [plan, plan, o.rules_request]
  rfl

theorem attempt_request (g : Gateway) (o : IngressObject) : g.attempt o.request = g.attempt o := by
  rw [attempt, attempt, plan_request]

theorem upsert_request (g : Gateway) (o : IngressObject) : g.upsert o.request = g.upsert o := by
  rw [Gateway.upsert, Gateway.upsert, attempt_request]
  rfl

theorem applyEvent_request (g : Gateway) (e : Event) : g.applyEvent e.request = g.applyEvent e := by
  cases e with
  | upsert o => exact g.upsert_request o
  | delete namespaceName name => rfl

theorem source_request (e : Event) : e.request.source = e.source := by
  cases e with
  | upsert o => rfl
  | delete namespaceName name => rfl

theorem apply_request (g : Gateway) (es : List Event) :
    g.apply (es.map Event.request) = g.apply es := by
  induction es generalizing g with
  | nil => rfl
  | cons e es ih =>
    rw [List.map_cons, Gateway.apply, Gateway.apply, applyEvent_request, source_request, ih]

/-- The order of application looks at ages and keys only. -/
theorem inOrder_request (os : List IngressObject) :
    inOrder (os.map IngressObject.request) = (inOrder os).map IngressObject.request := by
  have hsame : ∀ a ∈ os, ∀ b ∈ os, appliedBefore a b = appliedBefore a.request b.request :=
    fun _ _ _ _ => rfl
  exact (List.map_mergeSort hsame).symm

/-- The requests of a snapshot come to the requests of its events. -/
theorem reconciliation_request (g : Gateway) (os : List IngressObject) :
    g.reconciliation (os.map IngressObject.request) = (g.reconciliation os).map Event.request := by
  have hkeys : (inOrder (os.map IngressObject.request)).map IngressObject.key =
      (inOrder os).map IngressObject.key := by
    rw [inOrder_request, List.map_map]
    rfl
  have hremovals : ∀ sources : List String,
      (sources.filterMap removal?).map Event.request = sources.filterMap removal? := fun sources => by
    rw [List.map_filterMap]
    refine List.filterMap_congr fun s _ => ?_
    rw [removal?, Option.map_map]
    rfl
  have hupserts : (inOrder (os.map IngressObject.request)).map Event.upsert =
      ((inOrder os).map Event.upsert).map Event.request := by
    rw [inOrder_request, List.map_map, List.map_map]
    rfl
  simp only [inOrder] at hkeys hupserts
  rw [reconciliation, reconciliation, hkeys, hupserts, List.map_append, hremovals]

theorem perform_request (g : Gateway) (op : Operation) : g.perform op.request = g.perform op := by
  cases op with
  | upsert o => exact congrArg (Step.answered · .result) (g.upsert_request o)
  | delete namespaceName name => rfl
  | apply es => exact congrArg (Step.answered · .outcomes) (g.apply_request es)
  | reconcile os =>
    refine congrArg (Step.answered · .outcomes) ?_
    rw [reconcile, reconcile, reconciliation_request, apply_request]

/-- **Reports written back are never seen.** Two runs from one gateway whose operations differ in
nothing but the reports that objects carry, in whatever way, answer the same at every step and
go through the same gateways, with the same measurements. -/
theorem trace_eq_of_sameRequests (g : Gateway) {ops ops' : List Operation}
    (h : List.Forall₂ Operation.SameRequest ops ops') : g.trace ops = g.trace ops' := by
  induction h generalizing g with
  | nil => rfl
  | cons hop _ ih =>
    have hstep := (g.perform_request _).symm.trans (hop.request_eq ▸ g.perform_request _)
    rw [trace, trace, hstep, ih]

/-- A refused object gets its report, and later a wrong one. -/
theorem trace_eq_reported :
    let refusal := Report.ofResult (.error (.conflict ⟨"ns/b", "ns/a", "example.com", "/foo"⟩))
    let ops := [.upsert (plainObject "a" 1), .upsert (plainObject "b" 2),
      .reconcile [plainObject "b" 2, plainObject "a" 1]]
    let ops' := [.upsert (plainObject "a" 1), .upsert ((plainObject "b" 2).reported refusal),
      .reconcile [(plainObject "b" 2).reported ⟨.success, ""⟩, (plainObject "a" 1).reported refusal]]
    List.Forall₂ Operation.SameRequest ops ops' ∧
      (Gateway.empty true).trace ops = (Gateway.empty true).trace ops' := by
  intro refusal ops ops'
  have hsame := IngressObject.sameRequest_reported
  have h : List.Forall₂ Operation.SameRequest ops ops' :=
    .cons (.upsert ⟨rfl, rfl, rfl, rfl, fun _ _ => rfl⟩) <|
    .cons (.upsert (hsame _ _)) <|
    .cons (.reconcile (.cons (hsame _ _) (.cons (hsame _ _) .nil))) .nil
  exact ⟨h, trace_eq_of_sameRequests _ h⟩

end Gateway

end IngressRouting
