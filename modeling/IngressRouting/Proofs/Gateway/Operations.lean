/-
Runs of a gateway as data: a list of operations, and what each of them comes to, one after
the other (`Gateway.trace`). Every state on the way is one that operations lead to.
-/
import IngressRouting.Proofs.Gateway.Runs

namespace IngressRouting

/-- What a gateway can be asked to do. -/
inductive Operation
  | upsert (object : IngressObject)
  | delete (namespaceName name : String)
  | apply (events : List Event)
  | reconcile (objects : List IngressObject)

/-- The events that an operation consists of. -/
def Operation.events (g : Gateway) : Operation → List Event
  | upsert object => [.upsert object]
  | delete namespaceName name => [.delete namespaceName name]
  | apply events => events
  | reconcile objects => g.reconciliation objects

/-- What an operation answers: whether a change was accepted, or what became of each event. -/
inductive Answer
  | result (r : Except Rejection Unit)
  | outcomes (xs : List Outcome)

/-- A step with its answer as data. -/
def Step.answered {α : Type} (s : Step Gateway α) (f : α → Answer) : Step Gateway Answer :=
  ⟨f s.answer, s.state, s.samples⟩

namespace Gateway

variable {enabled : Bool} {g : Gateway}

/-- Carries out an operation. -/
def perform (g : Gateway) : Operation → Step Gateway Answer
  | .upsert object => (g.upsert object).answered .result
  | .delete namespaceName name => (g.delete namespaceName name).answered .result
  | .apply events => (g.apply events).answered .outcomes
  | .reconcile objects => (g.reconcile objects).answered .outcomes

theorem perform_eq_apply (g : Gateway) (op : Operation) :
    (g.perform op).state = (g.apply (op.events g)).state ∧
      (g.perform op).samples = (g.apply (op.events g)).samples := by
  cases op with
  | upsert object => exact ⟨rfl, (List.append_nil _).symm⟩
  | delete namespaceName name => exact ⟨rfl, (List.append_nil _).symm⟩
  | apply events => exact ⟨rfl, rfl⟩
  | reconcile objects => exact ⟨rfl, rfl⟩

/-- What each of some operations comes to, in order. -/
def trace (g : Gateway) : List Operation → List (Step Gateway Answer)
  | [] => []
  | op :: ops => g.perform op :: (g.perform op).state.trace ops

theorem Reachable.applyEvent (h : Reachable enabled g) (e : Event) :
    Reachable enabled (g.applyEvent e).state := by
  cases e with
  | upsert o => exact h.upsert o
  | delete namespaceName name => exact h.delete namespaceName name

theorem Reachable.perform (h : Reachable enabled g) (op : Operation) :
    Reachable enabled (g.perform op).state := by
  cases op with
  | upsert object => exact h.upsert object
  | delete namespaceName name => exact h.delete namespaceName name
  | apply events => exact h.apply events
  | reconcile objects => exact h.reconcile objects

end Gateway

end IngressRouting
