/-
Runs of puts and removals in any order, with what each call answers. Between
`begin` and `rollback` such a run is a chain of edits, one for each binding that it
brings in, overwrites or takes out (`Sound.run_edits`), so the rollback puts back
the roster at which the journal was opened, and says how many there were
(`Reachable.rollback_run`).
-/
import IngressRouting.Proofs.Roster.Overview

namespace IngressRouting

/-- A change asked of a roster. -/
inductive Call
  | put (b : Binding)
  | removeSource (source : String)

/-- What a change answers. -/
inductive Reply
  | put (answer : Except Conflict Admission)
  /-- How many bindings were removed. -/
  | removed (n : Nat)

namespace Roster

variable {r : Roster}

/-- Makes a call. -/
def call (r : Roster) : Call → Reply × Roster
  | .put b => (.put (r.put b).1, (r.put b).2)
  | .removeSource source => (.removed (r.removeSource source).1, (r.removeSource source).2)

/-- Makes calls one after the other and collects what they answer. -/
def run (r : Roster) : List Call → List Reply × Roster
  | [] => ([], r)
  | c :: cs =>
    let rest := (r.call c).2.run cs
    ((r.call c).1 :: rest.1, rest.2)

/-- How many bindings a call brings in, overwrites or takes out. -/
def touched (r : Roster) : Call → Nat
  | .put b => changes (r.put b).1
  | .removeSource source => (r.ofSource source).length

/-- How many bindings a run brings in, overwrites or takes out, counted call by
call. -/
def tally (r : Roster) : List Call → Nat
  | [] => 0
  | c :: cs => r.touched c + (r.call c).2.tally cs

theorem Sound.call_edits (h : r.Sound) (c : Call) :
    ∃ us, Edits r us (r.call c).2 ∧ us.length = r.touched c := by
  cases c with
  | put b =>
    obtain ⟨us, hes, hlen⟩ := h.put_edits b
    exact ⟨us, hes, hlen⟩
  | removeSource source =>
    obtain ⟨us, hes, hlen⟩ := h.removeSource_edits source
    exact ⟨us, hes, hlen.trans (h.removeSource_fst source)⟩

theorem Sound.call (h : r.Sound) (c : Call) : (r.call c).2.Sound := by
  obtain ⟨us, hes, _⟩ := h.call_edits c
  exact hes.sound h

/-- **A run is a chain of edits**, one for each binding that it touches. -/
theorem Sound.run_edits (h : r.Sound) (calls : List Call) :
    ∃ us, Edits r us (r.run calls).2 ∧ us.length = r.tally calls := by
  induction calls generalizing r with
  | nil => exact ⟨[], .refl, rfl⟩
  | cons c cs ih =>
    obtain ⟨us, hes, hlen⟩ := h.call_edits c
    obtain ⟨vs, hes', hlen'⟩ := ih (h.call c)
    refine ⟨vs ++ us, hes.trans hes', ?_⟩
    rw [List.length_append, hlen, hlen', tally, Nat.add_comm]

/-- **A rollback is exact.** Whatever is put and removed after a journal is opened,
and whatever comes of it, the rollback leaves the roster at which the journal was
opened, arena, free slots, lists and owners alike, with its journal closed. It
answers how many bindings were brought in, overwritten or taken out. -/
theorem Reachable.rollback_run (h : Reachable r) (calls : List Call) :
    (r.begin.run calls).2.rollback = (r.begin.tally calls, { r with journal := none }) := by
  have hbegin := h.consistent.sound.begin
  obtain ⟨us, hes, hlen⟩ := hbegin.run_edits calls
  rw [hes.rollback hbegin rfl, hlen]
  rfl

/-- A source goes and its slot is taken by another; a binding is overwritten by an
older one of the same source, one is refused, one is there already; one gets a new
slot; two sources go. -/
theorem rollback_run_mixed :
    let a : Binding := ⟨"ns/a", "example.com", "/foo", ∅, 7, .forward "ns_a"⟩
    let b : Binding := ⟨"ns/b", "example.com", "/foo", Dict.ofList [(Annotations.cookieKey, "x: y")],
      6, .forward "ns_b"⟩
    let c : Binding := ⟨"ns/c", "example.com", "/bar", ∅, 5, .forward "ns_c"⟩
    let r := ((Roster.empty.put a).2.put b).2
    let calls : List Call := [.removeSource "ns/a", .put c, .put { b with since := 2 },
      .put { b with source := "ns/d" }, .put { b with since := 2 }, .put a, .removeSource "ns/c",
      .removeSource "ns/b"]
    Reachable r ∧ r.cells = [some a, some b] ∧ r.begin.tally calls = 6 ∧
      (r.begin.run calls).2.cells = [none, none, some a] ∧
      (r.begin.run calls).2.rollback = (r.begin.tally calls, { r with journal := none }) :=
  ⟨.put (.put .empty _) _, by decide, by decide, by decide,
    Reachable.rollback_run (.put (.put .empty _) _) _⟩

end Roster

end IngressRouting
