/-
What is in a rulebook after any run of its operations. Only bindings that pass the
check get in, and a rollback brings back only bindings that were in force when the
journal was opened, so every binding in force has passed (`Reachable.checked`).
-/
import IngressRouting.Proofs.Gateway.Books
import IngressRouting.Proofs.Roster.Runs

namespace IngressRouting

namespace Roster

variable {r r' : Roster} {us : List Undo} {P : Binding → Prop}

/-- Every binding in force has a property, and so has every one that a rollback
would bring back. -/
structure Holds (P : Binding → Prop) (r : Roster) : Prop where
  consistent : r.Consistent
  live : ∀ slot b, r.get? slot = some b → P b
  back : ∀ slot b, r.rollback.2.get? slot = some b → P b

theorem rollback_of_closed (h : r.journal = none) : r.rollback.2 = r := by
  rw [Roster.rollback, h]

theorem Consistent.rollback_edits (h : r.Consistent) (es : Edits r us r') {ws : List Undo}
    (hj : r.journal = some ws) : r'.rollback.2 = r.rollback.2 := by
  obtain ⟨base, hbase, hopen, hes⟩ := h.journal ws hj
  rw [(hes.trans es).rollback hbase hopen, hes.rollback hbase hopen]

theorem holds_empty : Roster.empty.Holds P := by
  have hnone : ∀ slot b, Roster.empty.get? slot = some b → P b := fun slot b hb => by
    simp [Roster.empty, get?] at hb
  exact ⟨Reachable.empty.consistent, hnone, hnone⟩

theorem Holds.edits (h : r.Holds P) (es : Edits r us r')
    (live : ∀ slot b, r'.get? slot = some b → P b) : r'.Holds P := by
  refine ⟨h.consistent.edits es, live, ?_⟩
  cases hj : r.journal with
  | none =>
    rw [rollback_of_closed (by rw [es.journal, hj]; rfl)]
    exact live
  | some ws =>
    rw [h.consistent.rollback_edits es hj]
    exact h.back

theorem Holds.put (h : r.Holds P) {b : Binding} (hb : P b) : (r.put b).2.Holds P := by
  obtain ⟨us, hes, _⟩ := h.consistent.sound.put_edits b
  refine h.edits hes fun slot c hc => ?_
  rcases h.consistent.sound.get?_put hc with rfl | hc
  · exact hb
  · exact h.live slot c hc

theorem Holds.removeSource (h : r.Holds P) (source : String) : (r.removeSource source).2.Holds P := by
  obtain ⟨us, hes, _⟩ := h.consistent.sound.removeSource_edits source
  exact h.edits hes fun slot b hb => h.live slot b (h.consistent.sound.get?_removeSource hb)

theorem Holds.begin (h : r.Holds P) : r.begin.Holds P := by
  refine ⟨⟨h.consistent.sound.begin, fun us hus => ?_⟩, h.live, h.live⟩
  cases hus
  exact ⟨_, h.consistent.sound.begin, rfl, .refl⟩

theorem Holds.commit (h : r.Holds P) : r.commit.Holds P :=
  ⟨⟨h.consistent.sound.commit, fun _ hn => by cases hn⟩, h.live, h.live⟩

theorem Consistent.journal_rollback (h : r.Consistent) : r.rollback.2.journal = none := by
  cases hj : r.journal with
  | none => rwa [rollback_of_closed hj]
  | some us =>
    obtain ⟨base, hbase, hopen, hes⟩ := h.journal us hj
    rw [hes.rollback hbase hopen]
    rfl

theorem Holds.rollback (h : r.Holds P) : r.rollback.2.Holds P := by
  refine ⟨h.consistent.rollback, h.back, ?_⟩
  rw [rollback_of_closed h.consistent.journal_rollback]
  exact h.back

end Roster

namespace Rulebook

variable {kind : TableKind} {k : Rulebook} {b : Binding}

/-- Every rulebook of a kind that operations lead to. -/
inductive Reachable (kind : TableKind) : Rulebook → Prop
  | empty : Reachable kind (.empty kind)
  | put {k : Rulebook} (h : Reachable kind k) (b : Binding) : Reachable kind (k.put b).state
  | bind {k : Rulebook} (h : Reachable kind k) (source host path : String) (a : Annotations)
    (target : String) (since : UInt64) :
    Reachable kind (k.bind source host path a target since).state
  | removeSource {k : Rulebook} (h : Reachable kind k) (source : String) :
    Reachable kind (k.removeSource source)
  | begin {k : Rulebook} (h : Reachable kind k) : Reachable kind k.begin
  | commit {k : Rulebook} (h : Reachable kind k) : Reachable kind k.commit
  | rollback {k : Rulebook} (h : Reachable kind k) : Reachable kind k.rollback

/-- The binding is what comes of a check. -/
def Passes (kind : TableKind) (b : Binding) : Prop := ∃ c, check kind c = .ok b

theorem Passes.compiles (h : Passes kind b) : b.Compiles := by
  obtain ⟨c, hc⟩ := h
  obtain ⟨rfl, _, hcompiles, _⟩ := check_eq_ok_iff.1 hc
  exact hcompiles

theorem Passes.kind_eq (h : Passes kind b) : b.kind = kind := by
  obtain ⟨c, hc⟩ := h
  obtain ⟨rfl, hkind, _⟩ := check_eq_ok_iff.1 hc
  exact c.kind_kept.trans hkind

/-- The book is of its kind, and every binding in force has passed its check. -/
structure Checked (kind : TableKind) (k : Rulebook) : Prop where
  kind : k.kind = kind
  holds : k.roster.Holds (Passes k.kind)

theorem Checked.sound (h : k.Checked kind) : k.Sound where
  roster := h.holds.consistent.sound
  compiles slot b hb := (h.holds.live slot b hb).compiles

theorem Checked.put (h : k.Checked kind) (b : Binding) : (k.put b).state.Checked kind := by
  rcases k.put_state b with he | ⟨c, hc, he⟩ <;> rw [he]
  · exact h
  · exact ⟨h.kind, h.holds.put ⟨b, h.kind ▸ hc⟩⟩

theorem Checked.bind (h : k.Checked kind) (source host path : String) (a : Annotations)
    (target : String) (since : UInt64) :
    (k.bind source host path a target since).state.Checked kind :=
  bind_keeps h h.put source host path a target since

/-- **Every binding in force has passed the check of its rulebook**, whatever the
run. -/
theorem Reachable.checked (h : Reachable kind k) : k.Checked kind := by
  induction h with
  | empty => exact ⟨rfl, Roster.holds_empty⟩
  | put _ b ih => exact ih.put b
  | bind _ source host path a target since ih => exact ih.bind source host path a target since
  | removeSource _ source ih => exact ⟨ih.kind, ih.holds.removeSource source⟩
  | begin _ ih => exact ⟨ih.kind, ih.holds.begin⟩
  | commit _ ih => exact ⟨ih.kind, ih.holds.commit⟩
  | rollback _ ih => exact ⟨ih.kind, ih.holds.rollback⟩

end Rulebook

end IngressRouting
