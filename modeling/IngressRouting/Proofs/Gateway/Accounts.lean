/-
A reconciliation accounts for every source: it gives an outcome for each object of the
snapshot, in the order in which they are applied, and then one for each source that was
known and is absent (`Reachable.reconcile_accounts`).

What is stale is found before the objects are applied, and removed afterwards by its key
alone, which is cut at the first separator. A namespace with a separator in it is cut
elsewhere than it was put together, but the parts give the same key. The objects in
between may take places over or be refused; they register no source that is absent, and
refusing them unregisters none.
-/
import IngressRouting.Proofs.Gateway.Snapshot

namespace IngressRouting.Gateway

variable {enabled : Bool} {g : Gateway}

/-- A source is registered or owns a binding. -/
def Knows (g : Gateway) (source : String) : Prop :=
  g.backends.contains source = true ∨ ∃ kind, ∃ b ∈ g.inForce kind, b.source = source

/-- Nothing of a source is in force, split or registered. -/
structure Lacks (g : Gateway) (source : String) : Prop where
  bindings : ∀ kind, ∀ b ∈ g.inForce kind, b.source ≠ source
  splits : g.splits.contains source = false
  backends : g.backends.contains source = false

/-- A reconciliation goes through the objects of the snapshot in an order, with these outcomes,
and then removes the sources that are gone. -/
structure Accounts (g after : Gateway) (objects inLine : List IngressObject) (xs : List Outcome)
    (gone : List String) : Prop where
  perm : inLine.Perm objects
  /-- The older object comes first, and by key among those of equal age. -/
  sorted : inLine.Pairwise fun a b => a.created < b.created ∨ a.created = b.created ∧ ¬ b.key < a.key
  outcomes : xs.map Outcome.source = inLine.map IngressObject.key
  ascending : gone.Pairwise (· < ·)
  mem_gone : ∀ s, s ∈ gone ↔ g.Knows s ∧ s ∉ objects.map IngressObject.key
  absent : ∀ s, s ∉ objects.map IngressObject.key → after.Lacks s
  /-- Of the snapshot, the sources with an accepted object are registered, and those that
  were before. -/
  registered : ∀ s ∈ objects.map IngressObject.key, after.backends.contains s = true ↔
    (∃ x ∈ xs, x.source = s ∧ x.isOk = true) ∨ g.backends.contains s = true

theorem Reachable.knows_iff (h : Reachable enabled g) {s : String} :
    g.Knows s ↔ g.backends.contains s = true := by
  refine or_iff_left_of_imp ?_
  rintro ⟨kind, b, hb, rfl⟩
  exact h.registered.owners kind b hb

theorem Reachable.lacks (h : Reachable enabled g) {s : String} (hs : ¬ g.backends.contains s = true) :
    g.Lacks s := by
  have hr := h.registered
  refine ⟨fun kind b hb he => hs (he ▸ hr.owners kind b hb), ?_, Bool.eq_false_iff.2 hs⟩
  exact Bool.eq_false_iff.2 fun hsplit => hs (hr.splits s hsplit)

/-- An object that is accepted registers its source, and one that is refused changes nothing. -/
theorem Reachable.contains_upsert (h : Reachable enabled g) (o : IngressObject) (s : String) :
    (g.upsert o).state.backends.contains s = true ↔
      (o.key = s ∧ (g.upsert o).answer.isOk = true) ∨ g.backends.contains s = true := by
  by_cases ha : (g.upsert o).answer.isOk = true
  · have hrenewed := (upsert_isOk h.registered.lists o).2 ha
    rw [hrenewed.backends, Backends.register, Dict.contains, Dict.get?_insert, Dict.contains]
    by_cases hs : s = o.key
    · simp [hs, ha]
    · simp [hs, Ne.symm hs]
  · rw [h.settled.upsert_eq_self ha]
    simp [ha]

theorem Reachable.contains_apply_upserts (h : Reachable enabled g) (os : List IngressObject) (s : String) :
    (g.apply (os.map .upsert)).state.backends.contains s = true ↔
      (∃ x ∈ (g.apply (os.map .upsert)).answer, x.source = s ∧ x.isOk = true) ∨
        g.backends.contains s = true := by
  induction os generalizing g with
  | nil => simp [Gateway.apply]
  | cons o os ih =>
    rw [apply_cons_state, apply_cons_answer, ih (h.upsert o), h.contains_upsert o s]
    simp only [List.exists_mem_cons_iff, Outcome.isOk]
    exact or_left_comm.trans or_assoc.symm

/-- **A reconciliation accounts for every source.** After any run and for any snapshot, with
objects of one key or of any namespace and name in it, there is one outcome for each
object, the older ones first, and then, in ascending order, one for each source that was
known and is absent, which is always removed. Nothing is left of any source that is
absent; of the others those are registered that were before or had an object accepted. -/
theorem Reachable.reconcile_accounts (h : Reachable enabled g) (objects : List IngressObject) :
    ∃ inLine xs gone, (g.reconcile objects).answer = xs ++ gone.map (fun s => ⟨s, .ok ()⟩) ∧
      Accounts g (g.reconcile objects).state objects inLine xs gone := by
  have hr := h.registered
  have hkeys : ∀ s, s ∈ (inOrder objects).map IngressObject.key ↔ s ∈ objects.map IngressObject.key :=
    fun s => ((List.mergeSort_perm objects appliedBefore).map IngressObject.key).mem_iff
  have hstale : ∀ s, s ∈ g.stale objects ↔
      g.backends.contains s = true ∧ s ∉ objects.map IngressObject.key := fun s => by
    rw [mem_stale hr, hkeys]
  have hmid : Reachable enabled (g.apply ((inOrder objects).map .upsert)).state := h.apply _
  obtain ⟨hdeletes, hsources⟩ := filterMap_removal? fun s hs => hr.keyed s ((hstale s).1 hs).1
  obtain ⟨hremoved, hdeleted⟩ := apply_deletes hmid.registered.lists hdeletes
  rw [hsources] at hremoved hdeleted
  obtain ⟨hanswer, hstate⟩ := reconcile_eq g objects
  have hcontains : ∀ s, (g.reconcile objects).state.backends.contains s = true ↔
      s ∉ g.stale objects ∧
        ((∃ x ∈ (g.apply ((inOrder objects).map .upsert)).answer, x.source = s ∧ x.isOk = true) ∨
          g.backends.contains s = true) := fun s => by
    rw [hstate, hdeleted.backends, Dict.contains_foldl_erase, h.contains_apply_upserts]
  have houtcomes := source_apply g (inOrder objects)
  refine ⟨inOrder objects, _, g.stale objects, hanswer.trans (congrArg _ hremoved),
    List.mergeSort_perm objects appliedBefore, (inOrder_pairwise objects).imp appliedBefore_iff.1,
    houtcomes, ?_, fun s => ?_, fun s hs => (h.reconcile objects).lacks fun hc => ?_, fun s hs => ?_⟩
  · exact (Dict.keys_ascending _).sublist List.filter_sublist
  · rw [hstale, h.knows_iff]
  · obtain ⟨hnot, ⟨x, hx, rfl, _⟩ | hknown⟩ := (hcontains s).1 hc
    · refine hs ((hkeys _).1 ?_)
      rw [← houtcomes]
      exact List.mem_map_of_mem hx
    · exact hnot ((hstale s).2 ⟨hknown, hs⟩)
  · rw [hcontains]
    exact and_iff_right fun hgone => ((hstale s).1 hgone).2 hs

/-- The source that is gone has a separator in its namespace. It keeps an object of the snapshot
out, and is removed afterwards. -/
theorem reconcile_accounts_separator :
    let old : IngressObject :=
      ⟨"a/b", "c", ∅, 1, [⟨"example.com", [⟨"/foo", some .exact, ⟨"old", none⟩⟩]⟩]⟩
    let g := ((Gateway.empty true).upsert old).state
    let objects := [plainObject "y" 5, ⟨"ns", "x/z", ∅, 5, []⟩]
    (g.reconcile objects).answer = [⟨"ns/x/z", .ok ()⟩,
        ⟨"ns/y", .error (.conflict ⟨"ns/y", "a/b/c", "example.com", "/foo"⟩)⟩, ⟨"a/b/c", .ok ()⟩] ∧
      ∃ inLine xs gone, (g.reconcile objects).answer = xs ++ gone.map (fun s => ⟨s, .ok ()⟩) ∧
        Accounts g (g.reconcile objects).state objects inLine xs gone := by
  have hline : inOrder [plainObject "y" 5, ⟨"ns", "x/z", ∅, 5, []⟩] =
      [⟨"ns", "x/z", ∅, 5, []⟩, plainObject "y" 5] :=
    inOrder_eq (by decide +kernel) (by decide +kernel) (by decide +kernel)
  have hanswer : (((Gateway.empty true).upsert
      ⟨"a/b", "c", ∅, 1, [⟨"example.com", [⟨"/foo", some .exact, ⟨"old", none⟩⟩]⟩]⟩).state.reconcile
        [plainObject "y" 5, ⟨"ns", "x/z", ∅, 5, []⟩]).answer = [⟨"ns/x/z", .ok ()⟩,
        ⟨"ns/y", .error (.conflict ⟨"ns/y", "a/b/c", "example.com", "/foo"⟩)⟩, ⟨"a/b/c", .ok ()⟩] := by
    rw [reconcile, reconciliation, ← inOrder, hline]
    decide +kernel
  exact ⟨hanswer, Reachable.reconcile_accounts (.upsert .empty _) _⟩

end IngressRouting.Gateway
