/-
Batches of events, as what they do to the lists of the bindings in force. A
batch of objects is accepted exactly when their turns are (`apply_upserts`), and
a batch of deletions always (`apply_deletions`).

Every source that owns a binding or a split is registered (`Registered`), so a
reconciliation knows of it.
-/
import IngressRouting.Proofs.Gateway.Claims

namespace IngressRouting.Gateway

variable {enabled : Bool} {g g' : Gateway} {L : Standing} {o : IngressObject}
  {objects : List IngressObject}

/-- The bindings in force. -/
def inForce (g : Gateway) : Standing
  | .route => g.route.roster.toList
  | .redirect => (g.redirect.map (·.roster.toList)).getD []

/-- The turns of objects in the rulebook of a kind. -/
def turns (enabled : Bool) (objects : List IngressObject) (kind : TableKind) : List Turn :=
  objects.map (turn enabled · kind)

/-! ## What every run keeps -/

/-- What owns a binding or a split is registered, under the key of some
object. -/
structure Registered (enabled : Bool) (g : Gateway) (L : Standing) : Prop where
  enabled : g.redirectEnabled = enabled
  lists : g.books.Lists L
  owners : ∀ kind, ∀ b ∈ L kind, g.backends.contains b.source = true
  splits : ∀ s, g.splits.contains s = true → g.backends.contains s = true
  keyed : ∀ s, g.backends.contains s = true → ∃ namespaceName name, s = sourceKey namespaceName name

theorem registered_empty (enabled : Bool) :
    Registered enabled (Gateway.empty enabled) fun _ => [] where
  enabled := by cases enabled <;> rfl
  lists := by
    refine ⟨Rulebook.lists_empty _, fun k hk => ?_, fun _ => rfl⟩
    cases enabled with
    | false => cases hk
    | true => cases hk; exact Rulebook.lists_empty _
  owners _ b hb := by cases hb
  splits _ hs := by cases hs
  keyed _ hs := by cases hs

theorem Renewed.registered (h : Renewed g g' o L) (hr : Registered enabled g L) :
    Registered enabled g' fun kind => renew (L kind) (turn g.redirectEnabled o kind) := by
  have hcontains : ∀ s, g'.backends.contains s = true ↔ s = o.key ∨ g.backends.contains s = true := by
    intro s
    rw [h.backends, Backends.register, Dict.contains, Dict.get?_insert, Dict.contains]
    by_cases hs : s = o.key <;> simp [hs]
  refine ⟨h.enabled.trans hr.enabled, h.lists, fun kind b hb => ?_, fun s hs => ?_, fun s hs => ?_⟩
  · rw [hcontains]
    rcases mem_renew hb with hc | ⟨hold, _⟩
    · exact .inl (mem_turn hc).1
    · exact .inr (hr.owners kind b hold)
  · rw [hcontains]
    rw [h.splits, Dict.contains, Dict.get?_put] at hs
    split at hs
    · next he => exact .inl he
    · exact .inr (hr.splits s hs)
  · rcases (hcontains s).1 hs with rfl | hs
    · exact ⟨_, _, rfl⟩
    · exact hr.keyed s hs

theorem Registered.delete (hr : Registered enabled g L) (namespaceName name : String) :
    Registered enabled (g.delete namespaceName name).state
      fun kind => withoutSource (sourceKey namespaceName name) (L kind) := by
  obtain ⟨_, henabled, hlists, hsplits, hbackends⟩ := delete_lists hr.lists namespaceName name
  refine ⟨henabled.trans hr.enabled, hlists, fun kind b hb => ?_, fun s hs => ?_, fun s hs => ?_⟩
  · obtain ⟨hold, hne⟩ := mem_withoutSource.1 hb
    rw [hbackends, Dict.contains_erase]
    exact ⟨hne, hr.owners kind b hold⟩
  · rw [hsplits, Dict.contains_erase] at hs
    rw [hbackends, Dict.contains_erase]
    exact ⟨hs.1, hr.splits s hs.2⟩
  · rw [hbackends, Dict.contains_erase] at hs
    exact hr.keyed s hs.2

theorem Registered.upsert (hr : Registered enabled g L) (hs : g.Settled) (o : IngressObject) :
    ∃ L', Registered enabled (g.upsert o).state L' := by
  cases he : (g.upsert o).answer with
  | error e => exact ⟨L, (hs.upsert_refused he).symm ▸ hr⟩
  | ok _ => exact ⟨_, ((upsert_isOk hr.lists o).2 (by rw [he]; rfl)).registered hr⟩

theorem Books.Lists.mem_congr {b : Books} {L L' : Standing} (h : b.Lists L) (h' : b.Lists L')
    (kind : TableKind) (c : Binding) : c ∈ L kind ↔ c ∈ L' kind := by
  cases kind with
  | route => rw [h.route.lists.mem_iff h.route.sound.roster, h'.route.lists.mem_iff h.route.sound.roster]
  | redirect =>
    cases hk : b.redirect with
    | none => rw [h.absent hk, h'.absent hk]
    | some k =>
      have hl := h.redirect k hk
      rw [hl.lists.mem_iff hl.sound.roster, (h'.redirect k hk).lists.mem_iff hl.sound.roster]

theorem Books.Lists.inForce (h : g.books.Lists L) : g.books.Lists g.inForce where
  route := ⟨h.route.sound, h.route.kind, h.route.sound.roster.lists_toList⟩
  redirect k hk := by
    have hl := h.redirect k hk
    have hforce : g.inForce .redirect = k.roster.toList := by
      rw [Gateway.inForce, show g.redirect = some k from hk]
      rfl
    rw [hforce]
    exact ⟨hl.sound, hl.kind, hl.sound.roster.lists_toList⟩
  absent hn := by rw [Gateway.inForce, show g.redirect = none from hn]; rfl

theorem Reachable.registered (h : Reachable enabled g) : Registered enabled g g.inForce := by
  have hboth : g.Settled ∧ ∃ L, Registered enabled g L := by
    refine h.invariant (I := fun g => g.Settled ∧ ∃ L, Registered enabled g L)
      ⟨settled_empty enabled, _, registered_empty enabled⟩ ?_ ?_
    · rintro g o ⟨hs, L, hr⟩
      exact ⟨hs.upsert o, hr.upsert hs o⟩
    · rintro g namespaceName name ⟨hs, L, hr⟩
      exact ⟨hs.delete namespaceName name, _, hr.delete namespaceName name⟩
  obtain ⟨_, L, hr⟩ := hboth
  exact ⟨hr.enabled, hr.lists.inForce,
    fun kind b hb => hr.owners kind b ((hr.lists.inForce.mem_congr hr.lists kind b).1 hb),
    hr.splits, hr.keyed⟩

/-! ## Batches -/

theorem apply_append (g : Gateway) (es fs : List Event) :
    (g.apply (es ++ fs)).answer = (g.apply es).answer ++ ((g.apply es).state.apply fs).answer ∧
      (g.apply (es ++ fs)).state = ((g.apply es).state.apply fs).state := by
  induction es generalizing g with
  | nil => exact ⟨rfl, rfl⟩
  | cons e es ih =>
    obtain ⟨hanswer, hstate⟩ := ih (g.applyEvent e).state
    exact ⟨congrArg (_ :: ·) hanswer, hstate⟩

theorem source_of_mem_apply {es : List Event} {x : Outcome} (h : x ∈ (g.apply es).answer) :
    x.source ∈ es.map Event.source := by
  induction es generalizing g with
  | nil => cases h
  | cons e es ih =>
    rcases List.mem_cons.1 h with rfl | h
    · exact List.mem_cons_self
    · exact List.mem_cons_of_mem _ (ih h)

theorem apply_cons_answer (g : Gateway) (o : IngressObject) (os : List IngressObject) :
    (g.apply ((o :: os).map .upsert)).answer =
      ⟨o.key, (g.upsert o).answer⟩ :: ((g.upsert o).state.apply (os.map .upsert)).answer := rfl

theorem apply_cons_state (g : Gateway) (o : IngressObject) (os : List IngressObject) :
    (g.apply ((o :: os).map .upsert)).state = ((g.upsert o).state.apply (os.map .upsert)).state := rfl

/-- What a batch of accepted objects changes. -/
structure Replayed (g g' : Gateway) (objects : List IngressObject) (L : Standing) : Prop where
  lists : g'.books.Lists fun kind => replay (L kind) (turns g.redirectEnabled objects kind)
  splits : g'.splits =
    objects.foldl (fun d o => d.put o.key (splitsOf g.redirectEnabled o)) g.splits

/-- **When all objects of a batch are accepted**, and what is in force then. -/
theorem apply_upserts (h : g.books.Lists L) (objects : List IngressObject) :
    ((∀ x ∈ (g.apply (objects.map .upsert)).answer, x.isOk = true) ↔
      (∀ o ∈ objects, Valid g.redirectEnabled o) ∧
        ∀ kind, AcceptsAll (L kind) (turns g.redirectEnabled objects kind)) ∧
    ((∀ x ∈ (g.apply (objects.map .upsert)).answer, x.isOk = true) →
      Replayed g (g.apply (objects.map .upsert)).state objects L) := by
  induction objects generalizing g L with
  | nil => exact ⟨by simp [apply, turns, AcceptsAll], fun _ => ⟨h, rfl⟩⟩
  | cons o objects ih =>
    obtain ⟨hok, hnew⟩ := upsert_isOk h o
    rw [apply_cons_answer, apply_cons_state]
    simp only [List.forall_mem_cons, Outcome.isOk]
    by_cases ha : (g.upsert o).answer.isOk = true
    · have hrenewed := hnew ha
      obtain ⟨hrest, hlast⟩ := ih hrenewed.lists
      simp only [Outcome.isOk] at hrest hlast
      rw [hrenewed.enabled] at hrest
      refine ⟨?_, fun hall => ?_⟩
      · rw [hok, hrest]
        simp only [turns, List.map_cons, AcceptsAll, forall_and]
        tauto
      · have hr := hlast hall.2
        refine ⟨?_, ?_⟩
        · have hl := hr.lists
          rw [hrenewed.enabled] at hl
          exact hl
        · rw [hr.splits, hrenewed.enabled, hrenewed.splits]
          rfl
    · refine ⟨iff_of_false (fun hall => ha hall.1) fun hall => ha (hok.2 ⟨hall.1.1, fun kind => ?_⟩),
        fun hall => absurd hall.1 ha⟩
      exact (hall.2 kind).1

/-- The removal of a source is about that source, also where a namespace has
the separator in it. -/
theorem removal?_sourceKey (namespaceName name : String) :
    ∃ namespaceName' name', removal? (sourceKey namespaceName name) = some (.delete namespaceName' name') ∧
      sourceKey namespaceName' name' = sourceKey namespaceName name := by
  have hlist : (sourceKey namespaceName name).toList =
      namespaceName.toList ++ '/' :: name.toList := by simp [sourceKey]
  have hmem : '/' ∈ (sourceKey namespaceName name).toList := by rw [hlist]; simp
  obtain ⟨a, b, hab⟩ := exists_cutList hmem
  obtain ⟨hcut, _⟩ := cutList_eq_some_iff.1 hab
  refine ⟨String.ofList a, String.ofList b, by rw [removal?, cut, hab]; rfl, ?_⟩
  apply String.ext
  rw [hcut]
  simp [sourceKey]

/-- What a batch of deletions of these sources comes to. -/
structure Deleted (g g' : Gateway) (sources : List String) (L : Standing) : Prop where
  enabled : g'.redirectEnabled = g.redirectEnabled
  lists : g'.books.Lists fun kind => (L kind).filter (·.source ∉ sources)
  splits : g'.splits = sources.foldl Dict.erase g.splits
  backends : g'.backends = sources.foldl Dict.erase g.backends

/-- **A batch of deletions is always accepted.** -/
theorem apply_deletes (h : g.books.Lists L) {es : List Event}
    (hes : ∀ e ∈ es, ∃ namespaceName name, e = .delete namespaceName name) :
    (g.apply es).answer = (es.map Event.source).map (fun s => ⟨s, .ok ()⟩) ∧
      Deleted g (g.apply es).state (es.map Event.source) L := by
  induction es generalizing g L with
  | nil => exact ⟨rfl, rfl, by simpa [apply] using h, rfl, rfl⟩
  | cons e es ih =>
    obtain ⟨ns, n, rfl⟩ := hes e List.mem_cons_self
    obtain ⟨hanswer, henabled, hlists, hsplits, hbackends⟩ := delete_lists h ns n
    obtain ⟨hrest, hlast⟩ := ih hlists fun e he => hes e (List.mem_cons_of_mem _ he)
    have hfilter : ∀ kind, (withoutSource (sourceKey ns n) (L kind)).filter
          (·.source ∉ es.map Event.source) =
        (L kind).filter (·.source ∉ (Event.delete ns n :: es).map Event.source) := fun kind => by
      rw [withoutSource, List.filter_filter]
      refine List.filter_congr fun b _ => ?_
      simp only [List.map_cons, Event.source, List.mem_cons, not_or, Bool.decide_and, ne_eq, Bool.and_comm]
    refine ⟨?_, hlast.enabled.trans henabled, ?_, ?_, ?_⟩
    · rw [Gateway.apply]
      exact congrArg₂ (fun a xs => (⟨sourceKey ns n, a⟩ : Outcome) :: xs) hanswer hrest
    · simp only [← hfilter]
      exact hlast.lists
    · rw [List.map_cons, List.foldl_cons, Event.source, ← hsplits]
      exact hlast.splits
    · rw [List.map_cons, List.foldl_cons, Event.source, ← hbackends]
      exact hlast.backends

theorem filterMap_removal? {sources : List String}
    (hs : ∀ s ∈ sources, ∃ namespaceName name, s = sourceKey namespaceName name) :
    (∀ e ∈ sources.filterMap removal?, ∃ namespaceName name, e = .delete namespaceName name) ∧
      (sources.filterMap removal?).map Event.source = sources := by
  induction sources with
  | nil => simp
  | cons s sources ih =>
    obtain ⟨namespaceName, name, rfl⟩ := hs s List.mem_cons_self
    obtain ⟨ns, n, hremoval, hkey⟩ := removal?_sourceKey namespaceName name
    obtain ⟨hdeletes, hsources⟩ := ih fun s hs' => hs s (List.mem_cons_of_mem _ hs')
    rw [List.filterMap_cons_some hremoval]
    refine ⟨List.forall_mem_cons.2 ⟨⟨ns, n, rfl⟩, hdeletes⟩, ?_⟩
    rw [List.map_cons, hsources, Event.source, hkey]

/-- **The removal of sources is always accepted**, and takes out their bindings and
splits. -/
theorem apply_deletions (h : g.books.Lists L) {sources : List String}
    (hs : ∀ s ∈ sources, ∃ namespaceName name, s = sourceKey namespaceName name) :
    (∀ x ∈ (g.apply (sources.filterMap removal?)).answer, x.isOk = true) ∧
      ((g.apply (sources.filterMap removal?)).state.books.Lists
        fun kind => (L kind).filter (·.source ∉ sources)) ∧
      (g.apply (sources.filterMap removal?)).state.splits = sources.foldl Dict.erase g.splits := by
  obtain ⟨hdeletes, hsources⟩ := filterMap_removal? hs
  obtain ⟨hanswer, hdeleted⟩ := apply_deletes h hdeletes
  rw [hsources] at hanswer hdeleted
  refine ⟨fun x hx => ?_, hdeleted.lists, hdeleted.splits⟩
  rw [hanswer] at hx
  obtain ⟨s, _, rfl⟩ := List.mem_map.1 hx
  rfl

end IngressRouting.Gateway
