/-
When a reconciliation converges: every object of the snapshot is accepted, and
the tables are those that a gateway without a past publishes for the snapshot.

It does not always. The objects are applied before the sources that are gone are
removed, so a binding of such a source, or of one applied later, can still
refuse a claim, or outlast it where both are as old (`reconcile_blocked`).
`Reachable.converges_iff` says exactly when a reconciliation converges, in terms
of the bindings in force and the claims of the snapshot.
-/
import IngressRouting.Proofs.Gateway.Batches
import Mathlib.Data.List.Nodup

namespace IngressRouting.Gateway

variable {enabled : Bool} {g g' : Gateway} {L : Standing} {kind : TableKind}
  {objects : List IngressObject}

/-- Every object of the snapshot is accepted, and both tables are those of a
gateway that starts with the snapshot. -/
structure Converges (g : Gateway) (objects : List IngressObject) : Prop where
  accepted : ∀ x ∈ (g.reconcile objects).answer, x.source ∈ objects.map IngressObject.key →
    x.isOk = true
  route : (g.reconcile objects).state.routeEdition.table =
    ((Gateway.empty g.redirectEnabled).reconcile objects).state.routeEdition.table
  redirect : (g.reconcile objects).state.redirectEdition.table =
    ((Gateway.empty g.redirectEnabled).reconcile objects).state.redirectEdition.table

/-- The objects in the order in which they are applied. -/
def inOrder (objects : List IngressObject) : List IngressObject := objects.mergeSort appliedBefore

/-- The turns of a snapshot in the rulebook of a kind. -/
def snapshotTurns (enabled : Bool) (objects : List IngressObject) (kind : TableKind) : List Turn :=
  turns enabled (inOrder objects) kind

/-- What a snapshot leaves of the bindings in force, with its claims. -/
def settledBy (enabled : Bool) (objects : List IngressObject) (L : Standing) : Standing :=
  fun kind => settled (L kind) (snapshotTurns enabled objects kind)

/-- Known sources that are not in the snapshot. -/
def stale (g : Gateway) (objects : List IngressObject) : List String :=
  g.knownSources.filter fun s => !(StringSet.ofList ((inOrder objects).map IngressObject.key)).contains s

theorem reconcile_eq (g : Gateway) (objects : List IngressObject) :
    let applied := g.apply ((inOrder objects).map .upsert)
    let removed := applied.state.apply ((g.stale objects).filterMap removal?)
    (g.reconcile objects).answer = applied.answer ++ removed.answer ∧
      (g.reconcile objects).state = removed.state :=
  apply_append g _ _

/-! ## The order of the snapshot -/

theorem mem_inOrder {o : IngressObject} : o ∈ inOrder objects ↔ o ∈ objects := List.mem_mergeSort

theorem appliedBefore_iff {a b : IngressObject} :
    appliedBefore a b = true ↔ a.created < b.created ∨ a.created = b.created ∧ ¬ b.key < a.key := by
  simp [appliedBefore]

theorem appliedBefore_trans (a b c : IngressObject) (hab : appliedBefore a b = true)
    (hbc : appliedBefore b c = true) : appliedBefore a c = true := by
  rw [appliedBefore_iff] at *
  have hkeys : ∀ {s t u : String}, ¬ t < s → ¬ u < t → ¬ u < s := fun hst htu =>
    String.not_lt.2 (String.le_trans (String.not_lt.1 hst) (String.not_lt.1 htu))
  grind

theorem appliedBefore_total (a b : IngressObject) : (appliedBefore a b || appliedBefore b a) = true := by
  rw [Bool.or_eq_true, appliedBefore_iff, appliedBefore_iff]
  have hkeys : ¬ b.key < a.key ∨ ¬ a.key < b.key := by
    by_cases h : b.key < a.key
    · exact .inr (String.lt_asymm h)
    · exact .inl h
  grind

theorem inOrder_pairwise (objects : List IngressObject) :
    (inOrder objects).Pairwise fun a b => appliedBefore a b = true :=
  List.pairwise_mergeSort appliedBefore_trans appliedBefore_total objects

/-- Objects of different keys are applied in one order only. -/
theorem key_eq_of_appliedBefore {a b : IngressObject} (hab : appliedBefore a b = true)
    (hba : appliedBefore b a = true) : a.key = b.key := by
  rw [appliedBefore_iff] at hab hba
  have hkeys : ¬ b.key < a.key → ¬ a.key < b.key → a.key = b.key := fun h h' =>
    String.le_antisymm (String.not_lt.1 h) (String.not_lt.1 h')
  grind

theorem created_eq_of_appliedBefore {a b : IngressObject} (hab : appliedBefore a b = true)
    (hba : appliedBefore b a = true) : a.created = b.created := by
  rw [appliedBefore_iff] at hab hba
  rcases hab with hlt | ⟨he, _⟩
  · rcases hba with hlt' | ⟨he, _⟩
    · exact absurd hlt' (UInt64.lt_asymm hlt)
    · exact he.symm
  · exact he

/-- **Age and key decide the order of application.** -/
theorem inOrder_eq_of_perm {objects' : List IngressObject} (hp : objects.Perm objects')
    (hd : (objects.map fun o => (o.created, o.key)).Nodup) : inOrder objects = inOrder objects' := by
  have hperm : (inOrder objects).Perm (inOrder objects') :=
    ((List.mergeSort_perm objects _).trans hp).trans (List.mergeSort_perm objects' _).symm
  refine hperm.eq_of_pairwise ?_ (inOrder_pairwise objects) (inOrder_pairwise objects')
  intro a b ha hb hab hba
  have hpair : (a.created, a.key) = (b.created, b.key) := by
    rw [created_eq_of_appliedBefore hab hba, key_eq_of_appliedBefore hab hba]
  exact List.inj_on_of_nodup_map hd (mem_inOrder.1 ha) (hp.mem_iff.2 (mem_inOrder.1 hb)) hpair

/-- Objects that come in any order are applied in the one in which they are in order. -/
theorem inOrder_eq {line : List IngressObject} (hp : objects.Perm line)
    (hd : (objects.map fun o => (o.created, o.key)).Nodup)
    (hline : line.Pairwise fun a b => appliedBefore a b = true) : inOrder objects = line :=
  (inOrder_eq_of_perm hp hd).trans (List.mergeSort_of_pairwise hline)

theorem inOrder_distinct (h : (objects.map IngressObject.key).Nodup) :
    (inOrder objects).Pairwise fun a b => a.key ≠ b.key :=
  List.pairwise_map.1 (((List.mergeSort_perm objects appliedBefore).map _).nodup_iff.2 h)

theorem orderly_turns (h : (objects.map IngressObject.key).Nodup) :
    Orderly (snapshotTurns enabled objects kind) where
  own t ht c hc := by
    obtain ⟨o, _, rfl⟩ := List.mem_map.1 ht
    exact (mem_turn hc).1
  once := List.pairwise_map.2 (inOrder_distinct h)
  aging := by
    have hsorted := inOrder_pairwise objects
    rw [snapshotTurns]
    generalize inOrder objects = os at hsorted
    rw [turns, List.flatMap_map, List.pairwise_flatMap]
    refine ⟨fun o _ => ?_, hsorted.imp fun hab c hc d hd => ?_⟩
    · refine List.pairwise_of_forall_mem_list fun c hc d hd => ?_
      rw [(mem_turn hc).2, (mem_turn hd).2]
      exact UInt64.le_refl _
    · rw [(mem_turn hc).2, (mem_turn hd).2]
      rcases appliedBefore_iff.1 hab with hlt | ⟨he, _⟩
      · exact UInt64.le_of_lt hlt
      · exact he ▸ UInt64.le_refl _

/-! ## What a reconciliation comes to -/

theorem Reachable.apply_sound (h : Reachable enabled g) (events : List Event) :
    ∃ L, (g.apply events).state.books.Lists L :=
  ⟨_, (Reachable.apply h events).registered.lists⟩

theorem Registered.mem_knownSources (h : Registered enabled g L) {s : String} :
    s ∈ g.knownSources ↔ g.backends.contains s = true := by
  have hroute : s ∈ g.route.roster.sources → g.backends.contains s = true := fun hs => by
    obtain ⟨b, hb, rfl⟩ := (h.lists.route.lists.mem_sources_iff h.lists.route.sound.roster).1 hs
    exact h.owners .route b hb
  have hredirect : s ∈ (g.redirect.map (·.roster.sources)).getD [] → g.backends.contains s = true := by
    intro hs
    cases hk : g.redirect with
    | none => rw [hk] at hs; cases hs
    | some k =>
      rw [hk] at hs
      have hl := h.lists.redirect k hk
      obtain ⟨b, hb, rfl⟩ := (hl.lists.mem_sources_iff hl.sound.roster).1 hs
      exact h.owners .redirect b hb
  rw [knownSources, Dict.mem_keys_iff, StringSet.contains_ofList, List.mem_append, List.mem_append,
    Dict.mem_keys_iff]
  tauto

/-- The removals always succeed. -/
theorem Reachable.accepted_iff (h : Reachable enabled g) :
    (∀ x ∈ (g.reconcile objects).answer, x.source ∈ objects.map IngressObject.key → x.isOk = true) ↔
      ∀ x ∈ (g.apply ((inOrder objects).map .upsert)).answer, x.isOk = true := by
  obtain ⟨hanswer, _⟩ := reconcile_eq g objects
  rw [hanswer]
  constructor
  · intro hall x hx
    refine hall x (List.mem_append_left _ hx) ?_
    have hsource := source_of_mem_apply hx
    rw [List.map_map] at hsource
    obtain ⟨o, ho, he⟩ := List.mem_map.1 hsource
    exact List.mem_map.2 ⟨o, mem_inOrder.1 ho, he⟩
  · intro hall x hx _
    rcases List.mem_append.1 hx with hx | hx
    · exact hall x hx
    · obtain ⟨L, hL⟩ := h.apply_sound ((inOrder objects).map .upsert)
      refine (apply_deletions hL fun s hs => ?_).1 x hx
      have hr := h.registered
      exact hr.keyed s (hr.mem_knownSources.1 (List.mem_filter.1 hs).1)

theorem mem_stale (h : Registered enabled g L) {s : String} :
    s ∈ g.stale objects ↔ g.backends.contains s = true ∧ s ∉ (inOrder objects).map IngressObject.key := by
  rw [stale, List.mem_filter, h.mem_knownSources, Bool.not_eq_true', ← Bool.not_eq_true,
    StringSet.contains_ofList]

/-- Where only sources of the snapshot are registered, there is nothing to remove. -/
theorem Registered.reconcile_eq_apply (h : Registered enabled g L)
    (hkeys : ∀ s, g.backends.contains s = true → s ∈ (inOrder objects).map IngressObject.key) :
    (g.reconcile objects).answer = (g.apply ((inOrder objects).map .upsert)).answer ∧
      (g.reconcile objects).state = (g.apply ((inOrder objects).map .upsert)).state := by
  have hstale : g.stale objects = [] := by
    refine List.eq_nil_iff_forall_not_mem.2 fun s hs => ?_
    obtain ⟨hregistered, hnot⟩ := (mem_stale h).1 hs
    exact hnot (hkeys s hregistered)
  obtain ⟨hanswer, hstate⟩ := reconcile_eq g objects
  rw [hanswer, hstate, hstale]
  exact ⟨List.append_nil _, rfl⟩

/-- The splits that the objects of a snapshot ask for. -/
def snapshotSplits (enabled : Bool) (objects : List IngressObject) : Dict ClusterSplits :=
  (inOrder objects).foldl (fun d o => d.put o.key (splitsOf enabled o)) ∅

theorem Registered.settledBy_eq (h : Registered enabled g L) :
    settledBy enabled objects L = fun kind =>
      (replay (L kind) (snapshotTurns enabled objects kind)).filter (·.source ∉ g.stale objects) := by
  funext kind
  have hkeys : (snapshotTurns enabled objects kind).map Turn.source =
      (inOrder objects).map IngressObject.key := by
    rw [snapshotTurns, turns, List.map_map]
    rfl
  refine List.filter_congr fun b hb => ?_
  rw [decide_eq_decide, mem_stale h, hkeys, not_and, not_not]
  refine ⟨fun hk _ => hk, fun himp => ?_⟩
  rcases mem_replay hb with ⟨t, ht, hc⟩ | hold
  · obtain ⟨o, ho, rfl⟩ := List.mem_map.1 ht
    rw [(mem_turn hc).1]
    exact List.mem_map_of_mem ho
  · exact himp (h.owners kind b hold)

theorem Registered.snapshotSplits_eq (h : Registered enabled g L) :
    (g.stale objects).foldl Dict.erase
        ((inOrder objects).foldl (fun d o => d.put o.key (splitsOf enabled o)) g.splits) =
      snapshotSplits enabled objects := by
  refine Dict.ext_get? fun k => ?_
  rw [Dict.get?_foldl_erase, Dict.get?_foldl_put, snapshotSplits, Dict.get?_foldl_put _ _ _ ∅]
  by_cases hk : k ∈ (inOrder objects).map IngressObject.key
  · have hnot : k ∉ g.stale objects := fun hs => ((mem_stale h).1 hs).2 hk
    rw [if_neg hnot, if_pos hk]
  · rw [if_neg hk, if_neg hk]
    split
    · rfl
    · next hs =>
      rw [mem_stale h, not_and_not_right] at hs
      cases hg : g.splits.get? k with
      | none => rfl
      | some v => exact absurd (hs (h.splits k (by rw [Dict.contains, hg]; rfl))) hk

/-- **What is in force after an accepted snapshot**: what its turns leave of the
bindings in force before, and the splits of its own objects only. -/
theorem Reachable.reconciled (h : Reachable enabled g)
    (hok : ∀ x ∈ (g.apply ((inOrder objects).map .upsert)).answer, x.isOk = true) :
    (g.reconcile objects).state.books.Lists (settledBy enabled objects g.inForce) ∧
      (g.reconcile objects).state.splits = snapshotSplits enabled objects := by
  have hr := h.registered
  obtain ⟨hlists, hsplits⟩ := (apply_upserts hr.lists (inOrder objects)).2 hok
  rw [hr.enabled] at hlists hsplits
  obtain ⟨_, hlast, hlastSplits⟩ := apply_deletions hlists fun s hs => hr.keyed s ((mem_stale hr).1 hs).1
  rw [(reconcile_eq g objects).2, hlastSplits, hsplits, hr.snapshotSplits_eq, hr.settledBy_eq]
  exact ⟨hlast, rfl⟩

/-! ## Tables of lists -/

/-- The rows of a route table of these bindings. -/
def routeRows (bs : List Binding) : Except Fault RouteTable :=
  (Rules.ofSites (Roster.sitesOf bs)).map fun rules => RouteTable.ofRules rules ∅

/-- The rows of a redirect table of these bindings. -/
def redirectRows (bs : List Binding) : Except Fault RedirectTable :=
  (Rules.ofSites (Roster.sitesOf bs)).map RedirectTable.ofRules

theorem rules_of_compile {k : Rulebook} {bs : List Binding} {rules : Rules} (hl : k.Lists kind bs)
    (hc : k.compile.1 = .ok rules) : Rules.ofSites (Roster.sitesOf bs) = .ok rules := by
  rw [← hl.lists.rules_eq hl.sound.roster]
  exact Rulebook.compile_eq_ok_iff.1 hc

theorem route_table_eq (h : g.InStep) (hl : g.books.Lists L) :
    ∃ rules, Rules.ofSites (Roster.sitesOf (L .route)) = .ok rules ∧
      g.routeEdition.table = RouteTable.ofRules rules (balance g.splits) := by
  obtain ⟨rules, hc, ht⟩ := h.route
  exact ⟨rules, rules_of_compile hl.route hc, ht⟩

theorem publish_quiet {b : Books} {tables : RouteTable × Option RedirectTable} {splits : ClusterSplits}
    (hr : b.Rendered splits tables) (hn : b.redirect = none) (g : Gateway) :
    (g.publish tables).redirectEdition = g.redirectEdition := by
  obtain ⟨table, t⟩ := tables
  have hrel := hr.redirect
  rw [hn] at hrel
  cases hrel
  rfl

/-- Without redirects the redirect table stays empty. -/
theorem Reachable.quiet (h : Reachable false g) :
    g.redirect = none ∧ g.redirectEdition.table = .empty := by
  have hall : g.Settled ∧ g.redirect = none ∧ g.redirectEdition.table = .empty := by
    refine h.invariant (I := fun g => g.Settled ∧ g.redirect = none ∧ g.redirectEdition.table = .empty)
      ⟨settled_empty false, rfl, rfl⟩ ?_ ?_
    · rintro g o ⟨hs, hn, hq⟩
      refine ⟨hs.upsert o, ?_⟩
      have hcases := upsert_cases hs.sound o
      cases he : (g.upsert o).answer with
      | error e => rw [hs.upsert_refused he]; exact ⟨hn, hq⟩
      | ok _ =>
        rw [he] at hcases
        generalize (g.upsert o).state = state at hcases
        cases hcases with
        | applied p tables planned put rendered =>
          have hkept := (putPlan_keeps hs.sound p).1.redirect_isSome
          have hput : (g.putPlan p).state.redirect = none := by
            simpa [Books.map, books, hn] using hkept
          have hnone : ((g.putPlan p).state.map Rulebook.commit).redirect = none := by
            rw [Books.map, hput]; rfl
          exact ⟨hnone, by rw [publish_quiet rendered hput]; exact hq⟩
    · rintro g namespaceName name ⟨hs, hn, hq⟩
      refine ⟨hs.delete namespaceName name, ?_⟩
      obtain ⟨_, tables, hrendered, hstate⟩ := delete_cases hs.sound namespaceName name
      have hnone : (g.without (sourceKey namespaceName name)).redirect = none := by
        simp [without, withBooks, Books.map, books, hn]
      rw [hstate]
      exact ⟨hnone, by rw [publish_quiet hrendered hnone]; exact hq⟩
  exact hall.2

theorem redirect_table_eq (h : Reachable enabled g) (hl : g.books.Lists L) :
    ∃ rules, Rules.ofSites (Roster.sitesOf (L .redirect)) = .ok rules ∧
      g.redirectEdition.table = RedirectTable.ofRules rules := by
  cases hk : g.redirect with
  | none =>
    have henabled : enabled = false := by
      rw [← h.registered.enabled, Gateway.redirectEnabled, hk]; rfl
    subst henabled
    refine ⟨⟨[], []⟩, ?_, h.quiet.2⟩
    rw [hl.absent hk, ← Roster.lists_empty.rules_eq Roster.sound_empty, Roster.rules_empty]
  | some k =>
    obtain ⟨rules, hc, ht⟩ := h.settled_inStep.2.redirect k hk
    exact ⟨rules, rules_of_compile (hl.redirect k hk) hc, ht⟩

theorem ofRules_eq_iff {rules rules' : Rules} (balance : ClusterSplits) :
    RouteTable.ofRules rules balance = RouteTable.ofRules rules' balance ↔
      RouteTable.ofRules rules ∅ = RouteTable.ofRules rules' ∅ := by
  simp [RouteTable.ofRules]

/-! ## Claims and the bindings in force -/

/-- Each claim of the snapshot stands in a relation to its rivals in force,
those apart whose own source is in the snapshot and applied no later. -/
def Faces (R : Binding → Binding → Prop) (g : Gateway) (objects : List IngressObject) : Prop :=
  ∀ kind, ∀ o ∈ objects, ∀ c ∈ (turn g.redirectEnabled o kind).claims, ∀ x ∈ g.inForce kind,
    c.Rivals x → R c x ∨ ∃ o' ∈ objects, o'.key = x.source ∧ appliedBefore o' o = true

/-- No claim has an older rival in force, those apart whose own source is in the
snapshot and applied no later. -/
def Unblocked (g : Gateway) (objects : List IngressObject) : Prop :=
  Faces (fun c x => c.since ≤ x.since) g objects

/-- No claim has a rival in force at all, those apart. -/
def Undisturbed (g : Gateway) (objects : List IngressObject) : Prop :=
  Faces (fun _ _ => False) g objects

/-- The induction is over the objects in order: those that have had their turn
are the ones whose bindings no longer count. -/
theorem meets_iff {R : Binding → Binding → Prop} {os : List IngressObject}
    (hsorted : os.Pairwise fun a b => appliedBefore a b = true)
    (hd : os.Pairwise fun a b => a.key ≠ b.key) (bs : List Binding) :
    Meets R bs (turns enabled os kind) ↔
      ∀ o ∈ os, ∀ c ∈ (turn enabled o kind).claims, ∀ x ∈ bs, c.Rivals x →
        R c x ∨ ∃ o' ∈ os, o'.key = x.source ∧ appliedBefore o' o = true := by
  induction os generalizing bs with
  | nil => simp [turns, Meets]
  | cons o os ih =>
    obtain ⟨hfirst, hsorted⟩ := List.pairwise_cons.1 hsorted
    obtain ⟨hne, hd⟩ := List.pairwise_cons.1 hd
    have hself : appliedBefore o o = true := by simpa using appliedBefore_total o o
    rw [turns, List.map_cons, Meets]
    change (_ ∧ Meets R (withoutSource o.key bs) (turns enabled os kind)) ↔ _
    rw [ih hsorted hd]
    constructor
    · rintro ⟨hhead, hrest⟩ o₁ ho₁ c hc x hx hr
      by_cases hs : x.source = o.key
      · refine .inr ⟨o, List.mem_cons_self, hs.symm, ?_⟩
        rcases List.mem_cons.1 ho₁ with rfl | ho₁
        · exact hself
        · exact hfirst o₁ ho₁
      · have hx' := mem_withoutSource.2 ⟨hx, hs⟩
        rcases List.mem_cons.1 ho₁ with rfl | ho₁
        · exact .inl (hhead c hc x hx' hr)
        · obtain hR | ⟨o', ho', hbefore⟩ := hrest o₁ ho₁ c hc x hx' hr
          · exact .inl hR
          · exact .inr ⟨o', List.mem_cons_of_mem _ ho', hbefore⟩
    · intro hall
      refine ⟨fun c hc x hx hr => ?_, fun o₁ ho₁ c hc x hx hr => ?_⟩
      · obtain ⟨hx, hs⟩ := mem_withoutSource.1 hx
        obtain hR | ⟨o', ho', hkey, hbefore⟩ := hall o List.mem_cons_self c hc x hx hr
        · exact hR
        · rcases List.mem_cons.1 ho' with rfl | ho'
          · exact absurd hkey.symm hs
          · exact absurd (key_eq_of_appliedBefore (hfirst o' ho') hbefore) (hne o' ho')
      · obtain ⟨hx, hs⟩ := mem_withoutSource.1 hx
        obtain hR | ⟨o', ho', hkey, hbefore⟩ := hall o₁ (List.mem_cons_of_mem _ ho₁) c hc x hx hr
        · exact .inl hR
        · rcases List.mem_cons.1 ho' with rfl | ho'
          · exact absurd hkey.symm hs
          · exact .inr ⟨o', ho', hkey, hbefore⟩

theorem faces_iff {R : Binding → Binding → Prop} (he : g.redirectEnabled = enabled)
    (hd : (objects.map IngressObject.key).Nodup) :
    Faces R g objects ↔ ∀ kind, Meets R (g.inForce kind) (snapshotTurns enabled objects kind) := by
  subst he
  refine forall_congr' fun kind => ?_
  rw [snapshotTurns, meets_iff (inOrder_pairwise objects) (inOrder_distinct hd)]
  simp only [mem_inOrder]

/-! ## Convergence -/

/-- Nothing in force. -/
def nothing : Standing := fun _ => []

theorem inForce_empty (enabled : Bool) : (Gateway.empty enabled).inForce = nothing := by
  funext kind
  cases kind with
  | route => rfl
  | redirect => cases enabled <;> rfl

/-- A gateway that starts with the snapshot accepts all of it. -/
def FreshlyAccepted (enabled : Bool) (objects : List IngressObject) : Prop :=
  ∀ x ∈ ((Gateway.empty enabled).reconcile objects).answer, x.isOk = true

theorem FreshlyAccepted.upserts (h : FreshlyAccepted enabled objects) :
    ∀ x ∈ ((Gateway.empty enabled).apply ((inOrder objects).map .upsert)).answer, x.isOk = true :=
  (Reachable.accepted_iff .empty).1 fun x hx _ => h x hx

theorem Reachable.accepted_iff_unblocked (h : Reachable enabled g)
    (hd : (objects.map IngressObject.key).Nodup) (hfresh : FreshlyAccepted enabled objects) :
    (∀ x ∈ (g.apply ((inOrder objects).map .upsert)).answer, x.isOk = true) ↔ Unblocked g objects := by
  have hr := h.registered
  have he := registered_empty enabled
  obtain ⟨hvalid, hturns⟩ := (apply_upserts he.lists (inOrder objects)).1.1 hfresh.upserts
  rw [he.enabled] at hvalid hturns
  rw [(apply_upserts hr.lists (inOrder objects)).1, hr.enabled, Unblocked, faces_iff hr.enabled hd,
    and_iff_right hvalid]
  exact forall_congr' fun kind => acceptsAll_iff (orderly_turns hd) (hturns kind) _

/-- Once a snapshot is accepted, the tables agree where their rows do. -/
theorem Reachable.tables_iff (h : Reachable enabled g) (hd : (objects.map IngressObject.key).Nodup)
    (hfresh : FreshlyAccepted enabled objects) (hu : Unblocked g objects) :
    let fresh := (Gateway.empty enabled).reconcile objects
    ((g.reconcile objects).state.routeEdition.table = fresh.state.routeEdition.table ↔
      routeRows (settledBy enabled objects g.inForce .route) =
        routeRows (settledBy enabled objects nothing .route)) ∧
    ((g.reconcile objects).state.redirectEdition.table = fresh.state.redirectEdition.table ↔
      redirectRows (settledBy enabled objects g.inForce .redirect) =
        redirectRows (settledBy enabled objects nothing .redirect)) := by
  have hempty : Reachable enabled (Gateway.empty enabled) := .empty
  obtain ⟨hlists, hsplits⟩ := h.reconciled ((h.accepted_iff_unblocked hd hfresh).2 hu)
  obtain ⟨hlists', hsplits'⟩ := hempty.reconciled hfresh.upserts
  rw [inForce_empty] at hlists'
  obtain ⟨rules, hrules, htable⟩ := route_table_eq (h.reconcile objects).settled_inStep.2 hlists
  obtain ⟨rules', hrules', htable'⟩ := route_table_eq (hempty.reconcile objects).settled_inStep.2 hlists'
  obtain ⟨more, hmore, hrows⟩ := redirect_table_eq (h.reconcile objects) hlists
  obtain ⟨more', hmore', hrows'⟩ := redirect_table_eq (hempty.reconcile objects) hlists'
  refine ⟨?_, ?_⟩
  · rw [htable, htable', hsplits, hsplits', ofRules_eq_iff, routeRows, routeRows, hrules, hrules']
    simp [Except.map]
  · rw [hrows, hrows', redirectRows, redirectRows, hmore, hmore']
    simp [Except.map]

/-- **When a reconciliation converges.** Given a snapshot that is accepted where
it is all there is, every object of it is accepted, and the tables are those of
the snapshot alone, exactly when no claim has an older rival in force, other
than of sources applied no later, and what the snapshot leaves in force has the
same rows as what it comes to by itself. -/
theorem Reachable.converges_iff (h : Reachable enabled g)
    (hd : (objects.map IngressObject.key).Nodup) (hfresh : FreshlyAccepted enabled objects) :
    Converges g objects ↔ Unblocked g objects ∧
      routeRows (settledBy enabled objects g.inForce .route) =
        routeRows (settledBy enabled objects nothing .route) ∧
      redirectRows (settledBy enabled objects g.inForce .redirect) =
        redirectRows (settledBy enabled objects nothing .redirect) := by
  obtain rfl : g.redirectEnabled = enabled := h.registered.enabled
  have haccepted := h.accepted_iff.trans (h.accepted_iff_unblocked hd hfresh)
  constructor
  · rintro ⟨hall, hroute, hredirect⟩
    have hu := haccepted.1 hall
    obtain ⟨hrows, hmore⟩ := h.tables_iff hd hfresh hu
    exact ⟨hu, hrows.1 hroute, hmore.1 hredirect⟩
  · rintro ⟨hu, hroute, hredirect⟩
    obtain ⟨hrows, hmore⟩ := h.tables_iff hd hfresh hu
    exact ⟨haccepted.2 hu, hrows.2 hroute, hmore.2 hredirect⟩

/-- One object is in place, and a younger one is refused. -/
def heldPlace : Step Gateway (Except Rejection Unit) :=
  ((Gateway.empty false).upsert (plainObject "old" 5)).state.upsert (plainObject "late" 7)

/-- The object in place is gone from the snapshot, and an older one takes the place before. -/
theorem converges_iff_displaced :
    let objects := [plainObject "new" 1]
    heldPlace.answer = .error (.conflict ⟨"ns/late", "ns/old", "example.com", "/foo"⟩) ∧
      (heldPlace.state.reconcile objects).answer = [⟨"ns/new", .ok ()⟩, ⟨"ns/old", .ok ()⟩] ∧
      FreshlyAccepted false objects ∧ Converges heldPlace.state objects ∧
      Unblocked heldPlace.state objects ∧
      routeRows (settledBy false objects heldPlace.state.inForce .route) =
        routeRows (settledBy false objects nothing .route) ∧
      redirectRows (settledBy false objects heldPlace.state.inForce .redirect) =
        redirectRows (settledBy false objects nothing .redirect) := by
  intro objects
  have hrefused : heldPlace.answer =
      .error (.conflict ⟨"ns/late", "ns/old", "example.com", "/foo"⟩) := by decide +kernel
  have hheld : Reachable false heldPlace.state :=
    .upsert (.upsert .empty (plainObject "old" 5)) (plainObject "late" 7)
  have hanswer : (heldPlace.state.reconcile [plainObject "new" 1]).answer =
      [⟨"ns/new", .ok ()⟩, ⟨"ns/old", .ok ()⟩] := by decide +kernel
  have hfresh : ((Gateway.empty false).reconcile [plainObject "new" 1]).answer =
      [⟨"ns/new", .ok ()⟩] := by decide +kernel
  have haccepted : FreshlyAccepted false [plainObject "new" 1] := by
    rw [FreshlyAccepted, hfresh]
    simp [Outcome.isOk, Except.isOk, Except.toBool]
  have hconverges : Converges heldPlace.state [plainObject "new" 1] := by
    refine ⟨fun x hx _ => ?_, by decide +kernel, by decide +kernel⟩
    rw [hanswer] at hx
    simp only [List.mem_cons, List.not_mem_nil, or_false] at hx
    rcases hx with rfl | rfl <;> rfl
  exact ⟨hrefused, hanswer, haccepted, hconverges,
    (Reachable.converges_iff hheld (by decide) haccepted).1 hconverges⟩

/-- A source that is gone refuses an object applied before its removal. The
object stays out although nothing is left that it could be in conflict with. -/
theorem reconcile_blocked :
    let g := ((Gateway.empty false).upsert (plainObject "old" 1)).state
    let objects := [plainObject "new" 5]
    Reachable false g ∧ (objects.map IngressObject.key).Nodup ∧ FreshlyAccepted false objects ∧
      ¬ Converges g objects := by
  have hfresh : ((Gateway.empty false).reconcile [plainObject "new" 5]).answer = [⟨"ns/new", .ok ()⟩] := by
    decide +kernel
  have hanswer : (((Gateway.empty false).upsert (plainObject "old" 1)).state.reconcile
      [plainObject "new" 5]).answer =
        [⟨"ns/new", .error (.conflict ⟨"ns/new", "ns/old", "example.com", "/foo"⟩)⟩,
          ⟨"ns/old", .ok ()⟩] := by
    decide +kernel
  refine ⟨.upsert .empty _, by decide, ?_, fun hc => ?_⟩
  · rw [FreshlyAccepted, hfresh]
    simp [Outcome.isOk, Except.isOk, Except.toBool]
  · have haccepted := hc.accepted
    rw [hanswer] at haccepted
    have hnew := haccepted _ List.mem_cons_self (by decide)
    cases hnew

/-- An undisturbed snapshot converges, from whatever bindings are in force. -/
theorem Reachable.converges (h : Reachable enabled g) (hd : (objects.map IngressObject.key).Nodup)
    (hfresh : FreshlyAccepted enabled objects) (hu : Undisturbed g objects) : Converges g objects := by
  obtain rfl : g.redirectEnabled = enabled := h.registered.enabled
  have hunblocked : Unblocked g objects := fun kind o ho c hc x hx hr =>
    (hu kind o ho c hc x hx hr).imp False.elim id
  have hsettled : settledBy g.redirectEnabled objects g.inForce =
      settledBy g.redirectEnabled objects nothing :=
    funext fun kind => settled_eq ((faces_iff rfl hd).1 hu kind)
  obtain ⟨hrows, hmore⟩ := h.tables_iff hd hfresh hunblocked
  rw [hsettled] at hrows hmore
  exact ⟨h.accepted_iff.2 ((h.accepted_iff_unblocked hd hfresh).2 hunblocked), hrows.2 rfl, hmore.2 rfl⟩

end IngressRouting.Gateway
