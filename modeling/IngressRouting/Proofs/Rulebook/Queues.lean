/-
Bindings that precedence does not tell apart are tried in the order in which they are
listed. Those of one place, one class of traits and one age form a queue (`Binding.queue`),
and that is all there is to the order of a list: the same bindings in two lists come to the
same tables exactly when every queue has the same rows in both
(`Rulebook.Lists.route_eq_iff`, `Rulebook.Lists.redirect_eq_iff`).

The tier is sorted by precedence and then by place, so queues follow each other in it the
same way whatever the list (`Roster.Lists.map_queue_advanced`).
-/
import IngressRouting.Proofs.Rulebook.Criteria
import IngressRouting.Proofs.Rulebook.Submissions

namespace IngressRouting

/-! ## Lists by keys -/

section keys

variable {α β γ κ : Type} [DecidableEq κ] {key : α → κ} {l l' : List α}

theorem map_eq_iff_of_keys (f : α → β) (h : l.map key = l'.map key) : l.map f = l'.map f ↔
    ∀ k, (l.filter (key · = k)).map f = (l'.filter (key · = k)).map f := by
  induction l generalizing l' with
  | nil =>
    obtain rfl : l' = [] := List.map_eq_nil_iff.1 h.symm
    exact iff_of_true rfl fun _ => rfl
  | cons a l ih =>
    obtain ⟨a', l', rfl, ha, hl⟩ := List.map_eq_cons_iff.1 h.symm
    have hrest := ih hl.symm
    rw [List.map_cons, List.map_cons, List.cons.injEq, hrest]
    constructor
    · rintro ⟨hf, hall⟩ k
      rw [List.filter_cons, List.filter_cons, ha]
      split
      · rw [List.map_cons, List.map_cons, hf, hall]
      · exact hall k
    · intro hall
      have hf : f a = f a' := by
        have hhead := hall (key a)
        rw [List.filter_cons_of_pos (by simp), List.filter_cons_of_pos (by simp [ha])] at hhead
        exact (List.cons.inj hhead).1
      refine ⟨hf, fun k => ?_⟩
      have hk := hall k
      rw [List.filter_cons, List.filter_cons, ha] at hk
      split at hk
      · exact (List.cons.inj hk).2
      · exact hk

/-- What renders lists one for one is the same for both exactly when the images are. -/
theorem eq_iff_of_forall₂ {R : α → β → Prop} {f : β → γ} {as as' : List α} {bs bs' : List β}
    (hR : ∀ a a' b b', R a b → R a' b' → (a = a' ↔ f b = f b')) (h : List.Forall₂ R as bs)
    (h' : List.Forall₂ R as' bs') : as = as' ↔ bs.map f = bs'.map f := by
  induction h generalizing as' bs' with
  | nil => cases h' <;> simp
  | cons hab _ ih =>
    cases h' with
    | nil => simp
    | cons hab' hrest' =>
      rw [List.cons.injEq, List.map_cons, List.map_cons, List.cons.injEq, hR _ _ _ _ hab hab', ih hrest']

theorem eq_of_perm_of_length_le_one (h : l.Perm l') (hlen : l.length ≤ 1) : l = l' := by
  cases l with
  | nil => exact h.nil_eq
  | cons a l =>
    obtain rfl : l = [] := List.eq_nil_of_length_eq_zero (by simpa using hlen)
    exact List.singleton_perm.1 h

end keys

theorem TraitClass.rank_injective {c c' : TraitClass} (h : c.rank = c'.rank) : c = c' := by
  cases c <;> cases c' <;> first | rfl | exact absurd h (by decide)

/-! ## Queues -/

namespace Binding

variable {a b c d : Binding}

/-- The queue of a binding: its place, and what precedence looks at besides. -/
def queue (b : Binding) : String × String × TraitClass × UInt64 :=
  (b.host, b.path, b.annotations.traitClass, b.since)

theorem queue_eq_iff : a.queue = b.queue ↔ a.host = b.host ∧ a.path = b.path ∧
    a.annotations.traitClass = b.annotations.traitClass ∧ a.since = b.since := by
  simp only [queue, Prod.mk.injEq]

theorem order_congr (h : a.queue = c.queue) (h' : b.queue = d.queue) :
    Precedence.order a b = Precedence.order c d := by
  obtain ⟨hhost, hpath, hclass, hsince⟩ := queue_eq_iff.1 h
  obtain ⟨hhost', hpath', hclass', hsince'⟩ := queue_eq_iff.1 h'
  unfold Precedence.order
  rw [hhost, hpath, hclass, hsince, hhost', hpath', hclass', hsince']

theorem order_of_queue (h : a.queue = b.queue) : Precedence.order a b = .eq :=
  (order_congr rfl h.symm).trans Std.ReflCmp.compare_self

theorem TriedBefore.congr (h : a.queue = c.queue) (h' : b.queue = d.queue) (hab : a.TriedBefore b) :
    c.TriedBefore d := by
  obtain ⟨hhost, hpath, _⟩ := queue_eq_iff.1 h
  obtain ⟨hhost', hpath', _⟩ := queue_eq_iff.1 h'
  unfold TriedBefore Before at *
  rwa [← order_congr h h', ← hhost, ← hpath, ← hhost', ← hpath']

theorem TriedBefore.queue_eq (h : a.TriedBefore b) (h' : b.TriedBefore a) : a.queue = b.queue := by
  obtain ⟨hhost, hpath, hsince⟩ := h.tied h'
  have horder : Precedence.order a b = .eq := by
    have hswap : Precedence.order b a = (Precedence.order a b).swap := Std.OrientedCmp.eq_swap
    unfold TriedBefore at h'
    rw [hswap] at h'
    rcases h with h | ⟨h, _⟩
    · simp [h] at h'
    · exact h
  have hclass : compare b.annotations.traitClass.rank a.annotations.traitClass.rank = .eq := by
    unfold Precedence.order at horder
    simp only [Ordering.then_eq_eq] at horder
    exact horder.2.2.1
  have hrank := TraitClass.rank_injective (Std.LawfulEqOrd.eq_of_compare hclass)
  exact queue_eq_iff.2 ⟨hhost, hpath, hrank.symm, hsince⟩

/-- What a binding comes to in a table. -/
def row (b : Binding) : Except Fault String × Effect := (b.condition, b.effect)

end Binding

/-- The same bindings queue in both lists, but for those with the same rows. -/
def SameQueues (bs bs' : List Binding) : Prop :=
  ∀ q, (bs.filter (·.queue = q)).map Binding.row = (bs'.filter (·.queue = q)).map Binding.row

theorem filter_place_queue (bs : List Binding) (q : String × String × TraitClass × UInt64) :
    (bs.filter (·.isAt q.1 q.2.1)).filter (·.queue = q) = bs.filter (·.queue = q) := by
  rw [List.filter_filter]
  refine List.filter_congr fun b _ => ?_
  by_cases hb : b.queue = q
  · subst hb
    simp [Binding.isAt, Binding.queue]
  · simp [hb]

theorem Precedence.filter_queue_sort (bs : List Binding) (q : String × String × TraitClass × UInt64) :
    (sort bs).filter (·.queue = q) = bs.filter (·.queue = q) := by
  by_cases hq : ∃ a ∈ bs, a.queue = q
  · obtain ⟨a, _, rfl⟩ := hq
    have hkept : ∀ l : List Binding, (l.filter fun b => order a b = .eq).filter (·.queue = a.queue) =
        l.filter (·.queue = a.queue) := by
      intro l
      rw [List.filter_filter]
      refine List.filter_congr fun b _ => ?_
      by_cases hb : b.queue = a.queue
      · simp [hb, Binding.order_of_queue hb.symm]
      · simp [hb]
    rw [← hkept, filter_sort, hkept]
  · have hnone : ∀ b ∈ bs, b.queue ≠ q := fun b hb hbq => hq ⟨b, hb, hbq⟩
    have hnone' : ∀ b ∈ sort bs, b.queue ≠ q := fun b hb => hnone b (List.mem_mergeSort.1 hb)
    have hempty : bs.filter (·.queue = q) = [] := List.filter_eq_nil_iff.2 (by simpa using hnone)
    rw [hempty, List.filter_eq_nil_iff]
    simpa using hnone'

namespace Roster

variable {r r' : Roster} {bs bs' : List Binding}

/-- Queues follow each other in the advanced tier in one way only. -/
theorem Lists.map_queue_advanced (hl : r.Lists bs) (hl' : r'.Lists bs') (h : r.Sound) (h' : r'.Sound)
    (hperm : bs.Perm bs') :
    r.tiers.advanced.map Binding.queue = r'.tiers.advanced.map Binding.queue := by
  let S := fun q q' => ∃ a b : Binding, a.queue = q ∧ b.queue = q' ∧ a.TriedBefore b
  have hsorted : ∀ {r : Roster}, r.Sound → (r.tiers.advanced.map Binding.queue).Pairwise S := fun h =>
    List.pairwise_map.2 (h.advanced_tried.imp fun hab => ⟨_, _, rfl, rfl, hab⟩)
  refine ((hl.advanced_perm hl' h h' hperm).map _).eq_of_pairwise (fun q q' _ _ hqq' hq'q => ?_)
    (hsorted h) (hsorted h')
  obtain ⟨a, b, rfl, rfl, hab⟩ := hqq'
  obtain ⟨c, d, hc, hd, hcd⟩ := hq'q
  exact hab.queue_eq (hcd.congr hc hd)

theorem Sound.advanced_eq (h : r.Sound) :
    r.tiers.advanced = Precedence.sort (r.toList.filter (r.DividedAt ·)) := by
  have hsites : ∀ sites : List Site, (∀ s ∈ sites, s ∈ r.toSites) →
      (sites.filter Site.deferred).flatMap Site.bindings =
        (sites.flatMap Site.bindings).filter (r.DividedAt ·) := by
    intro sites hsub
    induction sites with
    | nil => rfl
    | cons s sites ih =>
      have hs := hsub s List.mem_cons_self
      have hdivided : ∀ b ∈ s.bindings, (r.DividedAt b ↔ s.deferred = true) := by
        intro b hb
        obtain ⟨hhost, hpath⟩ := (h.site_place hs).2 b hb
        rw [Site.deferred_iff (h.site_place hs).1, DividedAt, hhost, hpath, (h.mem_toSites.1 hs).2]
      rw [List.flatMap_cons, List.filter_append, ← ih fun t ht => hsub t (List.mem_cons_of_mem _ ht),
        List.filter_cons]
      cases hd : s.deferred with
      | true =>
        rw [if_pos rfl, List.flatMap_cons]
        refine congrArg (· ++ _) (List.filter_eq_self.2 fun b hb => ?_).symm
        exact decide_eq_true ((hdivided b hb).2 hd)
      | false =>
        have hnone : s.bindings.filter (r.DividedAt ·) = [] := by
          refine List.filter_eq_nil_iff.2 fun b hb => ?_
          rw [decide_eq_true_iff, hdivided b hb, hd]
          exact Bool.false_ne_true
        rw [if_neg Bool.false_ne_true, hnone, List.nil_append]
  rw [tiers, hsites _ fun _ => id]
  rfl

/-- A queue of the advanced tier is that of the list, at a divided place. -/
theorem Lists.filter_queue_advanced (hl : r.Lists bs) (h : r.Sound)
    (q : String × String × TraitClass × UInt64) : r.tiers.advanced.filter (·.queue = q) =
      if Divided (r.listing q.1 q.2.1) then bs.filter (·.queue = q) else [] := by
  have hlisted : r.toList.filter (·.queue = q) = bs.filter (·.queue = q) := by
    rw [← filter_place_queue, ← h.lists_toList, hl, filter_place_queue]
  rw [h.advanced_eq, Precedence.filter_queue_sort, List.filter_filter, ← hlisted]
  split
  · next hd =>
    refine List.filter_congr fun b _ => ?_
    by_cases hb : b.queue = q
    · subst hb
      have hdb : r.DividedAt b := hd
      simp [hdb]
    · simp [hb]
  · next hd =>
    refine List.filter_eq_nil_iff.2 fun b _ hb => ?_
    simp only [Bool.and_eq_true, decide_eq_true_iff] at hb
    obtain ⟨rfl, hdb⟩ := hb
    exact hd hdb

/-- **The advanced tiers have the same rows exactly when the queues do.** -/
theorem Lists.map_row_advanced (hl : r.Lists bs) (hl' : r'.Lists bs') (h : r.Sound) (h' : r'.Sound)
    (hperm : bs.Perm bs') :
    r.tiers.advanced.map Binding.row = r'.tiers.advanced.map Binding.row ↔ SameQueues bs bs' := by
  rw [map_eq_iff_of_keys Binding.row (hl.map_queue_advanced hl' h h' hperm), SameQueues]
  refine forall_congr' fun q => ?_
  have hplace : (r.listing q.1 q.2.1).Perm (r'.listing q.1 q.2.1) := by
    rw [hl, hl']
    exact hperm.filter _
  have hdivided := Divided.congr hplace
  rw [hl.filter_queue_advanced h, hl'.filter_queue_advanced h']
  by_cases hd : Divided (r.listing q.1 q.2.1)
  · rw [if_pos hd, if_pos (hdivided.1 hd)]
  · rw [if_neg hd, if_neg fun hd' => hd (hdivided.2 hd')]
    -- an undivided place has one binding at most, which is a queue in one order only
    have hsub : (bs.filter (·.queue = q)).Sublist (r.listing q.1 q.2.1) := by
      rw [← filter_place_queue, ← hl]
      exact List.filter_sublist
    have hshort : ¬ 2 ≤ (r.listing q.1 q.2.1).length := fun hlong => hd (.inl hlong)
    have hone : (bs.filter (·.queue = q)).length ≤ 1 := by
      have hlen := hsub.length_le
      omega
    exact iff_of_true rfl (congrArg _ (eq_of_perm_of_length_le_one (hperm.filter _) hone))

end Roster

/-! ## Tables -/

/-- The row forwards as the binding says, on the condition of the binding. -/
structure AdvancedRow.Renders (row : AdvancedRow) (b : Binding) : Prop where
  condition : Condition.build b.host b.path b.annotations = .ok row.condition
  effect : b.effect = .forward row.cluster

theorem RouteTable.forall₂_row {as : List Rule} {bs : List Binding}
    (h : List.Forall₂ Rule.Renders as bs) (hkind : ∀ b ∈ bs, b.kind = .route) :
    List.Forall₂ AdvancedRow.Renders (as.filterMap advancedRow?) bs := by
  induction h with
  | nil => exact .nil
  | @cons a b as bs hrender _ ih =>
    obtain ⟨target, htarget⟩ := Binding.forward_of_kind (hkind b List.mem_cons_self)
    have hrow : advancedRow? a = some ⟨a.condition, target⟩ := by
      rw [advancedRow?, hrender.action, htarget]
    have heffect : b.effect = .forward target := by
      cases he : b.effect with
      | forward t => rw [he] at htarget; cases htarget; rfl
      | redirect action status => rw [he] at htarget; cases htarget
    rw [List.filterMap_cons_some hrow]
    exact .cons ⟨hrender.condition, heffect⟩ (ih fun c hc => hkind c (List.mem_cons_of_mem _ hc))

theorem AdvancedRow.Renders.eq_iff {r r' : AdvancedRow} {b b' : Binding} (h : r.Renders b)
    (h' : r'.Renders b') : r = r' ↔ b.row = b'.row := by
  rw [Binding.row, Binding.row, Binding.condition, Binding.condition, h.condition, h'.condition, h.effect,
    h'.effect]
  cases r
  cases r'
  simp

theorem RedirectRow.Renders.eq_iff {r r' : RedirectRow} {b b' : Binding} (h : r.Renders b)
    (h' : r'.Renders b') : r = r' ↔ b.row = b'.row := by
  obtain ⟨action, hactions, heffect⟩ := h.effect
  obtain ⟨action', hactions', heffect'⟩ := h'.effect
  rw [Binding.row, Binding.row, Binding.condition, Binding.condition, h.condition, h'.condition, heffect,
    heffect']
  cases r
  cases r'
  simp_all

namespace Rulebook

variable {k k' : Rulebook} {bs bs' : List Binding} {rules rules' : Rules}

/-- **Route tables of the same bindings are the same exactly when the queues are.** -/
theorem Lists.route_eq_iff (hl : k.Lists .route bs) (hl' : k'.Lists .route bs') (hperm : bs.Perm bs')
    (hkind : ∀ b ∈ bs, b.kind = .route) (hr : k.compile.1 = .ok rules) (hr' : k'.compile.1 = .ok rules')
    (balance : Dict Split) :
    RouteTable.ofRules rules balance = RouteTable.ofRules rules' balance ↔ SameQueues bs bs' := by
  have h := hl.sound.roster
  have h' := hl'.sound.roster
  have hrows := RouteTable.forall₂_row (h.renders (compile_eq_ok_iff.1 hr)).2 fun b hb =>
    hkind b (hl.lists.mem_advanced h hb)
  have hrows' := RouteTable.forall₂_row (h'.renders (compile_eq_ok_iff.1 hr')).2 fun b hb =>
    hkind b (hperm.mem_iff.2 (hl'.lists.mem_advanced h' hb))
  rw [← hl.lists.map_row_advanced hl'.lists h h' hperm,
    ← eq_iff_of_forall₂ (fun _ _ _ _ ha ha' => ha.eq_iff ha') hrows hrows', RouteTable.ofRules,
    RouteTable.ofRules, RouteTable.mk.injEq, (hl.basic_eq hl' hperm hr hr').1]
  simp

/-- **So are redirect tables.** -/
theorem Lists.redirect_eq_iff (hl : k.Lists .redirect bs) (hl' : k'.Lists .redirect bs')
    (hperm : bs.Perm bs') (hkind : ∀ b ∈ bs, b.kind = .redirect) (hr : k.compile.1 = .ok rules)
    (hr' : k'.compile.1 = .ok rules') :
    RedirectTable.ofRules rules = RedirectTable.ofRules rules' ↔ SameQueues bs bs' := by
  have h := hl.sound.roster
  have h' := hl'.sound.roster
  have hrows := RedirectTable.forall₂_row (h.renders (compile_eq_ok_iff.1 hr)).2 fun b hb =>
    hkind b (hl.lists.mem_advanced h hb)
  have hrows' := RedirectTable.forall₂_row (h'.renders (compile_eq_ok_iff.1 hr')).2 fun b hb =>
    hkind b (hperm.mem_iff.2 (hl'.lists.mem_advanced h' hb))
  rw [← hl.lists.map_row_advanced hl'.lists h h' hperm,
    ← eq_iff_of_forall₂ (fun _ _ _ _ ha ha' => ha.eq_iff ha') hrows hrows', RedirectTable.ofRules,
    RedirectTable.ofRules, RedirectTable.mk.injEq, List.filterMap_append, List.filterMap_append,
    (hl.basic_eq hl' hperm hr hr').2, List.append_cancel_left_eq]

end Rulebook

end IngressRouting
