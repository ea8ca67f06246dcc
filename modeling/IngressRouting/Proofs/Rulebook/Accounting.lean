/-
Compiling a rulebook accounts for every binding in force: each occupied host and
path has one basic rule, in order, and the rules that are no placeholders are, one
for one, those of the bindings (`Reachable.compile_complete`). So the sizes of both
tables follow from what is in force.

A place goes to the advanced tier by which annotations its bindings have, while a
condition is built from what these say. The two agree because annotations without
the keys of traits have no traits (`Condition.build_plain`).
-/
import IngressRouting.Proofs.Roster.Overview
import IngressRouting.Proofs.Rulebook.Runs
import Mathlib.Data.List.Perm.Basic

namespace IngressRouting

/-- Conditions have to decide among the bindings of a place: there are several, or
one that asks for a cookie or a header. -/
def Divided (bs : List Binding) : Prop :=
  2 ≤ bs.length ∨ ∃ b ∈ bs, b.annotations.contains Annotations.cookieKey = true ∨
    b.annotations.contains Annotations.headerKey = true

instance (bs : List Binding) : Decidable (Divided bs) := inferInstanceAs (Decidable (_ ∨ _))

/-- The rule says what the binding asks for. -/
structure Rule.Renders (r : Rule) (b : Binding) : Prop where
  source : r.source = b.source
  host : r.host = b.host
  path : r.path = b.path
  condition : Condition.build b.host b.path b.annotations = .ok r.condition
  action : r.action = b.effect.toAction

/-- The rule stands for a site in the basic tier. -/
structure Rule.Heads (r : Rule) (s : Site) : Prop where
  host : r.host = s.host
  path : r.path = s.path
  placeholder : r.isPlaceholder = true ↔ Divided s.bindings
  bare : Condition.build s.host s.path ∅ = .ok r.condition
  renders : r.isPlaceholder = false → ∃ b, s.bindings = [b] ∧ r.Renders b

/-- Every binding of a roster of a kind is accounted for in the rules. -/
structure Complete (kind : TableKind) (r : Roster) (rules : Rules) : Prop where
  /-- The basic rules ascend by host and then by path. -/
  ascending : rules.basic.Pairwise fun a b => a.host < b.host ∨ a.host = b.host ∧ a.path < b.path
  /-- They are for the places with a binding. -/
  occupied : ∀ host path, (∃ a ∈ rules.basic, a.host = host ∧ a.path = path) ↔
    ∃ b ∈ r.live, b.host = host ∧ b.path = path
  placeholder : ∀ a ∈ rules.basic, a.isPlaceholder = true ↔ Divided (r.listing a.host a.path)
  /-- A basic rule tests the host and the path only. -/
  bare : ∀ a ∈ rules.basic, Condition.build a.host a.path ∅ = .ok a.condition
  /-- The other rules are those of the bindings in force, one for one. -/
  renders : ∃ bs, bs.Perm r.live ∧ List.Forall₂ Rule.Renders
    (rules.basic.filter (!·.isPlaceholder) ++ rules.advanced) bs
  route : kind = .route → ∀ balance, (RouteTable.ofRules rules balance).size =
    r.size + r.toSites.countP fun s => Divided s.bindings
  redirect : kind = .redirect → (RedirectTable.ofRules rules).size = r.size

/-! ## Conditions without traits -/

theorem Annotations.traitClass_eq_none_iff {a : Annotations} : a.traitClass = .none ↔
    ¬ (a.contains cookieKey = true ∨ a.contains headerKey = true) := by
  rw [traitClass]
  cases a.contains cookieKey <;> cases a.contains headerKey <;> simp

theorem Annotations.traits_of_traitClass {a : Annotations} (h : a.traitClass = .none) :
    a.traits = .ok [] := by
  have hnone : ∀ place : TraitPlace, a.get? place.key = none := fun place => by
    have hnot := traitClass_eq_none_iff.1 h
    simp only [Dict.contains, not_or, Option.isSome_iff_ne_none, ne_eq, not_not] at hnot
    cases place
    exacts [hnot.1, hnot.2]
  simp only [traits, trait?, hnone]
  rfl

/-- **Annotations without traits do not count in a condition.** -/
theorem Condition.build_plain {a : Annotations} (h : a.traitClass = .none) (host path : String) :
    build host path a = build host path ∅ := by
  have hempty : (∅ : Annotations).traits = .ok [] := rfl
  rw [build, build, parse, parse, Annotations.traits_of_traitClass h, hempty]

/-! ## The basic tier -/

theorem Site.deferred_iff {s : Site} (hne : s.bindings ≠ []) : s.deferred = true ↔ Divided s.bindings := by
  rw [Site.deferred]
  cases hb : s.bindings with
  | nil => exact absurd hb hne
  | cons b bs =>
    cases bs with
    | nil =>
      simp only [Divided, bne_iff_ne, ne_eq, Annotations.traitClass_eq_none_iff, not_not]
      simp
    | cons c bs => simp [Divided]

theorem Binding.renders_of_rule {b : Binding} {r : Rule} (h : b.rule = .ok r) : r.Renders b := by
  obtain ⟨text, ht, h⟩ := bind_eq_ok.1 h
  cases h
  exact ⟨rfl, rfl, rfl, ht, rfl⟩

theorem Rule.Renders.not_placeholder {b : Binding} {r : Rule} (h : r.Renders b) :
    r.isPlaceholder = false := by
  rw [Rule.isPlaceholder, h.action]
  cases b.effect <;> rfl

variable {s : Site} {sites : List Site} {rule : Rule} {basic : List Rule} {r : Roster}

theorem Site.heads_of_rule {b : Binding} {bs : List Binding} (hb : s.bindings = b :: bs)
    (hhost : b.host = s.host) (hpath : b.path = s.path)
    (h : (BasicEntry.mk b s.deferred).rule = .ok rule) : rule.Heads s := by
  have hne : s.bindings ≠ [] := by simp [hb]
  rw [BasicEntry.rule] at h
  split at h
  · next hdeferred =>
    obtain ⟨text, ht, h⟩ := bind_eq_ok.1 h
    cases h
    refine ⟨hhost, hpath, ?_, hhost ▸ hpath ▸ ht, fun hn => by cases hn⟩
    exact iff_of_true rfl ((Site.deferred_iff hne).1 hdeferred)
  · next hdeferred =>
    have hr := Binding.renders_of_rule h
    have hdivided : ¬ Divided s.bindings := fun hd => hdeferred ((Site.deferred_iff hne).2 hd)
    have hbs : bs = [] := by
      rw [← List.length_eq_zero_iff]
      by_contra hlen
      exact hdivided (.inl (by rw [hb, List.length_cons]; omega))
    have hplain : b.annotations.traitClass = .none :=
      Annotations.traitClass_eq_none_iff.2 fun ht => hdivided (.inr ⟨b, by simp [hb], ht⟩)
    refine ⟨hr.host.trans hhost, hr.path.trans hpath, ?_, ?_, fun _ => ⟨b, by rw [hb, hbs], hr⟩⟩
    · exact iff_of_false (by simp [hr.not_placeholder]) hdivided
    · rw [← Condition.build_plain hplain, ← hhost, ← hpath]
      exact hr.condition

/-- **The basic rules stand for the sites**, one for each. -/
theorem forall₂_heads (hs : ∀ s ∈ sites, s.bindings ≠ [] ∧
      ∀ b ∈ s.bindings, b.host = s.host ∧ b.path = s.path)
    (h : (sites.filterMap Site.basicEntry?).mapM BasicEntry.rule = .ok basic) :
    List.Forall₂ Rule.Heads basic sites := by
  induction sites generalizing basic with
  | nil =>
    cases h
    exact .nil
  | cons s sites ih =>
    obtain ⟨hne, hplace⟩ := hs s List.mem_cons_self
    obtain ⟨b, bs, hb⟩ := List.exists_cons_of_ne_nil hne
    have hentry : s.basicEntry? = some ⟨b, s.deferred⟩ := by rw [Site.basicEntry?, hb]; rfl
    have hat := hplace b (by simp [hb])
    rw [List.filterMap_cons_some hentry, List.mapM_cons] at h
    obtain ⟨rule, hrule, h⟩ := bind_eq_ok.1 h
    obtain ⟨rest, hrest, h⟩ := bind_eq_ok.1 h
    cases h
    exact .cons (Site.heads_of_rule hb hat.1 hat.2 hrule)
      (ih (fun t ht => hs t (List.mem_cons_of_mem _ ht)) hrest)

theorem forall₂_renders (h : List.Forall₂ Rule.Heads basic sites) (hs : ∀ s ∈ sites, s.bindings ≠ []) :
    List.Forall₂ Rule.Renders (basic.filter (!·.isPlaceholder))
      ((sites.filter (!·.deferred)).flatMap Site.bindings) := by
  induction h with
  | nil => exact .nil
  | @cons rule s basic sites hhead _ ih =>
    have hrest := ih fun t ht => hs t (List.mem_cons_of_mem _ ht)
    have hdeferred : s.deferred = rule.isPlaceholder := Bool.eq_iff_iff.2 <| by
      rw [Site.deferred_iff (hs s List.mem_cons_self), hhead.placeholder]
    rw [List.filter_cons, List.filter_cons, hdeferred]
    cases hp : rule.isPlaceholder with
    | true => exact hrest
    | false =>
      obtain ⟨b, hb, hrenders⟩ := hhead.renders hp
      simp only [Bool.not_false, if_true, List.flatMap_cons, hb]
      exact .cons hrenders hrest

/-- Sites in either tier, together, have the bindings of all. -/
theorem flatMap_filter_perm (sites : List Site) (p : Site → Bool) :
    ((sites.filter (!p ·)).flatMap Site.bindings ++ (sites.filter p).flatMap Site.bindings).Perm
      (sites.flatMap Site.bindings) := by
  rw [← List.flatMap_append]
  refine List.Perm.flatMap_right _ ?_
  simpa using List.filter_append_perm (!p ·) sites

theorem countP_placeholder (h : List.Forall₂ Rule.Heads basic sites) :
    basic.countP Rule.isPlaceholder = sites.countP fun s => Divided s.bindings := by
  induction h with
  | nil => rfl
  | cons hhead _ ih =>
    rw [List.countP_cons, List.countP_cons, ih]
    simp only [hhead.placeholder, decide_eq_true_iff]

theorem map_place (h : List.Forall₂ Rule.Heads basic sites) :
    basic.map (fun a => (a.host, a.path)) = sites.map fun s => (s.host, s.path) := by
  induction h with
  | nil => rfl
  | cons hhead _ ih => rw [List.map_cons, List.map_cons, ih, hhead.host, hhead.path]

namespace Roster

theorem Sound.site_place (h : r.Sound) (hs : s ∈ r.toSites) :
    s.bindings ≠ [] ∧ ∀ b ∈ s.bindings, b.host = s.host ∧ b.path = s.path := by
  obtain ⟨hne, hb⟩ := h.mem_toSites.1 hs
  exact ⟨hne, fun b hm => (h.mem_listing.1 (hb ▸ hm)).2⟩

/-- The rules of a sound roster, tier by tier. -/
theorem Sound.tiers_of_rules {rules : Rules} (h : r.Sound) (hr : r.rules = .ok rules) :
    List.Forall₂ Rule.Heads rules.basic r.toSites ∧
      List.Forall₂ Rule.Renders rules.advanced r.tiers.advanced := by
  obtain ⟨basic, hbasic, hr⟩ := bind_eq_ok.1 hr
  obtain ⟨advanced, hadvanced, hr⟩ := bind_eq_ok.1 hr
  cases hr
  refine ⟨forall₂_heads (fun s hs => h.site_place hs) hbasic, ?_⟩
  exact ((forall₂_of_mapM hadvanced).imp fun _ _ hb => Binding.renders_of_rule hb).flip

/-- The bindings of the sites that need no conditions, in the order of the sites. -/
def plain (r : Roster) : List Binding := (r.toSites.filter (!·.deferred)).flatMap Site.bindings

/-- The bindings in the order in which their rules are listed. -/
theorem Sound.plain_advanced_perm (h : r.Sound) : (r.plain ++ r.tiers.advanced).Perm r.live := by
  have hsort : r.tiers.advanced.Perm ((r.toSites.filter Site.deferred).flatMap Site.bindings) :=
    List.mergeSort_perm _ _
  exact ((hsort.append_left _).trans (flatMap_filter_perm _ _)).trans h.toList_perm

/-- The rules of the roster are those of its bindings, the plain ones first. -/
theorem Sound.renders {rules : Rules} (h : r.Sound) (hr : r.rules = .ok rules) :
    List.Forall₂ Rule.Renders (rules.basic.filter (!·.isPlaceholder)) r.plain ∧
      List.Forall₂ Rule.Renders rules.advanced r.tiers.advanced := by
  obtain ⟨hheads, hadvanced⟩ := h.tiers_of_rules hr
  exact ⟨forall₂_renders hheads fun s hs => (h.site_place hs).1, hadvanced⟩

/-- **The rules that are no placeholders are those of the bindings in force.** -/
theorem Sound.renders_perm {rules : Rules} (h : r.Sound) (hr : r.rules = .ok rules) :
    ∃ bs, bs.Perm r.live ∧ List.Forall₂ Rule.Renders
      (rules.basic.filter (!·.isPlaceholder) ++ rules.advanced) bs := by
  obtain ⟨hplain, hadvanced⟩ := h.renders hr
  exact ⟨_, h.plain_advanced_perm, List.rel_append hplain hadvanced⟩

theorem Sound.length_live (h : r.Sound) : r.live.length = r.size := by
  rw [← h.toList_perm.length_eq, h.length_toList]

theorem ascending_basic (hheads : List.Forall₂ Rule.Heads basic r.toSites) :
    basic.Pairwise fun a b => a.host < b.host ∨ a.host = b.host ∧ a.path < b.path := by
  have hplaces : (basic.map fun a => (a.host, a.path)).Pairwise
      fun p q => p.1 < q.1 ∨ p.1 = q.1 ∧ p.2 < q.2 := by
    rw [map_place hheads]
    exact List.pairwise_map.2 r.toSites_ascending
  exact List.pairwise_map.1 hplaces

theorem Sound.occupied_iff (h : r.Sound) (hheads : List.Forall₂ Rule.Heads basic r.toSites)
    (host path : String) : (∃ a ∈ basic, a.host = host ∧ a.path = path) ↔
      ∃ b ∈ r.live, b.host = host ∧ b.path = path := by
  have hrules : (∃ a ∈ basic, a.host = host ∧ a.path = path) ↔
      (host, path) ∈ basic.map fun a => (a.host, a.path) := by
    simp only [List.mem_map, Prod.mk.injEq]
  have hsites : (host, path) ∈ (r.toSites.map fun s => (s.host, s.path)) ↔
      r.listing host path ≠ [] := by
    simp only [List.mem_map, Prod.mk.injEq]
    constructor
    · rintro ⟨s, hs, rfl, rfl⟩
      obtain ⟨hne, hb⟩ := h.mem_toSites.1 hs
      exact hb ▸ hne
    · intro hne
      exact ⟨⟨host, path, _⟩, h.mem_toSites.2 ⟨hne, rfl⟩, rfl, rfl⟩
  rw [hrules, map_place hheads, hsites, h.listing_ne_nil]
  simp only [mem_live]
  exact ⟨fun ⟨slot, b, hs, hat⟩ => ⟨b, ⟨slot, hs⟩, hat⟩, fun ⟨b, ⟨slot, hs⟩, hat⟩ => ⟨slot, b, hs, hat⟩⟩

end Roster

/-! ## Tables -/

variable {rules : Rules} {b : Binding}

theorem Binding.forward_of_kind (h : b.kind = .route) : ∃ target, b.effect.toAction = .forward target := by
  rw [Binding.kind] at h
  cases he : b.effect with
  | forward target => exact ⟨target, rfl⟩
  | redirect action status => rw [he] at h; cases h

theorem Binding.redirect_of_kind (h : b.kind = .redirect) :
    ∃ action status, b.effect.toAction = .redirect action status := by
  rw [Binding.kind] at h
  cases he : b.effect with
  | forward target => rw [he] at h; cases h
  | redirect action status => exact ⟨action, status, rfl⟩

theorem RouteTable.size_ofRules (balance : Dict Split)
    (hforward : ∀ a ∈ rules.basic.filter (!·.isPlaceholder) ++ rules.advanced,
      ∃ target, a.action = .forward target) :
    (RouteTable.ofRules rules balance).size = rules.basic.length + rules.advanced.length := by
  have hbasic : ∀ a ∈ rules.basic, (RouteTable.basicRow? a).isSome = true := fun a ha => by
    cases hp : a.isPlaceholder with
    | true =>
      have hdefer : a.action = .defer := by simpa [Rule.isPlaceholder] using hp
      simp [RouteTable.basicRow?, hdefer]
    | false =>
      obtain ⟨target, ht⟩ := hforward a (by simp [ha, hp])
      simp [RouteTable.basicRow?, ht]
  have hadvanced : ∀ a ∈ rules.advanced, (RouteTable.advancedRow? a).isSome = true := fun a ha => by
    obtain ⟨target, ht⟩ := hforward a (by simp [ha])
    simp [RouteTable.advancedRow?, ht]
  rw [RouteTable.size, RouteTable.ofRules, List.length_filterMap_eq_countP,
    List.length_filterMap_eq_countP, List.countP_eq_length.2 hbasic, List.countP_eq_length.2 hadvanced]

theorem RedirectTable.rows_ofRules (rules : Rules) : (RedirectTable.ofRules rules).rows =
    (rules.basic.filter (!·.isPlaceholder) ++ rules.advanced).filterMap RedirectTable.row? := by
  have hdropped : rules.basic.filterMap RedirectTable.row? =
      (rules.basic.filter (!·.isPlaceholder)).filterMap RedirectTable.row? := by
    rw [List.filterMap_filter]
    refine List.filterMap_congr fun a _ => ?_
    cases hp : a.isPlaceholder with
    | true =>
      have hdefer : a.action = .defer := by simpa [Rule.isPlaceholder] using hp
      simp [RedirectTable.row?, hdefer]
    | false => simp
  rw [RedirectTable.ofRules, List.filterMap_append, hdropped, List.filterMap_append]

theorem RedirectTable.size_ofRules
    (hredirect : ∀ a ∈ rules.basic.filter (!·.isPlaceholder) ++ rules.advanced,
      ∃ action status, a.action = .redirect action status) :
    (RedirectTable.ofRules rules).size =
      (rules.basic.filter (!·.isPlaceholder) ++ rules.advanced).length := by
  have hrow : ∀ a ∈ rules.basic.filter (!·.isPlaceholder) ++ rules.advanced,
      (RedirectTable.row? a).isSome = true := fun a ha => by
    obtain ⟨action, status, he⟩ := hredirect a ha
    simp [RedirectTable.row?, he]
  rw [RedirectTable.size, RedirectTable.rows_ofRules, List.length_filterMap_eq_countP,
    List.countP_eq_length.2 hrow]

/-- The row of a redirect is that of a binding in force. -/
theorem Roster.Sound.exists_of_row {row : RedirectRow} (h : r.Sound)
    (hr : r.rules = .ok rules) (hrow : row ∈ (RedirectTable.ofRules rules).rows) :
    ∃ b ∈ r.live, ∃ action, row.actions = [action] ∧ b.effect = .redirect action row.status := by
  obtain ⟨rule, hrule, he⟩ := List.mem_filterMap.1 hrow
  rw [RedirectTable.row?] at he
  split at he
  · next action status hact =>
    cases he
    obtain ⟨bs, hperm, hrenders⟩ := h.renders_perm hr
    have hmem : rule ∈ rules.basic.filter (!·.isPlaceholder) ++ rules.advanced := by
      have hnot : rule.isPlaceholder = false := by rw [Rule.isPlaceholder, hact]; rfl
      simpa [hnot] using hrule
    obtain ⟨b, hb, hrender⟩ := exists_of_forall₂ hrenders hmem
    refine ⟨b, hperm.mem_iff.1 hb, action, rfl, ?_⟩
    have heffect := hrender.action
    rw [hact] at heffect
    cases hb : b.effect with
    | forward target => rw [hb] at heffect; cases heffect
    | redirect action' status' => rw [hb] at heffect; cases heffect; rfl
  · cases he

namespace Rulebook

variable {kind : TableKind} {k : Rulebook}

/-- A rule that renders a binding in force has its action from one of the kind of
the rulebook. -/
theorem Checked.exists_action (h : k.Checked kind) {as : List Rule} {bs : List Binding}
    (hperm : bs.Perm k.roster.live) (hrenders : List.Forall₂ Rule.Renders as bs) {a : Rule}
    (ha : a ∈ as) : ∃ b : Binding, b.kind = kind ∧ a.action = b.effect.toAction := by
  obtain ⟨b, hb, hrender⟩ := exists_of_forall₂ hrenders ha
  obtain ⟨slot, hs⟩ := Roster.mem_live.1 (hperm.mem_iff.1 hb)
  exact ⟨b, (h.holds.live slot b hs).kind_eq.trans h.kind, hrender.action⟩

/-- **Compiling loses and duplicates nothing.** Whatever the run, the rulebook
compiles, and its rules account for every binding in force. -/
theorem Reachable.compile_complete (h : Reachable kind k) :
    ∃ rules, k.compile.1 = .ok rules ∧ Complete kind k.roster rules := by
  have hchecked := h.checked
  have hsound := hchecked.holds.consistent.sound
  obtain ⟨rules, hr⟩ := Roster.rules_ok fun slot b hb => (hchecked.holds.live slot b hb).compiles
  obtain ⟨hheads, _⟩ := hsound.tiers_of_rules hr
  obtain ⟨bs, hperm, hrenders⟩ := hsound.renders_perm hr
  have hsize : (rules.basic.filter (!·.isPlaceholder) ++ rules.advanced).length = k.roster.size := by
    rw [hrenders.length_eq, hperm.length_eq, hsound.length_live]
  refine ⟨rules, compile_eq_ok_iff.2 hr, Roster.ascending_basic hheads,
    hsound.occupied_iff hheads, fun a ha => ?_, fun a ha => ?_, ⟨bs, hperm, hrenders⟩, ?_, ?_⟩
  · obtain ⟨s, hs, hhead⟩ := exists_of_forall₂ hheads ha
    rw [hhead.placeholder, hhead.host, hhead.path, (hsound.mem_toSites.1 hs).2]
  · obtain ⟨s, hs, hhead⟩ := exists_of_forall₂ hheads ha
    rw [hhead.host, hhead.path]
    exact hhead.bare
  · rintro rfl balance
    have hforward : ∀ a ∈ rules.basic.filter (!·.isPlaceholder) ++ rules.advanced,
        ∃ target, a.action = .forward target := fun a ha => by
      obtain ⟨b, hkind, hact⟩ := hchecked.exists_action hperm hrenders ha
      rw [hact]
      exact Binding.forward_of_kind hkind
    have hbasic : rules.basic.length = (rules.basic.filter (!·.isPlaceholder)).length +
        rules.basic.countP Rule.isPlaceholder := by
      rw [← List.countP_eq_length_filter, Nat.add_comm]
      simpa using List.length_eq_countP_add_countP Rule.isPlaceholder (l := rules.basic)
    rw [RouteTable.size_ofRules balance hforward, ← hsize, List.length_append, hbasic,
      ← countP_placeholder hheads]
    omega
  · rintro rfl
    have hredirect : ∀ a ∈ rules.basic.filter (!·.isPlaceholder) ++ rules.advanced,
        ∃ action status, a.action = .redirect action status := fun a ha => by
      obtain ⟨b, hkind, hact⟩ := hchecked.exists_action hperm hrenders ha
      rw [hact]
      exact Binding.redirect_of_kind hkind
    rw [RedirectTable.size_ofRules hredirect, hsize]

/-- Two bindings at one place, one of them asking for a header, and one at another;
a removal is taken back. -/
theorem compile_complete_of_run :
    let header : Annotations := Dict.ofList [(Annotations.headerKey, "X-A: 1")]
    let k := (((((Rulebook.empty .route).bind "ns/a" "" "/foo" ∅ "ns_a" 1).state.bind "ns/b" "" "/foo"
      header "ns_b" 2).state.bind "ns/c" "*.example.com" "/bar*" ∅ "ns_c" 3).state.begin.removeSource
      "ns/a").rollback
    Reachable .route k ∧ k.roster.size = 3 ∧
      (k.roster.toSites.countP fun s => Divided s.bindings) = 1 ∧
      ∃ rules, k.compile.1 = .ok rules ∧ Complete .route k.roster rules := by
  intro header k
  have h : Reachable .route k :=
    .rollback (.removeSource (.begin (.bind (.bind (.bind .empty ..) ..) ..)) _)
  exact ⟨h, by decide +kernel, by decide +kernel, Reachable.compile_complete h⟩

end Rulebook

end IngressRouting
