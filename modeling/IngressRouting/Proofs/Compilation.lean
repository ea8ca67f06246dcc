/-
What passes the check of its rulebook can be compiled (`Binding.Compiles`), so
a roster of such bindings always has rules (`Roster.rules_ok`): compiling never
fails between a change and its publication.
-/
import IngressRouting.Proofs.Results
import IngressRouting.Rulebook

namespace IngressRouting

/-- The binding's condition can be written. -/
def Binding.Compiles (b : Binding) : Prop :=
  ∃ text, Condition.build b.host b.path b.annotations = .ok text

namespace Condition

theorem parse_eq_ok_iff {host path : String} {a : Annotations} {c : Condition} :
    parse host path a = .ok c ↔ ∃ h p ts, HostPattern.parse host = .ok h ∧
      PathPattern.parse path = .ok p ∧ a.traits = .ok ts ∧ c = .all [.host h, .path p, .traits ts] := by
  simp only [parse, bind_eq_ok, pure, Except.pure, Except.ok.injEq]
  constructor
  · rintro ⟨h, hh, p, hp, ts, hts, rfl⟩
    exact ⟨h, p, ts, hh, hp, hts, rfl⟩
  · rintro ⟨h, p, ts, hh, hp, hts, rfl⟩
    exact ⟨h, hh, p, hp, ts, hts, rfl⟩

/-- A host and path good for some annotations are good without any. -/
theorem build_bare {host path text : String} {a : Annotations} (h : build host path a = .ok text) :
    ∃ bare, build host path ∅ = .ok bare := by
  obtain ⟨c, hc, _⟩ := map_eq_ok.1 h
  obtain ⟨h, p, ts, hh, hp, _, _⟩ := parse_eq_ok_iff.1 hc
  refine ⟨_, map_eq_ok.2 ⟨.all [.host h, .path p, .traits []], ?_, rfl⟩⟩
  exact parse_eq_ok_iff.2 ⟨h, p, [], hh, hp, rfl, rfl⟩

end Condition

theorem Binding.Compiles.rule {b : Binding} (h : b.Compiles) : ∃ rule, b.rule = .ok rule := by
  obtain ⟨text, ht⟩ := h
  exact ⟨_, by rw [Binding.rule, ht]; rfl⟩

theorem BasicEntry.rule_ok {e : BasicEntry} (h : e.binding.Compiles) : ∃ rule, e.rule = .ok rule := by
  rw [BasicEntry.rule]
  split
  · obtain ⟨text, ht⟩ := h
    obtain ⟨bare, hbare⟩ := Condition.build_bare ht
    exact ⟨_, by simp only [hbare]; rfl⟩
  · exact h.rule

/-- The binding as a rulebook keeps it, with `*` for an empty host. -/
def Binding.kept (b : Binding) : Binding :=
  if b.host = "" then { b with host := HostPattern.anyText } else b

theorem Binding.kind_kept (b : Binding) : b.kept.kind = b.kind := by
  rw [kept]
  split <;> rfl

theorem Binding.annotations_kept (b : Binding) : b.kept.annotations = b.annotations := by
  rw [kept]
  split <;> rfl

/-- **What passes the check**: a binding of the kind whose condition can be written,
and in the route rulebook one whose weights are right. -/
theorem Rulebook.check_eq_ok_iff {kind : TableKind} {b c : Binding} : check kind b = .ok c ↔ c = b.kept ∧ b.kind = kind ∧
    b.kept.Compiles ∧ (kind = .route → ∃ w, b.annotations.weights = .ok w) := by
  rw [check, ← Binding.kept.eq_1, b.kind_kept, b.annotations_kept]
  by_cases hkind : b.kind = kind
  · rw [if_neg (not_not_intro hkind)]
    simp only [bind_eq_ok, Binding.Compiles, b.annotations_kept]
    constructor
    · rintro ⟨text, ht, h⟩
      split at h
      · obtain ⟨w, hw, h⟩ := bind_eq_ok.1 h
        exact ⟨(Except.ok.inj h).symm, hkind, ⟨text, ht⟩, fun _ => ⟨w, hw⟩⟩
      · next hroute =>
        exact ⟨(Except.ok.inj h).symm, hkind, ⟨text, ht⟩, fun he => absurd he hroute⟩
    · rintro ⟨rfl, _, ⟨text, ht⟩, hweights⟩
      refine ⟨text, ht, ?_⟩
      split
      · next hroute =>
        obtain ⟨w, hw⟩ := hweights hroute
        exact bind_eq_ok.2 ⟨w, hw, rfl⟩
      · rfl
  · rw [if_pos hkind]
    exact iff_of_false (fun h => by cases h) fun h => hkind h.2.1

namespace Roster

variable {r : Roster} {b : Binding}

theorem exists_slot_of_mem_toSites {site : Site} (hs : site ∈ r.toSites) (hb : b ∈ site.bindings) :
    ∃ slot, r.get? slot = some b := by
  simp only [toSites, List.mem_flatMap, List.mem_map] at hs
  obtain ⟨⟨host, paths⟩, _, ⟨path, slots⟩, _, rfl⟩ := hs
  simp only [occupied, List.map_filterMap, List.mem_filterMap] at hb
  obtain ⟨slot, _, hslot⟩ := hb
  refine ⟨slot, ?_⟩
  cases hg : r.get? slot with
  | none => simp [hg] at hslot
  | some c => simpa [hg] using hslot

theorem mem_tiers_basic {e : BasicEntry} (h : e ∈ r.tiers.basic) :
    ∃ site ∈ r.toSites, e.binding ∈ site.bindings := by
  simp only [tiers, List.mem_filterMap] at h
  obtain ⟨site, hsite, he⟩ := h
  obtain ⟨b, hb, rfl⟩ := Option.map_eq_some_iff.1 he
  exact ⟨site, hsite, List.mem_of_head? hb⟩

theorem mem_tiers_advanced (h : b ∈ r.tiers.advanced) : ∃ site ∈ r.toSites, b ∈ site.bindings := by
  simp only [tiers, Precedence.sort, List.mem_mergeSort, List.mem_flatMap, List.mem_filter] at h
  obtain ⟨site, ⟨hsite, _⟩, hb⟩ := h
  exact ⟨site, hsite, hb⟩

theorem tiers_empty : Roster.empty.tiers = ⟨[], []⟩ := by
  have hsites : Roster.empty.toSites = [] := rfl
  rw [tiers, hsites]
  simp [Precedence.sort]

theorem rules_empty : Roster.empty.rules = .ok ⟨[], []⟩ := by
  rw [rules, tiers_empty]
  rfl

/-- **A roster of bindings that compile has rules.** -/
theorem rules_ok (h : ∀ slot b, r.get? slot = some b → b.Compiles) : ∃ rules, r.rules = .ok rules := by
  have hmem : ∀ site ∈ r.toSites, ∀ b ∈ site.bindings, b.Compiles := fun site hs b hb => by
    obtain ⟨slot, hslot⟩ := exists_slot_of_mem_toSites hs hb
    exact h slot b hslot
  obtain ⟨basic, hbasic⟩ := mapM_ok (f := BasicEntry.rule) (l := r.tiers.basic) fun e he => by
    obtain ⟨site, hs, hb⟩ := mem_tiers_basic he
    exact BasicEntry.rule_ok (hmem site hs _ hb)
  obtain ⟨advanced, hadvanced⟩ := mapM_ok (f := Binding.rule) (l := r.tiers.advanced) fun b hb => by
    obtain ⟨site, hs, hb⟩ := mem_tiers_advanced hb
    exact (hmem site hs b hb).rule
  refine ⟨⟨basic, advanced⟩, ?_⟩
  simp only [rules, hbasic, hadvanced]
  rfl

end Roster

end IngressRouting
