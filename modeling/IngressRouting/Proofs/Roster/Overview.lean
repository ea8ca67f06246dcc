/-
What can be seen of a sound roster without its slots: the sites, which ascend by
host and then by path and are the places with a binding (`Sound.mem_toSites`), the
bindings, which are those of the arena (`Sound.toList_perm`), and what each source
owns (`Sound.ofSource_perm`).
-/
import IngressRouting.Proofs.Roster.Listing
import IngressRouting.Proofs.Roster.Runs
import Mathlib.Data.List.Nodup

namespace IngressRouting

/-- One host and path comes before another: by host, then by path. -/
def Site.Before (s t : Site) : Prop := s.host < t.host ∨ s.host = t.host ∧ s.path < t.path

namespace Site.Before

variable {s t u : Site}

theorem place_ne (h : s.Before t) : ¬ (s.host = t.host ∧ s.path = t.path) := by
  rintro ⟨hhost, hpath⟩
  rcases h with h | ⟨_, h⟩
  · exact String.lt_irrefl _ (hhost ▸ h)
  · exact String.lt_irrefl _ (hpath ▸ h)

theorem trans (h : s.Before t) (h' : t.Before u) : s.Before u := by
  rcases h with h | ⟨hhost, h⟩ <;> rcases h' with h' | ⟨hhost', h'⟩
  · exact .inl (String.lt_trans h h')
  · exact .inl (hhost' ▸ h)
  · exact .inl (hhost ▸ h')
  · exact .inr ⟨hhost.trans hhost', String.lt_trans h h'⟩

theorem asymm (h : s.Before t) : ¬ t.Before s := fun h' => (h.trans h').place_ne ⟨rfl, rfl⟩

theorem of_not (hplace : ¬ (s.host = t.host ∧ s.path = t.path)) (h : ¬ t.Before s) : s.Before t := by
  by_cases hhost : s.host = t.host
  · refine .inr ⟨hhost, Entries.lt_of_not_lt_of_ne (fun hlt => h (.inr ⟨hhost.symm, hlt⟩)) ?_⟩
    exact fun hpath => hplace ⟨hhost, hpath.symm⟩
  · exact .inl (Entries.lt_of_not_lt_of_ne (fun hlt => h (.inl hlt)) (Ne.symm hhost))

end Site.Before

namespace Roster

variable {r : Roster} {b : Binding} {site : Site}

/-! ## Sites -/

theorem Sound.listing_ne_nil (h : r.Sound) {host path : String} :
    r.listing host path ≠ [] ↔ ∃ slot b, r.get? slot = some b ∧ b.host = host ∧ b.path = path := by
  constructor
  · intro hne
    obtain ⟨b, hb⟩ := List.exists_mem_of_ne_nil _ hne
    obtain ⟨⟨slot, hs⟩, hplace⟩ := h.mem_listing.1 hb
    exact ⟨slot, b, hs, hplace⟩
  · rintro ⟨slot, b, hs, hplace⟩
    exact List.ne_nil_of_mem (h.mem_listing.2 ⟨⟨slot, hs⟩, hplace⟩)

/-- **The sites are the places with a binding**, each with its bindings in order. -/
theorem Sound.mem_toSites (h : r.Sound) :
    site ∈ r.toSites ↔ site.bindings ≠ [] ∧ site.bindings = r.listing site.host site.path := by
  rw [toSites_eq]
  simp only [List.mem_flatMap, List.mem_map, Dict.mem_keys_iff, h.contains_pathsAt,
    ← h.listing_ne_nil]
  constructor
  · rintro ⟨host, _, path, hne, rfl⟩
    exact ⟨hne, rfl⟩
  · rintro ⟨hne, hb⟩
    rw [hb] at hne
    obtain ⟨slot, b, hs, hhost, _⟩ := h.listing_ne_nil.1 hne
    exact ⟨_, h.contains_sites.2 ⟨slot, b, hs, hhost⟩, _, hne, by rw [← hb]⟩

theorem toSites_ascending (r : Roster) : r.toSites.Pairwise Site.Before := by
  rw [toSites_eq, List.pairwise_flatMap]
  refine ⟨fun host _ => ?_, r.sites.keys_ascending.imp fun hlt s hs t ht => ?_⟩
  · exact List.pairwise_map.2 ((r.pathsAt host).keys_ascending.imp fun hlt => .inr ⟨rfl, hlt⟩)
  · obtain ⟨_, _, rfl⟩ := List.mem_map.1 hs
    obtain ⟨_, _, rfl⟩ := List.mem_map.1 ht
    exact .inl hlt

/-! ## Bindings -/

theorem Sound.mem_toList (h : r.Sound) : b ∈ r.toList ↔ ∃ slot, r.get? slot = some b :=
  h.lists_toList.mem_iff h

theorem Sound.slot_unique (h : r.Sound) {s t : Nat} (hs : r.get? s = some b) (ht : r.get? t = some b) :
    s = t :=
  h.distinct s t b b hs ht rfl rfl rfl

theorem Sound.nodup_filterMap (h : r.Sound) {slots : List Nat} (hn : slots.Nodup) :
    (slots.filterMap r.get?).Nodup :=
  hn.filterMap fun _ _ _ hs ht => h.slot_unique hs ht

theorem Sound.nodup_toList (h : r.Sound) : r.toList.Nodup := by
  rw [toList, List.nodup_flatMap]
  refine ⟨fun s hs => ?_, r.toSites_ascending.imp_of_mem fun {s t} hs ht hlt b hbs hbt => ?_⟩
  · rw [(h.mem_toSites.1 hs).2, listing_eq]
    exact h.nodup_filterMap (h.listed_once _ _)
  · dsimp only at hbs hbt
    rw [(h.mem_toSites.1 hs).2] at hbs
    rw [(h.mem_toSites.1 ht).2] at hbt
    obtain ⟨_, hhost, hpath⟩ := h.mem_listing.1 hbs
    obtain ⟨_, hhost', hpath'⟩ := h.mem_listing.1 hbt
    exact hlt.place_ne ⟨hhost.symm.trans hhost', hpath.symm.trans hpath'⟩

/-- The bindings of the arena, in the order of their slots. -/
def live (r : Roster) : List Binding := r.cells.filterMap id

theorem live_eq (r : Roster) : r.live = (List.range r.cells.length).filterMap r.get? := by
  rw [live]
  conv_lhs => rw [cells_eq_map]
  rw [List.filterMap_map]
  rfl

theorem mem_live : b ∈ r.live ↔ ∃ slot, r.get? slot = some b := by
  rw [live_eq, List.mem_filterMap]
  constructor
  · rintro ⟨slot, _, hs⟩
    exact ⟨slot, hs⟩
  · rintro ⟨slot, hs⟩
    exact ⟨slot, List.mem_range.2 (lt_of_get? hs), hs⟩

theorem Sound.nodup_live (h : r.Sound) : r.live.Nodup := by
  rw [live_eq]
  exact h.nodup_filterMap List.nodup_range

/-- **The sites list every binding of the arena, each once.** -/
theorem Sound.toList_perm (h : r.Sound) : r.toList.Perm r.live :=
  (List.perm_ext_iff_of_nodup h.nodup_toList h.nodup_live).2 fun b => by rw [h.mem_toList, mem_live]

theorem Sound.length_toList (h : r.Sound) : r.toList.length = r.size := by
  rw [h.toList_perm.length_eq, live, h.size_eq, List.length_filterMap_eq_countP]
  rfl

theorem Sound.isEmpty_eq (h : r.Sound) : r.isEmpty = r.toSites.isEmpty := by
  refine Bool.eq_iff_iff.2 ?_
  rw [isEmpty, beq_iff_eq, ← h.length_toList, List.length_eq_zero_iff, toList,
    List.flatMap_eq_nil_iff, List.isEmpty_iff]
  constructor
  · intro hnil
    refine List.eq_nil_iff_forall_not_mem.2 fun s hs => ?_
    exact (h.mem_toSites.1 hs).1 (hnil s hs)
  · intro hnil s hs
    rw [hnil] at hs
    cases hs

/-! ## Sources -/

theorem ofSource_eq (r : Roster) (source : String) :
    r.ofSource source = (r.owners.slots source).filterMap r.get? :=
  map_occupied r _

/-- **A source owns its bindings and no others.** -/
theorem Sound.ofSource_perm (h : r.Sound) (source : String) :
    (r.ofSource source).Perm (r.toList.filter (·.source = source)) := by
  have hn : (r.ofSource source).Nodup := by
    rw [ofSource_eq]
    exact h.nodup_filterMap ((h.owners_pruned.ascending source).imp Nat.ne_of_lt)
  refine (List.perm_ext_iff_of_nodup hn (h.nodup_toList.filter _)).2 fun b => ?_
  rw [ofSource_eq, List.mem_filterMap, List.mem_filter, h.mem_toList, decide_eq_true_iff]
  constructor
  · rintro ⟨slot, hm, hs⟩
    obtain ⟨c, hc, hsource⟩ := (h.owned source slot).1 hm
    rw [hs] at hc
    cases hc
    exact ⟨⟨slot, hs⟩, hsource⟩
  · rintro ⟨⟨slot, hs⟩, hsource⟩
    exact ⟨slot, (h.owned source slot).2 ⟨b, hs, hsource⟩, hs⟩

/-- A removal says how many bindings the source had. -/
theorem Sound.removeSource_fst (h : r.Sound) (source : String) :
    (r.removeSource source).1 = (r.ofSource source).length := by
  have hheld : ∀ slot ∈ r.owners.slots source, (r.get? slot).isSome = true := fun slot hm => by
    obtain ⟨b, hb, _⟩ := (h.owned source slot).1 hm
    rw [hb]
    rfl
  rw [h.removeSource_eq, ofSource_eq, List.length_filterMap_eq_countP]
  exact (List.countP_eq_length.2 hheld).symm

theorem Sound.containsSource_eq (h : r.Sound) (source : String) :
    r.containsSource source = r.toList.any (·.source = source) := by
  refine Bool.eq_iff_iff.2 ?_
  have hkeys : r.containsSource source = true ↔ source ∈ r.sources := Dict.mem_keys_iff.symm
  rw [hkeys, h.lists_toList.mem_sources_iff h, List.any_eq_true]
  simp

end Roster

end IngressRouting
