/-
A roster refines a ledger: it answers every put and every removal as the ledger of
its sites does, and its sites afterwards are those of that ledger (`Sound.put_toSites`,
`Sound.removeSource_toSites`). So no run of calls tells the two apart, neither by its
answers nor by what is seen of the roster at the end (`run_refines`).
-/
import IngressRouting.Proofs.Roster.Ledger

namespace IngressRouting

theorem settle_eq_replace {b old : Binding} {bs : List Binding}
    (hplace : ∀ x ∈ bs, x.host = b.host ∧ x.path = b.path)
    (hf : bs.find? (b.annotations = ·.annotations) = some old) (hlt : b.since < old.since) :
    settle b bs = bs.replace old b := by
  induction bs with
  | nil => cases hf
  | cons x bs ih =>
    have hx := hplace x List.mem_cons_self
    rw [settle, List.replace_cons]
    by_cases ha : b.annotations = x.annotations
    · have hold : x = old := by simpa [List.find?_cons, ha] using hf
      subst hold
      rw [if_pos ⟨hx.1.symm, hx.2.symm, ha⟩, if_pos hlt]
      simp
    · have hrest : bs.find? (b.annotations = ·.annotations) = some old := by
        simpa [List.find?_cons, ha] using hf
      have hann : b.annotations = old.annotations := by simpa using List.find?_some hrest
      have hbeq : (old == x) = false := beq_false_of_ne fun he => ha (he ▸ hann)
      rw [if_neg fun hr => ha hr.2.2, hbeq, ih (fun y hy => hplace y (List.mem_cons_of_mem _ hy)) hrest]

namespace Roster

variable {r : Roster} {b old : Binding} {slot : Nat} {host path : String}

/-! ## The ledger of a roster -/

theorem Sound.ordered_toSites (h : r.Sound) : Ledger.Ordered r.toSites :=
  ⟨r.toSites_ascending, fun _ hs => (h.mem_toSites.1 hs).1⟩

theorem Sound.lookup_toSites (h : r.Sound) (host path : String) :
    Ledger.lookup host path r.toSites = r.listing host path := by
  by_cases hl : r.listing host path = []
  · rw [hl]
    by_contra hne
    have hm := (h.ordered_toSites.mem_iff (s := ⟨host, path, _⟩)).2 ⟨hne, rfl⟩
    exact hne ((h.mem_toSites.1 hm).2.trans hl)
  · have hm : (⟨host, path, r.listing host path⟩ : Site) ∈ r.toSites :=
      h.mem_toSites.2 ⟨hl, rfl⟩
    exact (h.ordered_toSites.mem_iff.1 hm).2

/-- What a ledger in order lists decides whether it is that of a roster. -/
theorem Sound.toSites_eq_of_lookup (h : r.Sound) {l : Ledger} (hl : l.Ordered)
    (hlookup : ∀ host path, l.lookup host path = r.listing host path) : l = r.toSites :=
  Ledger.ext_lookup hl h.ordered_toSites fun host path => by
    rw [hlookup, h.lookup_toSites]

/-! ## Putting a binding -/

theorem Sound.find?_of_rival (h : r.Sound) (rival : r.Rival b slot old) :
    (r.listing b.host b.path).find? (b.annotations = ·.annotations) = some old := by
  cases hf : (r.listing b.host b.path).find? (b.annotations = ·.annotations) with
  | none =>
    rw [List.find?_eq_none] at hf
    exact absurd (decide_eq_true rival.annotations) (hf old (h.mem_listing_of_rival rival))
  | some c =>
    have hc := List.mem_of_find?_eq_some hf
    have hplace := (h.mem_listing.1 hc).2
    have hann : b.annotations = c.annotations := by simpa using List.find?_some hf
    rw [h.rival_unique rival hc ⟨hplace.1.symm, hplace.2.symm, hann⟩]

theorem Sound.find?_of_free (h : r.Sound) (free : ∀ slot old, ¬ r.Rival b slot old) :
    (r.listing b.host b.path).find? (b.annotations = ·.annotations) = none := by
  rw [List.find?_eq_none]
  intro c hc hann
  obtain ⟨⟨slot, hs⟩, hhost, hpath⟩ := h.mem_listing.1 hc
  exact free slot c ⟨hs, hhost.symm, hpath.symm, by simpa using hann⟩

theorem Sound.toSites_join (h : r.Sound) (free : ∀ slot old, ¬ r.Rival b slot old) :
    Ledger.set b.host b.path (r.listing b.host b.path ++ [b]) r.toSites = (r.join b).toSites := by
  refine (h.join free).toSites_eq_of_lookup (h.ordered_toSites.set _ _ (by simp)) fun host path => ?_
  rw [Ledger.lookup_set, h.listing_join, h.lookup_toSites]
  split
  · next he => rw [he.1, he.2]
  · rfl

theorem Sound.toSites_displace (h : r.Sound) (rival : r.Rival b slot old) (hlt : b.since < old.since) :
    Ledger.set b.host b.path ((r.listing b.host b.path).replace old b) r.toSites =
      (r.displace slot old b).toSites := by
  have hm := h.mem_listing_of_rival rival
  have hne : (r.listing b.host b.path).replace old b ≠ [] := by
    rw [← List.length_pos_iff, List.length_replace, List.length_pos_iff]
    exact List.ne_nil_of_mem hm
  refine (h.displace rival).toSites_eq_of_lookup (h.ordered_toSites.set _ _ hne) fun host path => ?_
  rw [Ledger.lookup_set, h.listing_displace rival hlt, h.lookup_toSites]
  split
  · next he =>
    rw [he.1, he.2]
    exact (settle_eq_replace (fun x hx => (h.mem_listing.1 hx).2) (h.find?_of_rival rival) hlt).symm
  · rfl

/-- **A put does what the ledger does.** -/
theorem Sound.put_toSites (h : r.Sound) (b : Binding) :
    Ledger.put r.toSites b = ((r.put b).1, (r.put b).2.toSites) := by
  generalize hans : (r.put b).1 = answer
  generalize hst : (r.put b).2 = state
  have hput : Put r b answer state := hans ▸ hst ▸ h.put b
  rw [Ledger.put, h.lookup_toSites]
  cases hput with
  | inserted free => simp only [h.find?_of_free free, h.toSites_join free]
  | replaced slot old rival older =>
    simp only [h.find?_of_rival rival, if_pos older, h.toSites_displace rival older]
  | unchanged slot old rival same => simp [h.find?_of_rival rival, same]
  | refused slot old rival newer =>
    have hlt : ¬ b.since < old.since := UInt64.lt_asymm newer
    have hne : b.since ≠ old.since := (UInt64.ne_of_lt newer).symm
    simp only [h.find?_of_rival rival, if_neg hlt, if_neg hne]

/-! ## Removing a source -/

/-- **A removal does what the ledger does.** -/
theorem Sound.removeSource_toSites (h : r.Sound) (source : String) :
    Ledger.removeSource r.toSites source =
      ((r.removeSource source).1, (r.removeSource source).2.toSites) := by
  have hsound : (r.removeSource source).2.Sound := h.call (.removeSource source)
  refine Prod.ext ?_ (hsound.toSites_eq_of_lookup (h.ordered_toSites.removeSource source) ?_)
  · rw [h.removeSource_fst, (h.ofSource_perm source).length_eq, ← List.countP_eq_length_filter]
    rfl
  · intro host path
    rw [h.ordered_toSites.lookup_removeSource, h.lookup_toSites, h.listing_removeSource]

/-! ## Runs -/

theorem Sound.call_toSites (h : r.Sound) (c : Call) :
    Ledger.call r.toSites c = ((r.call c).1, (r.call c).2.toSites) := by
  cases c with
  | put b => rw [Ledger.call, h.put_toSites]; rfl
  | removeSource source => rw [Ledger.call, h.removeSource_toSites]; rfl

theorem Sound.run_toSites (h : r.Sound) (calls : List Call) :
    Ledger.run r.toSites calls = ((r.run calls).1, (r.run calls).2.toSites) := by
  induction calls generalizing r with
  | nil => rfl
  | cons c cs ih => rw [Ledger.run, h.call_toSites, ih (h.call c)]; rfl

/-- Nothing that is seen of a roster tells it from a ledger. -/
structure Agrees (r : Roster) (l : Ledger) : Prop where
  /-- The sites by host and then by path, each with its bindings in order. -/
  sites : r.toSites = l
  ordered : l.Ordered
  toList : r.toList = l.bindings
  size : r.size = l.bindings.length
  isEmpty : r.isEmpty = l.isEmpty
  containsSource : ∀ source, r.containsSource source = l.bindings.any (·.source = source)
  /-- Each source once. -/
  sources : r.sources.Nodup ∧ ∀ source, source ∈ r.sources ↔ ∃ b ∈ l.bindings, b.source = source
  /-- In some order. -/
  ofSource : ∀ source, (r.ofSource source).Perm (l.bindings.filter (·.source = source))

theorem Sound.agrees (h : r.Sound) : r.Agrees r.toSites where
  sites := rfl
  ordered := h.ordered_toSites
  toList := rfl
  size := h.length_toList.symm
  isEmpty := h.isEmpty_eq
  containsSource := h.containsSource_eq
  sources := ⟨r.owners.keys_nodup, fun _ => h.lists_toList.mem_sources_iff h⟩
  ofSource := h.ofSource_perm

/-- **A roster refines a ledger.** After any run of puts and removals from an empty
roster, every answer is the one that the ledger gives, and so is all that is seen of
the roster. -/
theorem run_refines (calls : List Call) :
    (Roster.empty.run calls).1 = (Ledger.run [] calls).1 ∧
      (Roster.empty.run calls).2.Agrees (Ledger.run [] calls).2 := by
  have hrun : Ledger.run [] calls = ((Roster.empty.run calls).1, (Roster.empty.run calls).2.toSites) :=
    sound_empty.run_toSites calls
  obtain ⟨us, hes, _⟩ := sound_empty.run_edits calls
  rw [hrun]
  exact ⟨rfl, (hes.sound sound_empty).agrees⟩

end Roster

end IngressRouting
