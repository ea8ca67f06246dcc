/-
A roster as a plain list of its bindings (`Roster.Lists`): at each host and
path, the roster holds those of the list, in the order of the list. Putting a
binding settles it in the list, and removing a source takes its bindings out,
whatever the slots (`Lists.put`, `Lists.removeSource`). The sites, and so the
compiled rules, are those of the list (`Lists.rules_eq`).
-/
import IngressRouting.Proofs.Roster.Changes
import IngressRouting.Proofs.Settlement
import IngressRouting.Rules

namespace IngressRouting

/-- Whether a binding is at a host and path. -/
def Binding.isAt (host path : String) (b : Binding) : Bool := b.host = host && b.path = path

theorem Binding.isAt_iff {host path : String} {b : Binding} :
    b.isAt host path = true ↔ b.host = host ∧ b.path = path := by
  simp [isAt]

theorem Binding.Rivals.isAt_eq {b c : Binding} (h : b.Rivals c) (host path : String) :
    b.isAt host path = c.isAt host path := by
  rw [Binding.isAt, Binding.isAt, h.1, h.2.1]

/-- A binding settles among those that pass a test as it does among all, where rivals pass
it together. -/
theorem filter_settle_of_rivals {p : Binding → Bool} (hp : ∀ x y : Binding, x.Rivals y → p x = p y)
    (b : Binding) (bs : List Binding) :
    (settle b bs).filter p = if p b then settle b (bs.filter p) else bs.filter p := by
  induction bs with
  | nil => cases hb : p b <;> simp [settle, hb]
  | cons x bs ih =>
    rw [settle]
    by_cases hr : b.Rivals x
    · have hx := hp b x hr
      rw [if_pos hr]
      cases hb : p b
      · rw [hb] at hx
        split <;> simp [hb, ← hx]
      · rw [hb] at hx
        split
        · next hlt => simp [hb, ← hx, settle, hr, hlt]
        · next hlt => simp [← hx, settle, hr, hlt]
    · rw [if_neg hr, List.filter_cons, ih]
      cases hb : p b <;> cases hx : p x <;> simp [hx, settle, hr]

/-- What settles at one host and path does not touch the others. -/
theorem filter_settle (b : Binding) (host path : String) (bs : List Binding) :
    (settle b bs).filter (·.isAt host path) =
      if b.isAt host path then settle b (bs.filter (·.isAt host path))
      else bs.filter (·.isAt host path) :=
  filter_settle_of_rivals (fun _ _ h => h.isAt_eq host path) b bs

theorem filter_settleAll (cs : List Binding) (host path : String) (bs : List Binding) :
    (settleAll cs bs).filter (·.isAt host path) =
      settleAll (cs.filter (·.isAt host path)) (bs.filter (·.isAt host path)) := by
  induction cs generalizing bs with
  | nil => rfl
  | cons c cs ih =>
    have hrest := ih (settle c bs)
    rw [filter_settle] at hrest
    cases hc : c.isAt host path <;> simp only [hc, if_true, Bool.false_eq_true, if_false] at hrest
    · rw [List.filter_cons_of_neg (by simp [hc])]
      exact hrest
    · rw [List.filter_cons_of_pos hc]
      exact hrest

theorem filter_withoutSource (source host path : String) (bs : List Binding) :
    (withoutSource source bs).filter (·.isAt host path) =
      withoutSource source (bs.filter (·.isAt host path)) := by
  unfold withoutSource
  rw [List.filter_filter, List.filter_filter]
  exact List.filter_congr fun x _ => Bool.and_comm _ _

theorem admits_filter {b : Binding} {bs : List Binding} :
    Admits (bs.filter (·.isAt b.host b.path)) b ↔ Admits bs b := by
  constructor
  · intro h x hx hr
    exact h x (List.mem_filter.2 ⟨hx, Binding.isAt_iff.2 ⟨hr.1.symm, hr.2.1.symm⟩⟩) hr
  · intro h x hx hr
    exact h x (List.mem_filter.1 hx).1 hr

namespace Roster

variable {r r' : Roster} {b old : Binding} {bs : List Binding} {slot : Nat}

/-! ## One host and path -/

/-- The bindings at a host and path in the order in which they are listed. -/
def listing (r : Roster) (host path : String) : List Binding := (r.occupants host path).map (·.2)

theorem map_occupied (r : Roster) (slots : List Nat) :
    (r.occupied slots).map (·.2) = slots.filterMap r.get? := by
  simp [occupied, List.map_filterMap, Option.map_map, Function.comp_def]

theorem listing_eq (r : Roster) (host path : String) :
    r.listing host path = (r.sites.slots host path).filterMap r.get? :=
  map_occupied r _

theorem Sound.mem_listing (h : r.Sound) {host path : String} :
    b ∈ r.listing host path ↔ (∃ slot, r.get? slot = some b) ∧ b.host = host ∧ b.path = path := by
  simp only [listing, List.mem_map, Prod.exists, exists_eq_right, h.mem_occupants]
  constructor
  · rintro ⟨slot, hs, hat⟩
    exact ⟨⟨slot, hs⟩, hat⟩
  · rintro ⟨⟨slot, hs⟩, hat⟩
    exact ⟨slot, hs, hat⟩

theorem Rival.rivals (h : r.Rival b slot old) : b.Rivals old := ⟨h.host, h.path, h.annotations⟩

theorem Sound.mem_listing_of_rival (h : r.Sound) (rival : r.Rival b slot old) :
    old ∈ r.listing b.host b.path :=
  h.mem_listing.2 ⟨⟨slot, rival.held⟩, rival.host.symm, rival.path.symm⟩

/-- A newcomer has one rival at most. -/
theorem Sound.rival_unique (h : r.Sound) (rival : r.Rival b slot old) {c : Binding}
    (hc : c ∈ r.listing b.host b.path) (hr : b.Rivals c) : c = old := by
  obtain ⟨⟨x, hx⟩, _⟩ := h.mem_listing.1 hc
  have hs := h.distinct x slot c old hx rival.held (hr.1.symm.trans rival.host)
    (hr.2.1.symm.trans rival.path) (hr.2.2.symm.trans rival.annotations)
  rw [hs, rival.held] at hx
  exact (Option.some.inj hx).symm

theorem Sound.listing_join (h : r.Sound) (b : Binding) (host path : String) :
    (r.join b).listing host path =
      if host = b.host ∧ path = b.path then r.listing host path ++ [b] else r.listing host path := by
  have hold : ∀ host path, (r.sites.slots host path).filterMap (r.join b).get? = r.listing host path := by
    intro host path
    rw [listing_eq]
    refine List.filterMap_congr fun x hx => ?_
    have hne : x ≠ (r.allocate b).1 := fun he =>
      h.not_listed (h.allocate b).free host path (he ▸ hx)
    rw [h.get?_join, if_neg hne]
  rw [listing_eq, join_sites, Sites.slots_append]
  split
  · next he => simp [List.filterMap_append, ← he.1, ← he.2, hold, h.get?_join_self]
  · exact hold host path

theorem filterMap_displace {slots : List Nat} {f g : Nat → Option Binding}
    (hg : ∀ x, g x = if x = slot then some b else f x) (hnodup : slots.Nodup) (hm : slot ∈ slots)
    (held : f slot = some old) (hr : b.Rivals old) (hlt : b.since < old.since)
    (hone : ∀ x ∈ slots, ∀ c, f x = some c → b.Rivals c → x = slot) :
    slots.filterMap g = settle b (slots.filterMap f) := by
  induction slots with
  | nil => cases hm
  | cons x slots ih =>
    have hn := List.nodup_cons.1 hnodup
    by_cases hx : x = slot
    · subst hx
      have hrest : slots.filterMap g = slots.filterMap f := List.filterMap_congr fun y hy => by
        have hne : y ≠ x := fun he => hn.1 (he ▸ hy)
        rw [hg, if_neg hne]
      have hself : g x = some b := by rw [hg, if_pos rfl]
      rw [List.filterMap_cons_some hself, List.filterMap_cons_some held, settle, if_pos hr,
        if_pos hlt, hrest]
    · have hrest := ih hn.2 ((List.mem_cons.1 hm).resolve_left (Ne.symm hx)) fun y hy =>
        hone y (List.mem_cons_of_mem _ hy)
      have hsame : g x = f x := by rw [hg, if_neg hx]
      cases hf : f x with
      | none => rw [List.filterMap_cons_none (hsame.trans hf), List.filterMap_cons_none hf, hrest]
      | some c =>
        have hnot : ¬ b.Rivals c := fun hc => hx (hone x List.mem_cons_self c hf hc)
        rw [List.filterMap_cons_some (hsame.trans hf), List.filterMap_cons_some hf, settle,
          if_neg hnot, hrest]

theorem Sound.listing_displace (h : r.Sound) (rival : r.Rival b slot old) (hlt : b.since < old.since)
    (host path : String) :
    (r.displace slot old b).listing host path =
      if host = b.host ∧ path = b.path then settle b (r.listing host path)
      else r.listing host path := by
  have hsites : (r.displace slot old b).sites = r.sites := rfl
  rw [listing_eq, listing_eq, hsites]
  split
  · next he =>
    refine filterMap_displace (get?_displace rival.held b) (h.listed_once host path) ?_ rival.held
      rival.rivals hlt ?_
    · exact (h.listed host path slot).2 ⟨old, rival.held, rival.host ▸ he.1.symm, rival.path ▸ he.2.symm⟩
    · intro x _ c hc hr
      exact h.distinct x slot c old hc rival.held (hr.1.symm.trans rival.host)
        (hr.2.1.symm.trans rival.path) (hr.2.2.symm.trans rival.annotations)
  · next hne =>
    refine List.filterMap_congr fun x hx => ?_
    rw [get?_displace rival.held, if_neg]
    intro hs
    obtain ⟨c, hc, hhost, hpath⟩ := (h.listed host path x).1 hx
    rw [hs, rival.held] at hc
    cases hc
    exact hne ⟨(rival.host.trans hhost).symm, (rival.path.trans hpath).symm⟩

/-- **A put settles its binding at its host and path**, and changes nothing
elsewhere. -/
theorem Sound.listing_put (h : r.Sound) (b : Binding) (host path : String) :
    (r.put b).2.listing host path =
      if host = b.host ∧ path = b.path then settle b (r.listing host path)
      else r.listing host path := by
  have hput := h.put b
  generalize (r.put b).1 = answer at hput
  generalize (r.put b).2 = state at hput ⊢
  have hkeep : ∀ {slot old}, r.Rival b slot old → old.since ≤ b.since →
      r.listing host path = if host = b.host ∧ path = b.path then settle b (r.listing host path)
        else r.listing host path := by
    intro slot old rival hle
    split
    · next he =>
      rw [he.1, he.2]
      refine (settle_eq_self (h.mem_listing_of_rival rival) rival.rivals fun c hc hr => ?_).symm
      rw [h.rival_unique rival hc hr]
      exact hle
    · rfl
  cases hput with
  | inserted free =>
    rw [h.listing_join]
    split
    · next he =>
      have hnone : ∀ c ∈ r.listing host path, ¬ b.Rivals c := fun c hc hr => by
        obtain ⟨⟨x, hx⟩, _⟩ := h.mem_listing.1 hc
        exact free x c ⟨hx, hr.1, hr.2.1, hr.2.2⟩
      have hlast := settle_append hnone []
      rw [List.append_nil] at hlast
      exact hlast.symm
    · rfl
  | replaced slot old rival older => exact h.listing_displace rival older host path
  | unchanged slot old rival same => exact hkeep rival (same ▸ UInt64.le_refl _)
  | refused slot old rival newer => exact hkeep rival (UInt64.le_of_lt newer)

theorem Sound.put_isOk (h : r.Sound) (b : Binding) :
    (r.put b).1.isOk = true ↔ Admits (r.listing b.host b.path) b := by
  have hput := h.put b
  generalize (r.put b).1 = answer at hput ⊢
  generalize (r.put b).2 = state at hput
  have hone : ∀ {slot old}, r.Rival b slot old →
      (Admits (r.listing b.host b.path) b ↔ b.since ≤ old.since) := by
    intro slot old rival
    constructor
    · intro ha
      exact ha old (h.mem_listing_of_rival rival) rival.rivals
    · intro hle c hc hr
      rw [h.rival_unique rival hc hr]
      exact hle
  cases hput with
  | inserted free =>
    refine iff_of_true rfl fun c hc hr => ?_
    obtain ⟨⟨x, hx⟩, _⟩ := h.mem_listing.1 hc
    exact absurd ⟨hx, hr.1, hr.2.1, hr.2.2⟩ (free x c)
  | replaced slot old rival older => exact iff_of_true rfl ((hone rival).2 (UInt64.le_of_lt older))
  | unchanged slot old rival same => exact iff_of_true rfl ((hone rival).2 (same ▸ UInt64.le_refl _))
  | refused slot old rival newer =>
    refine iff_of_false (by simp [Except.isOk, Except.toBool]) fun ha => ?_
    exact UInt64.not_lt.2 ((hone rival).1 ha) newer

theorem filterMap_erase {f : Nat → Option Binding} (hf : f slot = none) (slots : List Nat) :
    (slots.erase slot).filterMap f = slots.filterMap f := by
  induction slots with
  | nil => rfl
  | cons x slots ih =>
    by_cases hx : x = slot
    · rw [hx, List.erase_cons_head, List.filterMap_cons_none hf]
    · rw [List.erase_cons_tail (by simpa using hx), List.filterMap_cons, List.filterMap_cons, ih]

theorem Sound.filterMap_foldl_releaseSlot (h : r.Sound) {f : Nat → Option Binding} {slots : List Nat}
    (hf : ∀ x ∈ slots, f x = none) (host path : String) :
    ((slots.foldl releaseSlot r).sites.slots host path).filterMap f =
      (r.sites.slots host path).filterMap f := by
  induction slots generalizing r with
  | nil => rfl
  | cons slot slots ih =>
    have hrest : ∀ x ∈ slots, f x = none := fun x hx => hf x (List.mem_cons_of_mem _ hx)
    rw [List.foldl_cons]
    cases hg : r.get? slot with
    | none =>
      have hsame : r.releaseSlot slot = r := by rw [releaseSlot, hg]
      rw [hsame, ih h hrest]
    | some b =>
      rw [releaseSlot_eq hg, ih (h.release hg) hrest, h.slots_release]
      split
      · exact filterMap_erase (hf slot List.mem_cons_self) _
      · rfl

/-- **A removal takes out the bindings of its source**; the others keep their
order. -/
theorem Sound.listing_removeSource (h : r.Sound) (source host path : String) :
    (r.removeSource source).2.listing host path = withoutSource source (r.listing host path) := by
  have hget : (r.removeSource source).2.get? = fun x => (r.get? x).filter (·.source ≠ source) :=
    funext (h.get?_removeSource_eq source)
  have hslots : ((r.removeSource source).2.sites.slots host path).filterMap
      (r.removeSource source).2.get? =
        (r.sites.slots host path).filterMap (r.removeSource source).2.get? := by
    rw [h.removeSource_eq]
    refine h.filterMap_foldl_releaseSlot (fun x hx => ?_) host path
    rw [get?_foldl_releaseSlot, if_pos hx]
  rw [listing_eq, hslots, hget, withoutSource, listing_eq, List.filter_filterMap]

/-! ## The roster as a list -/

/-- At each host and path the roster holds the bindings of the list, in its
order. -/
def Lists (r : Roster) (bs : List Binding) : Prop :=
  ∀ host path, r.listing host path = bs.filter (·.isAt host path)

theorem lists_empty : Roster.empty.Lists [] := fun _ _ => rfl

theorem Lists.put (hl : r.Lists bs) (h : r.Sound) (b : Binding) : (r.put b).2.Lists (settle b bs) := by
  intro host path
  rw [h.listing_put, hl, filter_settle]
  by_cases hat : b.isAt host path = true
  · rw [if_pos hat, if_pos]
    have he := Binding.isAt_iff.1 hat
    exact ⟨he.1.symm, he.2.symm⟩
  · rw [if_neg hat, if_neg]
    exact fun he => hat (Binding.isAt_iff.2 ⟨he.1.symm, he.2.symm⟩)

theorem Lists.put_isOk (hl : r.Lists bs) (h : r.Sound) (b : Binding) :
    (r.put b).1.isOk = true ↔ Admits bs b := by
  rw [h.put_isOk, hl, admits_filter]

theorem Lists.removeSource (hl : r.Lists bs) (h : r.Sound) (source : String) :
    (r.removeSource source).2.Lists (withoutSource source bs) := by
  intro host path
  rw [h.listing_removeSource, hl, filter_withoutSource]

/-- The list has the bindings in force and no others. -/
theorem Lists.mem_iff (hl : r.Lists bs) (h : r.Sound) : b ∈ bs ↔ ∃ slot, r.get? slot = some b := by
  have hat : b ∈ bs ↔ b ∈ r.listing b.host b.path := by
    rw [hl, List.mem_filter, Binding.isAt_iff]
    simp
  rw [hat, h.mem_listing]
  simp

theorem Lists.mem_sources_iff (hl : r.Lists bs) (h : r.Sound) {source : String} :
    source ∈ r.sources ↔ ∃ b ∈ bs, b.source = source := by
  have howners : source ∈ r.sources ↔ r.owners.slots source ≠ [] := by
    rw [sources, Dict.mem_keys_iff, Dict.contains, h.owners_pruned.get?_eq]
    split <;> simp_all
  rw [howners]
  constructor
  · intro hne
    obtain ⟨slot, hs⟩ := List.exists_mem_of_ne_nil _ hne
    obtain ⟨b, hb, hsource⟩ := (h.owned source slot).1 hs
    exact ⟨b, (hl.mem_iff h).2 ⟨slot, hb⟩, hsource⟩
  · rintro ⟨b, hb, hsource⟩
    obtain ⟨slot, hs⟩ := (hl.mem_iff h).1 hb
    exact List.ne_nil_of_mem ((h.owned source slot).2 ⟨b, hs, hsource⟩)

/-! ## The sites of a list -/

/-- The hosts of the bindings, ascending. -/
def hostsOf (bs : List Binding) : List String := (StringSet.ofList (bs.map (·.host))).keys

/-- The paths of the bindings of a host, ascending. -/
def pathsOf (bs : List Binding) (host : String) : List String :=
  (StringSet.ofList ((bs.filter (·.host = host)).map (·.path))).keys

/-- Every host and path of a list with its bindings, by host and then by path. -/
def sitesOf (bs : List Binding) : List Site :=
  (hostsOf bs).flatMap fun host =>
    (pathsOf bs host).map fun path => ⟨host, path, bs.filter (·.isAt host path)⟩

/-- The paths of a host; a host that is not there has none. -/
def pathsAt (r : Roster) (host : String) : Dict (List Nat) := (r.sites.get? host).getD ∅

theorem toSites_eq (r : Roster) :
    r.toSites = r.sites.keys.flatMap fun host =>
      (r.pathsAt host).keys.map fun path => ⟨host, path, r.listing host path⟩ := by
  rw [toSites, List.flatMap_def, List.flatMap_def]
  refine congrArg List.flatten (Dict.map_entries fun host paths hp => ?_)
  have hpaths : r.pathsAt host = paths := by rw [pathsAt, hp]; rfl
  rw [hpaths]
  refine Dict.map_entries fun path slots hs => ?_
  have hslots : r.sites.slots host path = slots := by simp [Sites.slots, hp, hs]
  rw [listing, occupants, hslots]

theorem Sound.contains_pathsAt (h : r.Sound) {host path : String} :
    (r.pathsAt host).contains path = true ↔
      ∃ slot b, r.get? slot = some b ∧ b.host = host ∧ b.path = path := by
  have hslots : (r.pathsAt host).contains path = true ↔ r.sites.slots host path ≠ [] := by
    rw [Dict.contains, pathsAt]
    cases hs : r.sites.get? host with
    | none => simp [Sites.slots, hs]
    | some paths =>
      rw [Option.getD_some, h.sites_pruned.get?_eq hs]
      split <;> simp_all
  rw [hslots]
  constructor
  · intro hne
    obtain ⟨slot, hs⟩ := List.exists_mem_of_ne_nil _ hne
    exact ⟨slot, (h.listed host path slot).1 hs⟩
  · rintro ⟨slot, hb⟩
    exact List.ne_nil_of_mem ((h.listed host path slot).2 hb)

theorem Sound.contains_sites (h : r.Sound) {host : String} :
    r.sites.contains host = true ↔ ∃ slot b, r.get? slot = some b ∧ b.host = host := by
  rw [Dict.contains, Option.isSome_iff_ne_none, Ne, h.sites_pruned.get?_eq_none_iff, not_forall]
  constructor
  · rintro ⟨path, hne⟩
    obtain ⟨slot, hs⟩ := List.exists_mem_of_ne_nil _ hne
    obtain ⟨b, hb, hhost, _⟩ := (h.listed host path slot).1 hs
    exact ⟨slot, b, hb, hhost⟩
  · rintro ⟨slot, b, hb, hhost⟩
    exact ⟨b.path, List.ne_nil_of_mem ((h.listed host b.path slot).2 ⟨b, hb, hhost, rfl⟩)⟩

theorem Lists.keys_sites (hl : r.Lists bs) (h : r.Sound) : r.sites.keys = hostsOf bs := by
  refine Dict.keys_ext fun host => Bool.eq_iff_iff.2 ?_
  rw [h.contains_sites, StringSet.contains_ofList, List.mem_map]
  constructor
  · rintro ⟨slot, b, hb, hhost⟩
    exact ⟨b, (hl.mem_iff h).2 ⟨slot, hb⟩, hhost⟩
  · rintro ⟨b, hb, hhost⟩
    obtain ⟨slot, hs⟩ := (hl.mem_iff h).1 hb
    exact ⟨slot, b, hs, hhost⟩

theorem Lists.keys_pathsAt (hl : r.Lists bs) (h : r.Sound) (host : String) :
    (r.pathsAt host).keys = pathsOf bs host := by
  refine Dict.keys_ext fun path => Bool.eq_iff_iff.2 ?_
  rw [h.contains_pathsAt, StringSet.contains_ofList, List.mem_map]
  constructor
  · rintro ⟨slot, b, hb, hhost, hpath⟩
    exact ⟨b, List.mem_filter.2 ⟨(hl.mem_iff h).2 ⟨slot, hb⟩, by simpa using hhost⟩, hpath⟩
  · rintro ⟨b, hb, hpath⟩
    obtain ⟨hm, hhost⟩ := List.mem_filter.1 hb
    obtain ⟨slot, hs⟩ := (hl.mem_iff h).1 hm
    exact ⟨slot, b, hs, by simpa using hhost, hpath⟩

/-- **The sites of a roster are those of its list.** -/
theorem Lists.toSites_eq (hl : r.Lists bs) (h : r.Sound) : r.toSites = sitesOf bs := by
  rw [Roster.toSites_eq, sitesOf, hl.keys_sites h]
  refine List.flatMap_congr fun host _ => ?_
  rw [hl.keys_pathsAt h]
  exact List.map_congr_left fun path _ => by rw [hl]

theorem flatMap_single {keys : List String} (hn : keys.Nodup) {a : String}
    {f : String → List Binding} (h : ∀ k, k ≠ a → f k = []) :
    keys.flatMap f = if a ∈ keys then f a else [] := by
  induction keys with
  | nil => rfl
  | cons k keys ih =>
    obtain ⟨hk, hn⟩ := List.nodup_cons.1 hn
    rw [List.flatMap_cons, ih hn]
    by_cases hka : k = a
    · subst hka
      simp [hk]
    · simp [h k hka, Ne.symm hka]

theorem Sound.lists_toList (h : r.Sound) : r.Lists r.toList := by
  intro host path
  have hother : ∀ host' path', ¬ (host' = host ∧ path' = path) →
      (r.listing host' path').filter (·.isAt host path) = [] := fun host' path' hne => by
    refine List.filter_eq_nil_iff.2 fun b hb hat => hne ?_
    obtain ⟨_, hhost, hpath⟩ := h.mem_listing.1 hb
    have he := Binding.isAt_iff.1 hat
    exact ⟨hhost.symm.trans he.1, hpath.symm.trans he.2⟩
  have hself : (r.listing host path).filter (·.isAt host path) = r.listing host path :=
    List.filter_eq_self.2 fun b hb => Binding.isAt_iff.2 (h.mem_listing.1 hb).2
  have hflat : r.toList.filter (·.isAt host path) =
      r.sites.keys.flatMap fun host' => (r.pathsAt host').keys.flatMap fun path' =>
        (r.listing host' path').filter (·.isAt host path) := by
    rw [toList, Roster.toSites_eq, List.flatMap_assoc, List.filter_flatMap]
    exact List.flatMap_congr fun host' _ => by rw [List.flatMap_map, List.filter_flatMap]
  have hnil : ¬ (host ∈ r.sites.keys ∧ path ∈ (r.pathsAt host).keys) → r.listing host path = [] :=
    fun hne => List.eq_nil_iff_forall_not_mem.2 fun b hb => hne <| by
      obtain ⟨⟨slot, hs⟩, hhost, hpath⟩ := h.mem_listing.1 hb
      exact ⟨Dict.mem_keys_iff.2 (h.contains_sites.2 ⟨slot, b, hs, hhost⟩),
        Dict.mem_keys_iff.2 (h.contains_pathsAt.2 ⟨slot, b, hs, hhost, hpath⟩)⟩
  have hhosts : ∀ host', host' ≠ host → ((r.pathsAt host').keys.flatMap fun path' =>
      (r.listing host' path').filter (·.isAt host path)) = [] := fun host' hne =>
    List.flatMap_eq_nil_iff.2 fun path' _ => hother host' path' fun he => hne he.1
  rw [hflat, flatMap_single r.sites.keys_nodup hhosts,
    flatMap_single (r.pathsAt host).keys_nodup fun path' hne => hother host path' fun he => hne he.2,
    hself]
  by_cases hhost : host ∈ r.sites.keys <;> by_cases hpath : path ∈ (r.pathsAt host).keys <;>
    simp [hhost, hpath, hnil]

end Roster

/-! ## Compiling a list -/

/-- The rules of sites, all of them or none. -/
def Rules.ofSites (sites : List Site) : Except Fault Rules := do
  let basic ← (sites.filterMap Site.basicEntry?).mapM BasicEntry.rule
  let advanced ←
    (Precedence.sort ((sites.filter Site.deferred).flatMap (·.bindings))).mapM Binding.rule
  return ⟨basic, advanced⟩

/-- **The rules of a roster are those of its list.** -/
theorem Roster.Lists.rules_eq {r : Roster} {bs : List Binding} (hl : r.Lists bs) (h : r.Sound) :
    r.rules = Rules.ofSites (Roster.sitesOf bs) := by
  rw [← hl.toSites_eq h]
  rfl

end IngressRouting
