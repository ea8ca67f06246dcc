/-
A ledger: the bindings of each host and path as plain lists, by host and then by
path. It has no slots and no owners; whatever is asked of it is answered by
looking through the lists. This is the specification of a roster.

A ledger in order is what it lists at each host and path (`Ledger.ext_lookup`).
-/
import IngressRouting.Proofs.Roster.Calls

namespace IngressRouting

/-- The bindings of each host and path, in the order of hosts and paths. -/
abbrev Ledger := List Site

namespace Ledger

/-- The bindings listed at a host and path. -/
def lookup (host path : String) : Ledger → List Binding
  | [] => []
  | s :: l => if s.host = host ∧ s.path = path then s.bindings else lookup host path l

/-- Lists bindings at a host and path, in place of those listed there. -/
def set (host path : String) (bs : List Binding) : Ledger → Ledger
  | [] => [⟨host, path, bs⟩]
  | s :: l =>
    if s.host = host ∧ s.path = path then ⟨host, path, bs⟩ :: l
    else if host < s.host ∨ host = s.host ∧ path < s.path then ⟨host, path, bs⟩ :: s :: l
    else s :: set host path bs l

/-- Every binding in the order of the sites. -/
def bindings (l : Ledger) : List Binding := l.flatMap Site.bindings

/-- Looks for the binding with the same annotations at the host and path of a
newcomer. Without one the newcomer is listed last; a younger one gives it its
place; one of the same age stays, and so does an older one, which is a conflict. -/
def put (l : Ledger) (b : Binding) : Except Conflict Admission × Ledger :=
  let listed := l.lookup b.host b.path
  match listed.find? (b.annotations = ·.annotations) with
  | none => (.ok .inserted, l.set b.host b.path (listed ++ [b]))
  | some old =>
    if b.since < old.since then
      (.ok (.replaced old.source), l.set b.host b.path (listed.replace old b))
    else if b.since = old.since then (.ok .unchanged, l)
    else (.error ⟨b.source, old.source, b.host, b.path⟩, l)

/-- A site without the bindings of a source. -/
def clear (source : String) (s : Site) : Site := { s with bindings := s.bindings.filter (·.source ≠ source) }

/-- Takes the bindings of a source off every list, drops the lists that run empty,
and says how many bindings there were. -/
def removeSource (l : Ledger) (source : String) : Nat × Ledger :=
  (l.bindings.countP (·.source = source),
    (l.map (clear source)).filter fun s => !s.bindings.isEmpty)

/-- Makes a call of the plain list. -/
def call (l : Ledger) : Call → Reply × Ledger
  | .put b => (.put (l.put b).1, (l.put b).2)
  | .removeSource source => (.removed (l.removeSource source).1, (l.removeSource source).2)

/-- Makes calls one after the other and collects what they answer. -/
def run (l : Ledger) : List Call → List Reply × Ledger
  | [] => ([], l)
  | c :: cs =>
    let rest := run (l.call c).2 cs
    ((l.call c).1 :: rest.1, rest.2)

/-- By host and then by path, each at most once, and no list is empty. -/
structure Ordered (l : Ledger) : Prop where
  ascending : l.Pairwise Site.Before
  occupied : ∀ s ∈ l, s.bindings ≠ []

variable {l l' : Ledger} {s : Site} {host path : String} {bs : List Binding}

/-! ## Looking up -/

theorem lookup_cons_self (s : Site) (l : Ledger) : lookup s.host s.path (s :: l) = s.bindings :=
  if_pos ⟨rfl, rfl⟩

theorem lookup_cons_ne (h : ¬ (s.host = host ∧ s.path = path)) (l : Ledger) :
    lookup host path (s :: l) = lookup host path l :=
  if_neg h

theorem lookup_eq_nil (h : ∀ s ∈ l, ¬ (s.host = host ∧ s.path = path)) : l.lookup host path = [] := by
  induction l with
  | nil => rfl
  | cons s l ih =>
    rw [lookup_cons_ne (h s List.mem_cons_self)]
    exact ih fun t ht => h t (List.mem_cons_of_mem _ ht)

theorem Ordered.tail (h : Ordered (s :: l)) : Ordered l :=
  ⟨(List.pairwise_cons.1 h.ascending).2, fun t ht => h.occupied t (List.mem_cons_of_mem _ ht)⟩

theorem Ordered.lookup_tail (h : Ordered (s :: l)) : l.lookup s.host s.path = [] :=
  lookup_eq_nil fun t ht hplace =>
    ((List.pairwise_cons.1 h.ascending).1 t ht).place_ne ⟨hplace.1.symm, hplace.2.symm⟩

theorem Ordered.mem_iff (h : Ordered l) :
    s ∈ l ↔ s.bindings ≠ [] ∧ l.lookup s.host s.path = s.bindings := by
  induction l with
  | nil => simp [lookup, eq_comm]
  | cons t l ih =>
    rw [lookup, List.mem_cons]
    split
    · next hplace =>
      have hnot : s ∉ l := fun hs =>
        ((List.pairwise_cons.1 h.ascending).1 s hs).place_ne hplace
      constructor
      · rintro (rfl | hs)
        · exact ⟨h.occupied s List.mem_cons_self, rfl⟩
        · exact absurd hs hnot
      · rintro ⟨_, hb⟩
        obtain ⟨_, _, _⟩ := s
        obtain ⟨_, _, _⟩ := t
        obtain ⟨rfl, rfl⟩ := hplace
        cases hb
        exact .inl rfl
    · next hplace =>
      have hne : s ≠ t := fun he => hplace (he ▸ ⟨rfl, rfl⟩)
      simp only [hne, false_or, ih h.tail]

/-- **A ledger in order is what it lists at each host and path.** -/
theorem ext_lookup (h : Ordered l) (h' : Ordered l')
    (hl : ∀ host path, l.lookup host path = l'.lookup host path) : l = l' := by
  have hnodup : ∀ {m : Ledger}, Ordered m → m.Nodup := fun hm =>
    hm.ascending.imp fun hlt he => hlt.place_ne ⟨congrArg _ he, congrArg _ he⟩
  refine List.Perm.eq_of_pairwise (fun s t _ _ hst hts => absurd hts hst.asymm) h.ascending
    h'.ascending ?_
  refine (List.perm_ext_iff_of_nodup (hnodup h) (hnodup h')).2 fun s => ?_
  rw [h.mem_iff, h'.mem_iff, hl]

/-! ## Setting a list -/

theorem lookup_set (l : Ledger) (host path host' path' : String) (bs : List Binding) :
    (l.set host path bs).lookup host' path' =
      if host' = host ∧ path' = path then bs else l.lookup host' path' := by
  induction l with
  | nil => simp [set, lookup, eq_comm]
  | cons s l ih =>
    rw [set]
    split
    · next hplace =>
      obtain ⟨rfl, rfl⟩ := hplace
      by_cases he : host' = s.host ∧ path' = s.path
      · simp [lookup, he]
      · have hne : ¬ (s.host = host' ∧ s.path = path') := fun hs => he ⟨hs.1.symm, hs.2.symm⟩
        simp only [lookup, if_neg he, if_neg hne]
    · next hplace =>
      split
      · by_cases he : host' = host ∧ path' = path
        · obtain ⟨rfl, rfl⟩ := he
          simp [lookup]
        · have hne : ¬ (host = host' ∧ path = path') := fun hs => he ⟨hs.1.symm, hs.2.symm⟩
          simp only [lookup, if_neg he, if_neg hne]
      · rw [lookup, ih, lookup]
        by_cases he : host' = host ∧ path' = path
        · obtain ⟨rfl, rfl⟩ := he
          simp [hplace]
        · simp only [if_neg he]

theorem mem_set {t : Site} (h : t ∈ l.set host path bs) : t = ⟨host, path, bs⟩ ∨ t ∈ l := by
  induction l with
  | nil => simpa [set] using h
  | cons s l ih =>
    rw [set] at h
    split at h
    · exact (List.mem_cons.1 h).imp id (List.mem_cons_of_mem _)
    · split at h
      · exact List.mem_cons.1 h
      · rcases List.mem_cons.1 h with rfl | h
        · exact .inr List.mem_cons_self
        · exact (ih h).imp id (List.mem_cons_of_mem _)

theorem Ordered.set (h : Ordered l) (host path : String) (hne : bs ≠ []) :
    Ordered (l.set host path bs) := by
  refine ⟨?_, fun t ht => ?_⟩
  · have hasc := h.ascending
    induction l with
    | nil => simp [Ledger.set]
    | cons s l ih =>
      have hp := List.pairwise_cons.1 hasc
      rw [Ledger.set]
      split
      · next hplace =>
        obtain ⟨rfl, rfl⟩ := hplace
        exact List.pairwise_cons.2 ⟨hp.1, hp.2⟩
      · next hplace =>
        split
        · next hlt =>
          refine List.pairwise_cons.2 ⟨fun t ht => ?_, hasc⟩
          rcases List.mem_cons.1 ht with rfl | ht
          · exact hlt
          · exact Site.Before.trans hlt (hp.1 t ht)
        · next hlt =>
          refine List.pairwise_cons.2 ⟨fun t ht => ?_, ih h.tail hp.2⟩
          rcases mem_set ht with rfl | ht
          · exact .of_not hplace hlt
          · exact hp.1 t ht
  · rcases mem_set ht with rfl | ht
    · exact hne
    · exact h.occupied t ht

/-! ## Removing a source -/

theorem Ordered.removeSource (h : Ordered l) (source : String) : Ordered (l.removeSource source).2 where
  ascending := by
    have hmap : (l.map (clear source)).Pairwise Site.Before := List.pairwise_map.2 h.ascending
    exact hmap.filter _
  occupied s hs := by simpa using (List.mem_filter.1 hs).2

theorem Ordered.lookup_removeSource (h : Ordered l) (source host path : String) :
    (l.removeSource source).2.lookup host path = withoutSource source (l.lookup host path) := by
  induction l with
  | nil => rfl
  | cons s l ih =>
    have hrest := ih h.tail
    simp only [Ledger.removeSource, List.map_cons, List.filter_cons] at hrest ⊢
    by_cases hplace : s.host = host ∧ s.path = path
    · obtain ⟨rfl, rfl⟩ := hplace
      rw [lookup_cons_self]
      split
      · exact lookup_cons_self (clear source s) _
      · next hempty =>
        have hnone : withoutSource source s.bindings = [] := by
          simpa [clear, withoutSource] using hempty
        rw [hrest, h.lookup_tail, hnone]
        rfl
    · have hplace' : ¬ ((clear source s).host = host ∧ (clear source s).path = path) := hplace
      rw [lookup_cons_ne hplace, ← hrest]
      split
      · exact lookup_cons_ne hplace' _
      · rfl

end Ledger

end IngressRouting
