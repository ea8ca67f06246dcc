/-
The advanced tier as a ranking. A binding outranks another by its host, then by its path,
then by the class of its traits, then by its age, and the first of these in which they
differ decides (`Binding.Outranks`). This is the order that the tier is sorted by
(`Precedence.order_eq_lt_iff`).

The tier holds the bindings of the sites where conditions decide, each once. None of them
stands behind one that it outranks, and those of one rank stand by host and path, and at
one host and path as they are listed there (`Reachable.advanced_ranked`).
-/
import IngressRouting.Proofs.Rulebook.MatchOrder

namespace IngressRouting

namespace Precedence

variable {standsForMany : String → Bool} {a b : String}

/-- The one text stands for one thing and the other for many, or they are of one kind and
it is the longer one, in bytes. -/
def Narrower (standsForMany : String → Bool) (a b : String) : Prop :=
  standsForMany a = false ∧ standsForMany b = true ∨
    standsForMany a = standsForMany b ∧ b.utf8ByteSize < a.utf8ByteSize

/-- Both texts are of one kind and of one length. -/
def AsNarrow (standsForMany : String → Bool) (a b : String) : Prop :=
  standsForMany a = standsForMany b ∧ a.utf8ByteSize = b.utf8ByteSize

instance : Decidable (Narrower standsForMany a b) := inferInstanceAs (Decidable (_ ∨ _))

instance : Decidable (AsNarrow standsForMany a b) := inferInstanceAs (Decidable (_ ∧ _))

theorem bySpecificity_eq_lt_iff : bySpecificity standsForMany a b = .lt ↔ Narrower standsForMany a b := by
  rw [bySpecificity, Narrower]
  cases standsForMany a <;> cases standsForMany b <;> simp [Nat.compare_eq_lt]

theorem bySpecificity_eq_eq_iff : bySpecificity standsForMany a b = .eq ↔ AsNarrow standsForMany a b := by
  rw [bySpecificity, AsNarrow, eq_comm (a := a.utf8ByteSize), ← Nat.compare_eq_eq]
  cases standsForMany a <;> cases standsForMany b <;> simp

end Precedence

namespace Binding

open Precedence

/-- The one binding is to be tried before the other: its host is narrower; or the hosts are
as narrow and its path is narrower; or the paths are as narrow too and its traits are of a
higher class, or of the same class and it is older. -/
def Outranks (a b : Binding) : Prop :=
  Narrower HostPattern.isWildcardText a.host b.host ∨
    AsNarrow HostPattern.isWildcardText a.host b.host ∧
      (Narrower PathPattern.isMarkedText a.path b.path ∨
        AsNarrow PathPattern.isMarkedText a.path b.path ∧
          (b.annotations.traitClass.rank < a.annotations.traitClass.rank ∨
            b.annotations.traitClass.rank = a.annotations.traitClass.rank ∧ a.since < b.since))

/-- The bindings differ in nothing that ranks. -/
def Ties (a b : Binding) : Prop :=
  AsNarrow HostPattern.isWildcardText a.host b.host ∧
    AsNarrow PathPattern.isMarkedText a.path b.path ∧
      b.annotations.traitClass.rank = a.annotations.traitClass.rank ∧ a.since = b.since

instance (a b : Binding) : Decidable (a.Outranks b) := inferInstanceAs (Decidable (_ ∨ _))

instance (a b : Binding) : Decidable (a.Ties b) := inferInstanceAs (Decidable (_ ∧ _))

end Binding

namespace Precedence

variable {a b : Binding}

/-- **The tier is sorted by rank.** -/
theorem order_eq_lt_iff : order a b = .lt ↔ a.Outranks b := by
  simp only [order, Ordering.then_eq_lt, bySpecificity_eq_lt_iff, bySpecificity_eq_eq_iff,
    Nat.compare_eq_eq, Std.compare_eq_lt, Binding.Outranks]

theorem order_eq_eq_iff : order a b = .eq ↔ a.Ties b := by
  simp only [order, Ordering.then_eq_eq, bySpecificity_eq_eq_iff, Std.compare_eq_iff_eq,
    Binding.Ties]

end Precedence

namespace Roster

variable {r : Roster} {a b : Binding}

/-- The one binding stands before the other: its host and path come first as texts, or they
are at one host and path, where it is listed first. -/
def StandsBefore (r : Roster) (a b : Binding) : Prop :=
  a.Before b ∨ (a.host = b.host ∧ a.path = b.path) ∧ [a, b].Sublist (r.listing a.host a.path)

/-- The bindings of sites stand by host and path, and as they are listed there. -/
theorem Sound.pairwise_standsBefore (h : r.Sound) (p : Site → Bool) :
    ((r.toSites.filter p).flatMap (·.bindings)).Pairwise r.StandsBefore := by
  rw [List.pairwise_flatMap]
  have hplace : ∀ s ∈ r.toSites.filter p, ∀ b ∈ s.bindings, b.host = s.host ∧ b.path = s.path :=
    fun s hs => (h.site_place (List.mem_filter.1 hs).1).2
  refine ⟨fun s hs => ?_, (r.toSites_ascending.filter _).imp_of_mem fun {s t} hs ht hst a ha b hb => ?_⟩
  · refine List.pairwise_iff_forall_sublist.2 fun {a b} hab => .inr ?_
    obtain ⟨hhost, hpath⟩ := hplace s hs a (hab.subset List.mem_cons_self)
    obtain ⟨hhost', hpath'⟩ := hplace s hs b (hab.subset (by simp))
    refine ⟨⟨hhost.trans hhost'.symm, hpath.trans hpath'.symm⟩, ?_⟩
    rw [hhost, hpath, ← (h.mem_toSites.1 (List.mem_filter.1 hs).1).2]
    exact hab
  · obtain ⟨hhost, hpath⟩ := hplace s hs a ha
    obtain ⟨hhost', hpath'⟩ := hplace t ht b hb
    refine .inl ?_
    rw [Binding.Before, hhost, hpath, hhost', hpath']
    exact hst

/-- **The advanced tier is ranked, and ties stand in order.** In every roster, the tier
holds the bindings of the sites where conditions decide, each as often as it is listed
there; no binding stands behind one that it outranks, and of two that tie the one whose
host and path come first stands first, or at one host and path the one that is listed
first. -/
theorem Reachable.advanced_ranked (h : Reachable r) :
    r.tiers.advanced.Perm ((r.toSites.filter (Divided ·.bindings)).flatMap (·.bindings)) ∧
      r.tiers.advanced.Pairwise fun a b => ¬ b.Outranks a ∧ (a.Ties b → r.StandsBefore a b) := by
  have hsound := h.consistent.sound
  have hdeferred : r.toSites.filter Site.deferred = r.toSites.filter (Divided ·.bindings) := by
    refine List.filter_congr fun s hs => Bool.eq_iff_iff.2 ?_
    rw [Site.deferred_iff (hsound.site_place hs).1, decide_eq_true_iff]
  rw [← hdeferred]
  refine ⟨List.mergeSort_perm _ _, ?_⟩
  have hstable := Precedence.pairwise_sort_stable (hsound.pairwise_standsBefore Site.deferred)
  refine hstable.imp fun {a b} hab => ?_
  rw [← Precedence.order_eq_lt_iff, ← Precedence.order_eq_eq_iff]
  have hswap : Precedence.order b a = (Precedence.order a b).swap := Std.OrientedCmp.eq_swap
  rcases hab with hlt | ⟨heq, hbefore⟩
  · simp [hswap, hlt]
  · simp [hswap, heq, hbefore]

/-- Three bindings of one rank, two of them at a host that comes first but was put last,
and one for every host that comes before them as a text, but is outranked although it is
older and its traits are of a higher class. -/
theorem advanced_ranked_ties :
    let header (value : String) : Annotations := Dict.ofList [(Annotations.headerKey, value)]
    let a : Binding := ⟨"ns/a", "*", "/x", (header "X-A: 1").insert Annotations.cookieKey "c: 1", 0,
      .forward "ns_a"⟩
    let b : Binding := ⟨"ns/b", "b.com", "/x", header "X-A: 1", 1, .forward "ns_b"⟩
    let c : Binding := ⟨"ns/c", "a.com", "/x", header "X-A: 2", 1, .forward "ns_c"⟩
    let d : Binding := ⟨"ns/d", "a.com", "/x", header "X-A: 3", 1, .forward "ns_d"⟩
    let r := ((((Roster.empty.put a).2.put b).2.put c).2.put d).2
    Reachable r ∧ c.Ties d ∧ d.Ties b ∧ b.Outranks a ∧
      (r.toSites.filter (Divided ·.bindings)).flatMap (·.bindings) = [a, c, d, b] ∧
      r.tiers.advanced.Perm ((r.toSites.filter (Divided ·.bindings)).flatMap (·.bindings)) ∧
      r.tiers.advanced.Pairwise fun a b => ¬ b.Outranks a ∧ (a.Ties b → r.StandsBefore a b) := by
  intro header a b c d r
  have hr : Reachable r := .put (.put (.put (.put .empty _) _) _) _
  exact ⟨hr, by decide +kernel, by decide +kernel, by decide +kernel, by decide +kernel,
    hr.advanced_ranked⟩

end Roster

end IngressRouting
