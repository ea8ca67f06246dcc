/-
When one binding stands for every request that another stands for, by the texts
of their hosts and paths and by their traits (`Binding.Covers`).

The order of precedence knows nothing of this: it compares flags, lengths and
classes. It agrees because a host or path that covers another which stands for
many is spelled out within it, so it is the shorter text (`Covers.sublist`), and
because a binding with more traits is of a higher class. So whatever covers
another strictly comes behind it (`order_eq_gt_of_strictlyCovers`).
-/
import IngressRouting.Proofs.Compilation
import IngressRouting.Proofs.Patterns
import IngressRouting.Proofs.Precedence
import IngressRouting.Proofs.Traits
import Mathlib.Data.String.Basic

namespace IngressRouting

/-- A host text stands for all that another stands for: it stands for every host,
it is the same text, or it is a marker and a suffix that the other ends in. -/
def HostPattern.Covers (a b : String) : Prop :=
  a = anyText ∨ a = b ∨ ['*', '.'] <+: a.toList ∧ a.toList.tail <:+ b.toList

/-- A path text stands for all that another stands for: it stands for every path,
it is the same text, or it has a marker behind what the other starts with, markers
apart. -/
def PathPattern.Covers (a b : String) : Prop :=
  a = "*" ∨ a = b ∨ isMarkedText a = true ∧ (splitMarker a.toList).1 <+: (splitMarker b.toList).1

instance (a b : String) : Decidable (HostPattern.Covers a b) := inferInstanceAs (Decidable (_ ∨ _))
instance (a b : String) : Decidable (PathPattern.Covers a b) := inferInstanceAs (Decidable (_ ∨ _))

namespace Binding

/-- The traits that the annotations ask for; none where these cannot be read. -/
def traits (b : Binding) : List Trait := b.annotations.traits.toOption.getD []

theorem Compiles.traits_eq {b : Binding} (h : b.Compiles) : b.annotations.traits = .ok b.traits := by
  obtain ⟨text, ht⟩ := h
  obtain ⟨c, hc, _⟩ := map_eq_ok.1 ht
  obtain ⟨_, _, ts, _, _, hts, _⟩ := Condition.parse_eq_ok_iff.1 hc
  rw [traits, hts]
  rfl

/-- Every request that the one binding is for is one that the other is for. -/
structure Covers (a b : Binding) : Prop where
  host : HostPattern.Covers a.host b.host
  path : PathPattern.Covers a.path b.path
  traits : a.traits ⊆ b.traits

/-- It covers the other, and they differ in host, path or traits. -/
def StrictlyCovers (a b : Binding) : Prop :=
  a.Covers b ∧ ¬ (a.host = b.host ∧ a.path = b.path ∧ a.traits = b.traits)

/-- It covers the other from another place. -/
def Overshadows (a b : Binding) : Prop :=
  a.Covers b ∧ ¬ (a.host = b.host ∧ a.path = b.path)

instance (a b : Binding) : Decidable (a.Covers b) :=
  decidable_of_iff (HostPattern.Covers a.host b.host ∧ PathPattern.Covers a.path b.path ∧
    a.traits ⊆ b.traits) ⟨fun h => ⟨h.1, h.2.1, h.2.2⟩, fun h => ⟨h.host, h.path, h.traits⟩⟩

instance (a b : Binding) : Decidable (a.StrictlyCovers b) := inferInstanceAs (Decidable (_ ∧ _))
instance (a b : Binding) : Decidable (a.Overshadows b) := inferInstanceAs (Decidable (_ ∧ _))

theorem Overshadows.strictly {a b : Binding} (h : a.Overshadows b) : a.StrictlyCovers b :=
  ⟨h.1, fun he => h.2 ⟨he.1, he.2.1⟩⟩

end Binding

/-! ## Texts within texts -/

theorem utf8Len_lt_of_sublist {cs ds : List Char} (h : cs.Sublist ds) (hne : cs ≠ ds) :
    String.utf8Len cs < String.utf8Len ds := by
  induction h with
  | slnil => exact absurd rfl hne
  | cons c h _ =>
    have hle := String.utf8Len_le_of_sublist h
    have hpos := c.utf8Size_pos
    rw [String.utf8Len_cons]
    omega
  | cons_cons c _ ih =>
    have hlt := ih fun he => hne (he ▸ rfl)
    rw [String.utf8Len_cons, String.utf8Len_cons]
    omega

theorem utf8ByteSize_lt_of_sublist {a b : String} (h : a.toList.Sublist b.toList) (hne : a ≠ b) :
    a.utf8ByteSize < b.utf8ByteSize := by
  rw [← String.utf8Len_toList, ← String.utf8Len_toList]
  exact utf8Len_lt_of_sublist h fun he => hne (String.toList_inj.1 he)

namespace HostPattern

variable {a b : String}

theorem Covers.isWildcardText (h : Covers a b) (hne : a ≠ b) : isWildcardText a = true := by
  rw [isWildcardText_iff]
  rcases h with rfl | rfl | ⟨hmarked, _⟩
  · exact .inl rfl
  · exact absurd rfl hne
  · exact .inr hmarked

theorem Covers.sublist (h : Covers a b) (hb : HostPattern.isWildcardText b = true) :
    a.toList.Sublist b.toList := by
  rw [isWildcardText_iff] at hb
  rcases h with rfl | rfl | ⟨⟨s, hs⟩, hsuffix⟩
  · rcases hb with rfl | ⟨t, ht⟩
    · exact .refl _
    · rw [← ht]
      exact List.singleton_sublist.2 List.mem_cons_self
  · exact .refl _
  · rw [← hs] at hsuffix ⊢
    rcases hb with rfl | ⟨t, ht⟩
    · have hlen := hsuffix.length_le
      have hs : s = [] := List.length_eq_zero_iff.1 (by simpa [anyText] using hlen)
      subst hs
      exact absurd hsuffix (by decide)
    · rw [← ht] at hsuffix ⊢
      rcases List.suffix_cons_iff.1 hsuffix with he | hsuffix
      · exact absurd (List.cons.inj he).1 (by decide)
      · exact hsuffix.sublist.cons_cons '*'

end HostPattern

namespace PathPattern

variable {a b : String}

theorem Covers.isMarkedText (h : Covers a b) (hne : a ≠ b) : isMarkedText a = true := by
  rcases h with rfl | rfl | ⟨hmarked, _⟩
  · rfl
  · exact absurd rfl hne
  · exact hmarked

theorem Covers.sublist (h : Covers a b) (hb : PathPattern.isMarkedText b = true) :
    a.toList.Sublist b.toList := by
  obtain ⟨q, hq⟩ := isMarkedText_iff.1 hb
  rcases h with rfl | rfl | ⟨hmarked, hstart⟩
  · rw [hq]
    exact List.sublist_append_right q ['*']
  · exact .refl _
  · obtain ⟨p, hp⟩ := isMarkedText_iff.1 hmarked
    rw [hp, hq, splitMarker_append, splitMarker_append] at hstart
    rw [hp, hq]
    exact hstart.sublist.append (.refl _)

end PathPattern

namespace Precedence

variable {a b : Binding}

theorem bySpecificity_of_covers_host {a b : String} (h : HostPattern.Covers a b) (hne : a ≠ b) :
    bySpecificity HostPattern.isWildcardText a b = .gt :=
  bySpecificity_eq_gt (h.isWildcardText hne) fun hb => utf8ByteSize_lt_of_sublist (h.sublist hb) hne

theorem bySpecificity_of_covers_path {a b : String} (h : PathPattern.Covers a b) (hne : a ≠ b) :
    bySpecificity PathPattern.isMarkedText a b = .gt :=
  bySpecificity_eq_gt (h.isMarkedText hne) fun hb => utf8ByteSize_lt_of_sublist (h.sublist hb) hne

/-- **Whatever covers another strictly comes behind it.** The first of host, path
and traits in which they differ decides. -/
theorem order_eq_gt_of_strictlyCovers (ha : a.annotations.traits = .ok a.traits)
    (hb : b.annotations.traits = .ok b.traits) (h : a.StrictlyCovers b) : order a b = .gt := by
  obtain ⟨hcovers, hdiffer⟩ := h
  rw [order]
  by_cases hhost : a.host = b.host
  · rw [hhost, bySpecificity_self, Ordering.eq_then]
    by_cases hpath : a.path = b.path
    · have htraits : a.traits ≠ b.traits := fun he => hdiffer ⟨hhost, hpath, he⟩
      have hrank := Annotations.rank_lt_of_traits ha hb hcovers.traits htraits
      rw [hpath, bySpecificity_self, Ordering.eq_then, Nat.compare_eq_gt.2 hrank]
      rfl
    · rw [bySpecificity_of_covers_path hcovers.path hpath]
      rfl
  · rw [bySpecificity_of_covers_host hcovers.host hhost]
    rfl

end Precedence

end IngressRouting
