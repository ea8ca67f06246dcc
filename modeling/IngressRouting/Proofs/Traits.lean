/-
The traits that annotations ask for: at each place one where the annotation is
there, and none otherwise (`Annotations.trait?_eq_ok_iff`). The class of the
annotations counts them, so whoever asks for all that another asks for, and for
more, is of a higher class (`rank_lt_of_traits`).
-/
import IngressRouting.Match.Trait
import IngressRouting.Proofs.Results

namespace IngressRouting

theorem Trait.parse_eq_ok_iff {place : TraitPlace} {raw : String} {t : Trait} :
    parse place raw = .ok t ↔ ∃ name value, cut ':' raw = some (name, value) ∧
      trimBlank name ≠ "" ∧ t = ⟨place, trimBlank name, trimBlank value⟩ := by
  rw [parse]
  cases hc : cut ':' raw with
  | none => simp
  | some pair =>
    obtain ⟨name, value⟩ := pair
    simp only [Option.some.injEq, Prod.mk.injEq]
    split
    · next hempty =>
      refine iff_of_false (fun h => by cases h) ?_
      rintro ⟨_, _, ⟨rfl, rfl⟩, hne, _⟩
      exact hne hempty
    · next hne =>
      rw [Except.ok.injEq]
      refine ⟨fun h => ⟨name, value, ⟨rfl, rfl⟩, hne, h.symm⟩, ?_⟩
      rintro ⟨_, _, ⟨rfl, rfl⟩, _, rfl⟩
      rfl

namespace Annotations

variable {a b : Annotations} {place : TraitPlace} {ts us : List Trait}

theorem trait?_eq_ok_iff : a.trait? place = .ok ts ↔ (a.get? place.key = none ∧ ts = []) ∨
    ∃ raw t, a.get? place.key = some raw ∧ Trait.parse place raw = .ok t ∧ ts = [t] := by
  rw [trait?]
  cases a.get? place.key with
  | none => simp [eq_comm]
  | some raw =>
    simp only [map_eq_ok, reduceCtorEq, false_and, false_or, Option.some.injEq]
    constructor
    · rintro ⟨t, ht, rfl⟩
      exact ⟨raw, t, rfl, ht, rfl⟩
    · rintro ⟨_, t, rfl, ht, rfl⟩
      exact ⟨t, ht, rfl⟩

theorem traits_eq_ok_iff : a.traits = .ok ts ↔
    ∃ cookie header, a.trait? .cookie = .ok cookie ∧ a.trait? .header = .ok header ∧
      ts = cookie ++ header := by
  simp only [traits, bind_eq_ok, pure, Except.pure, Except.ok.injEq]
  constructor
  · rintro ⟨cookie, hc, header, hh, rfl⟩
    exact ⟨cookie, header, hc, hh, rfl⟩
  · rintro ⟨cookie, header, hc, hh, rfl⟩
    exact ⟨cookie, hc, header, hh, rfl⟩

theorem place_of_mem_trait? (h : a.trait? place = .ok ts) {t : Trait} (ht : t ∈ ts) :
    t.place = place := by
  rcases trait?_eq_ok_iff.1 h with ⟨_, rfl⟩ | ⟨raw, u, _, hparse, rfl⟩
  · cases ht
  · obtain ⟨name, value, _, _, rfl⟩ := Trait.parse_eq_ok_iff.1 hparse
    rw [List.mem_singleton.1 ht]

/-- The trait at a place is one of all the traits exactly when it is the one
there. -/
theorem mem_trait?_iff (h : a.traits = .ok ts) (hp : a.trait? place = .ok us) {t : Trait} :
    t ∈ us ↔ t ∈ ts ∧ t.place = place := by
  obtain ⟨cookie, header, hc, hh, rfl⟩ := traits_eq_ok_iff.1 h
  rw [List.mem_append]
  cases place with
  | cookie =>
    obtain rfl : us = cookie := Except.ok.inj (hp.symm.trans hc)
    refine ⟨fun ht => ⟨.inl ht, place_of_mem_trait? hc ht⟩, fun ⟨ht, hplace⟩ => ht.resolve_right ?_⟩
    exact fun ht => by rw [place_of_mem_trait? hh ht] at hplace; cases hplace
  | header =>
    obtain rfl : us = header := Except.ok.inj (hp.symm.trans hh)
    refine ⟨fun ht => ⟨.inr ht, place_of_mem_trait? hh ht⟩, fun ⟨ht, hplace⟩ => ht.resolve_left ?_⟩
    exact fun ht => by rw [place_of_mem_trait? hc ht] at hplace; cases hplace

theorem trait?_of_subset (ha : a.traits = .ok ts) (hb : b.traits = .ok us) (hsub : ts ⊆ us)
    {at₁ at₂ : List Trait} (h₁ : a.trait? place = .ok at₁) (h₂ : b.trait? place = .ok at₂) :
    at₁ = [] ∨ at₁ = at₂ := by
  rcases trait?_eq_ok_iff.1 h₁ with ⟨_, rfl⟩ | ⟨_, t, _, _, rfl⟩
  · exact .inl rfl
  · obtain ⟨hm, hplace⟩ := (mem_trait?_iff ha h₁).1 List.mem_cons_self
    have hthere := (mem_trait?_iff hb h₂).2 ⟨hsub hm, hplace⟩
    rcases trait?_eq_ok_iff.1 h₂ with ⟨_, rfl⟩ | ⟨_, u, _, _, rfl⟩
    · cases hthere
    · exact .inr (by rw [List.mem_singleton.1 hthere])

theorem length_trait? (h : a.trait? place = .ok ts) : ts.length = (a.contains place.key).toNat := by
  rw [Dict.contains]
  rcases trait?_eq_ok_iff.1 h with ⟨hnone, rfl⟩ | ⟨_, _, hsome, _, rfl⟩
  · rw [hnone]; rfl
  · rw [hsome]; rfl

/-- The class counts the traits, a cookie twice. -/
theorem rank_traitClass (a : Annotations) :
    a.traitClass.rank = 2 * (a.contains cookieKey).toNat + (a.contains headerKey).toNat := by
  rw [traitClass]
  cases a.contains cookieKey <;> cases a.contains headerKey <;> rfl

/-- **Whoever asks for more traits is of a higher class.** -/
theorem rank_lt_of_traits (ha : a.traits = .ok ts) (hb : b.traits = .ok us) (hsub : ts ⊆ us)
    (hne : ts ≠ us) : a.traitClass.rank < b.traitClass.rank := by
  obtain ⟨cookie, header, hc, hh, rfl⟩ := traits_eq_ok_iff.1 ha
  obtain ⟨cookie', header', hc', hh', rfl⟩ := traits_eq_ok_iff.1 hb
  have hlen := length_trait? hc
  have hlen' := length_trait? hc'
  have hlenh := length_trait? hh
  have hlenh' := length_trait? hh'
  rw [rank_traitClass, rank_traitClass]
  simp only [TraitPlace.key] at hlen hlen' hlenh hlenh'
  have hcookie : cookie = cookie' ∨ cookie = [] ∧ 0 < cookie'.length := by
    rcases trait?_of_subset ha hb hsub hc hc' with rfl | rfl
    · cases cookie' <;> simp
    · exact .inl rfl
  have hheader : header = header' ∨ header = [] ∧ 0 < header'.length := by
    rcases trait?_of_subset ha hb hsub hh hh' with rfl | rfl
    · cases header' <;> simp
    · exact .inl rfl
  rcases hcookie with rfl | ⟨rfl, hmore⟩ <;> rcases hheader with rfl | ⟨rfl, hmore'⟩
  · exact absurd rfl hne
  · rw [List.length_nil] at hlenh
    omega
  · rw [List.length_nil] at hlen
    omega
  · rw [List.length_nil] at hlen hlenh
    omega

end Annotations

end IngressRouting
