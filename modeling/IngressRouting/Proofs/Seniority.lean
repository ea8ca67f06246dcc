/-
Claims that settle in the order of their age, where nothing is in force. Nobody
loses a place to somebody who comes later, so each place is held by the first of
those who claim it (`firsts_settleAll`).
-/
import IngressRouting.Proofs.Holders

namespace IngressRouting

/-- The older one first, and by source among those of equal age. -/
def Binding.Precedes (b c : Binding) : Prop :=
  b.since < c.since ∨ b.since = c.since ∧ ¬ c.source < b.source

namespace Binding.Precedes

variable {b c : Binding}

theorem refl (b : Binding) : b.Precedes b := .inr ⟨rfl, String.lt_irrefl _⟩

theorem since_le (h : b.Precedes c) : b.since ≤ c.since := by
  rcases h with hlt | ⟨he, _⟩
  · exact UInt64.le_of_lt hlt
  · exact he ▸ UInt64.le_refl _

end Binding.Precedes

/-- Of the claims, those that come first among their rivals. -/
structure Firsts (cs bs : List Binding) : Prop where
  claims : ∀ x ∈ bs, x ∈ cs
  apart : bs.Pairwise fun x y => ¬ x.Rivals y
  first : ∀ c ∈ cs, ∃ x ∈ bs, c.Rivals x ∧ x.Precedes c

namespace Firsts

variable {b c x y : Binding} {bs cs ds : List Binding}

theorem nil : Firsts [] [] := ⟨fun _ h => h, .nil, fun _ h => by cases h⟩

theorem eq_of_rivals (h : Firsts cs bs) (hx : x ∈ bs) (hy : y ∈ bs) (hr : x.Rivals y) : x = y :=
  Apart.eq_of_rivals h.apart hx hy hr

theorem settle (h : Firsts cs bs) (hlast : ∀ x ∈ cs, x.Precedes c) :
    Firsts (cs ++ [c]) (settle c bs) := by
  refine ⟨fun y hy => ?_, Apart.settle h.apart c, fun d hd => ?_⟩
  · rcases mem_settle hy with rfl | hy
    · exact List.mem_append_right _ List.mem_cons_self
    · exact List.mem_append_left _ (h.claims y hy)
  · rcases List.mem_append.1 hd with hd | hd
    · obtain ⟨x, hx, hr, hprecedes⟩ := h.first d hd
      rcases mem_settle_or hx with hkept | ⟨_, _, hlt⟩
      · exact ⟨x, hkept, hr, hprecedes⟩
      · have hle := (hlast x (h.claims x hx)).since_le
        exact absurd hlt (UInt64.not_lt.2 hle)
    · obtain rfl := List.mem_singleton.1 hd
      obtain ⟨x, hx, hr, _⟩ := exists_holder d bs
      refine ⟨x, hx, hr, ?_⟩
      rcases mem_settle hx with rfl | hx
      · exact .refl _
      · exact hlast x (h.claims x hx)

theorem settleAll (h : Firsts cs bs) (hsorted : (cs ++ ds).Pairwise Binding.Precedes) :
    Firsts (cs ++ ds) (settleAll ds bs) := by
  induction ds generalizing cs bs with
  | nil => rwa [List.append_nil]
  | cons d ds ih =>
    have hlast : ∀ x ∈ cs, x.Precedes d := fun x hx =>
      (List.pairwise_append.1 hsorted).2.2 x hx d List.mem_cons_self
    have happend : cs ++ d :: ds = cs ++ [d] ++ ds := by rw [List.append_assoc]; rfl
    rw [happend] at hsorted ⊢
    exact ih (h.settle hlast) hsorted

end Firsts

/-- **Each place is held by the first who claims it.** -/
theorem firsts_settleAll {cs : List Binding} (h : cs.Pairwise Binding.Precedes) :
    Firsts cs (settleAll cs []) := Firsts.nil.settleAll h

end IngressRouting
