/-
Bindings no two of which are rivals (`Apart`), as at every place of a roster.
There a claim meets one rival at most, so it is plain what it changes: it takes
the place of a younger rival, where that stood, or comes last, and all others
stay where they are (`Apart.settle_cases`).

Claims that settle from nothing, in whatever order, leave one of the oldest for
each place and annotations (`oldest_settleAll`). Where no two rivals are of one age
there is no choice, so the order does not count but for the order of the list
(`Oldest.perm`).
-/
import IngressRouting.Proofs.Settlement
import Mathlib.Data.List.Induction
import Mathlib.Data.List.Pairwise
import Mathlib.Data.List.Perm.Basic

namespace IngressRouting

/-- No two of the bindings are rivals. -/
def Apart (bs : List Binding) : Prop := bs.Pairwise fun x y => ¬ x.Rivals y

namespace Apart

variable {b c x y : Binding} {bs cs : List Binding}

theorem eq_of_rivals (h : Apart bs) (hx : x ∈ bs) (hy : y ∈ bs) (hr : x.Rivals y) : x = y := by
  have hsymm : Std.Symm fun x y : Binding => ¬ x.Rivals y := ⟨fun _ _ hn hr => hn hr.symm⟩
  by_contra hne
  exact h.forall hx hy hne hr

theorem nodup (h : Apart bs) : bs.Nodup := by
  refine h.imp fun {x y} hn he => ?_
  subst he
  exact hn (.refl x)

/-- A claim that meets a rival takes its place if that is younger. -/
theorem settle_at {l r : List Binding} (h : Apart (l ++ x :: r)) (hr : b.Rivals x) :
    IngressRouting.settle b (l ++ x :: r) = if b.since < x.since then l ++ b :: r else l ++ x :: r := by
  obtain ⟨_, _, hcross⟩ := List.pairwise_append.1 h
  have hleft : ∀ y ∈ l, ¬ b.Rivals y := by
    intro y hy hry
    exact hcross y hy x List.mem_cons_self (hry.symm.trans hr)
  rw [settle_append hleft, IngressRouting.settle, if_pos hr]
  split <;> rfl

/-- **What a claim changes.** It is the last where it has no rival, it takes the
place of a rival that is younger, and it changes nothing otherwise. -/
theorem settle_cases (h : Apart bs) (b : Binding) :
    (settle b bs = bs ++ [b] ∧ ∀ x ∈ bs, ¬ b.Rivals x) ∨
      ∃ l d r, bs = l ++ d :: r ∧ b.Rivals d ∧ (∀ x ∈ l ++ r, ¬ b.Rivals x) ∧
        settle b bs = if b.since < d.since then l ++ b :: r else bs := by
  by_cases hrival : ∃ d ∈ bs, b.Rivals d
  · obtain ⟨d, hd, hr⟩ := hrival
    obtain ⟨l, r, rfl⟩ := List.append_of_mem hd
    have hothers : ∀ x ∈ l ++ r, ¬ b.Rivals x := by
      intro x hx hrx
      have hperm : (l ++ d :: r).Perm (d :: (l ++ r)) := List.perm_middle
      have hapart := (hperm.pairwise_iff fun {x y} hn hyx => hn hyx.symm).1 h
      exact (List.pairwise_cons.1 hapart).1 x hx (hr.symm.trans hrx)
    exact .inr ⟨l, d, r, rfl, hr, hothers, h.settle_at hr⟩
  · have hfree : ∀ x ∈ bs, ¬ b.Rivals x := fun x hx hr => hrival ⟨x, hx, hr⟩
    have hlast := settle_append hfree []
    rw [List.append_nil] at hlast
    exact .inl ⟨hlast, hfree⟩

theorem settle (h : Apart bs) (b : Binding) : Apart (settle b bs) := by
  rcases h.settle_cases b with ⟨he, hfree⟩ | ⟨l, d, r, rfl, hr, hnone, he⟩
  · rw [he]
    refine List.pairwise_append.2 ⟨h, List.pairwise_singleton _ _, fun x hx y hy hr => ?_⟩
    obtain rfl := List.mem_singleton.1 hy
    exact hfree x hx hr.symm
  · rw [he]
    split
    · obtain ⟨hl, hdr, hcross⟩ := List.pairwise_append.1 h
      obtain ⟨_, hrest⟩ := List.pairwise_cons.1 hdr
      refine List.pairwise_append.2 ⟨hl, List.pairwise_cons.2 ⟨fun x hx => ?_, hrest⟩, ?_⟩
      · exact hnone x (List.mem_append_right _ hx)
      · intro x hx y hy hxy
        rcases List.mem_cons.1 hy with rfl | hy
        · exact hnone x (List.mem_append_left _ hx) hxy.symm
        · exact hcross x hx y (List.mem_cons_of_mem _ hy) hxy
    · exact h

theorem settleAll (h : Apart bs) (cs : List Binding) : Apart (settleAll cs bs) := by
  induction cs generalizing bs with
  | nil => exact h
  | cons c cs ih => exact ih (h.settle c)

/-- Claims that are rivals of each other, and of one age, come to what the first of
them comes to. -/
theorem settleAll_even (h : Apart bs) (heven : ∀ d ∈ cs, c.Rivals d ∧ c.since = d.since) :
    IngressRouting.settleAll (c :: cs) bs = IngressRouting.settle c bs := by
  obtain ⟨x, hx, hr, hle⟩ := exists_holder c bs
  have hapart := h.settle c
  change IngressRouting.settleAll cs (IngressRouting.settle c bs) = _
  generalize IngressRouting.settle c bs = held at hx hapart ⊢
  induction cs with
  | nil => rfl
  | cons d cs ih =>
    obtain ⟨hrd, hsince⟩ := heven d List.mem_cons_self
    have hsame : IngressRouting.settle d held = held := by
      refine settle_eq_self hx (hrd.symm.trans hr) fun y hy hry => ?_
      rw [hapart.eq_of_rivals hy hx (hry.symm.trans (hrd.symm.trans hr)), ← hsince]
      exact hle
    rw [IngressRouting.settleAll, List.foldl_cons, hsame]
    exact ih fun e he => heven e (List.mem_cons_of_mem _ he)

/-- The bindings of other sources stay in order, but for a younger rival. -/
theorem withoutSource_settle (h : Apart bs) (hother : ∀ x ∈ bs, x.source ≠ b.source) :
    withoutSource b.source (IngressRouting.settle b bs) =
      bs.filter fun x => ¬ (b.Rivals x ∧ b.since < x.since) := by
  have hfree : ∀ l : List Binding, (∀ x ∈ l, ¬ b.Rivals x) →
      (l.filter fun x => ¬ (b.Rivals x ∧ b.since < x.since)) = l := fun l hl =>
    List.filter_eq_self.2 fun x hx => by simp [hl x hx]
  rcases h.settle_cases b with ⟨he, hnone⟩ | ⟨l, d, r, rfl, hr, hnone, he⟩
  · rw [he, hfree bs hnone, withoutSource_append, withoutSource_eq_self hother]
    simp [withoutSource]
  · simp only [List.forall_mem_append, List.forall_mem_cons] at hother hnone
    rw [he, List.filter_append, hfree l hnone.1, List.filter_cons, hfree r hnone.2]
    split
    · next hlt =>
      have hown : withoutSource b.source (b :: r) = r := by
        rw [withoutSource, List.filter_cons]
        simpa using hother.2.2
      rw [withoutSource_append, withoutSource_eq_self hother.1, hown]
      simp [hr, hlt]
    · next hge =>
      have hall : ∀ x ∈ l ++ d :: r, x.source ≠ b.source := by
        simpa only [List.forall_mem_append, List.forall_mem_cons] using hother
      rw [withoutSource_eq_self hall]
      simp [hge]

end Apart

/-! ## Claims in any order -/

/-- Of the claims, one of the oldest for each place and annotations. -/
structure Oldest (cs bs : List Binding) : Prop where
  claims : ∀ x ∈ bs, x ∈ cs
  apart : Apart bs
  oldest : ∀ c ∈ cs, ∃ x ∈ bs, c.Rivals x ∧ x.since ≤ c.since

namespace Oldest

variable {c x : Binding} {bs bs' cs cs' ds : List Binding}

theorem nil : Oldest [] [] := ⟨fun _ h => h, .nil, fun _ h => by cases h⟩

theorem settle (h : Oldest cs bs) (c : Binding) : Oldest (cs ++ [c]) (settle c bs) := by
  refine ⟨fun x hx => ?_, h.apart.settle c, fun d hd => ?_⟩
  · rcases mem_settle hx with rfl | hx
    · exact List.mem_append_right _ List.mem_cons_self
    · exact List.mem_append_left _ (h.claims x hx)
  · rcases List.mem_append.1 hd with hd | hd
    · obtain ⟨x, hx, hr, hle⟩ := h.oldest d hd
      rcases mem_settle_or (b := c) hx with hx | ⟨hc, hrc, hlt⟩
      · exact ⟨x, hx, hr, hle⟩
      · exact ⟨c, hc, hr.trans hrc.symm, UInt64.le_of_lt (UInt64.lt_of_lt_of_le hlt hle)⟩
    · obtain rfl := List.mem_singleton.1 hd
      exact exists_holder d bs

theorem settleAll (h : Oldest cs bs) (ds : List Binding) : Oldest (cs ++ ds) (settleAll ds bs) := by
  induction ds generalizing cs bs with
  | nil => rwa [List.append_nil]
  | cons d ds ih =>
    rw [← List.singleton_append, ← List.append_assoc]
    exact ih (h.settle d)

/-- Where rivals are of different ages, those that are left are the oldest. -/
theorem mem_iff (h : Oldest cs bs)
    (hdated : ∀ c ∈ cs, ∀ d ∈ cs, c.Rivals d → c.since = d.since → c = d) :
    x ∈ bs ↔ x ∈ cs ∧ ∀ c ∈ cs, c.Rivals x → x.since ≤ c.since := by
  constructor
  · intro hx
    refine ⟨h.claims x hx, fun c hc hr => ?_⟩
    obtain ⟨y, hy, hry, hle⟩ := h.oldest c hc
    rw [h.apart.eq_of_rivals hx hy (hr.symm.trans hry)]
    exact hle
  · rintro ⟨hx, hold⟩
    obtain ⟨y, hy, hr, hle⟩ := h.oldest x hx
    have hsince := UInt64.le_antisymm (hold y (h.claims y hy) hr.symm) hle
    rw [hdated x hx y (h.claims y hy) hr hsince]
    exact hy

/-- **The order of the claims does not count**, but for the order of the list. -/
theorem perm (h : Oldest cs bs) (h' : Oldest cs' bs') (hperm : cs.Perm cs')
    (hdated : ∀ c ∈ cs, ∀ d ∈ cs, c.Rivals d → c.since = d.since → c = d) : bs.Perm bs' := by
  refine (List.perm_ext_iff_of_nodup h.apart.nodup h'.apart.nodup).2 fun x => ?_
  have hdated' : ∀ c ∈ cs', ∀ d ∈ cs', c.Rivals d → c.since = d.since → c = d := by
    simpa only [hperm.mem_iff] using hdated
  rw [h.mem_iff hdated, h'.mem_iff hdated']
  simp only [hperm.mem_iff]

theorem settle_eq_self {d : Binding} (h : Oldest cs bs) (hd : d ∈ cs) (hr : c.Rivals d)
    (hle : d.since ≤ c.since) : IngressRouting.settle c bs = bs := by
  obtain ⟨y, hy, hry, hy'⟩ := h.oldest d hd
  refine IngressRouting.settle_eq_self hy (hr.trans hry) fun z hz hrz => ?_
  rw [h.apart.eq_of_rivals hz hy (hrz.symm.trans (hr.trans hry))]
  exact UInt64.le_trans hy' hle

end Oldest

/-- **Each place is held by one of the oldest who claim it.** -/
theorem oldest_settleAll (cs : List Binding) : Oldest cs (settleAll cs []) := Oldest.nil.settleAll cs

theorem Apart.oldest {bs : List Binding} (h : Apart bs) : Oldest bs bs :=
  ⟨fun _ hx => hx, h, fun c hc => ⟨c, hc, .refl c, UInt64.le_refl _⟩⟩

section even

variable {b c d x : Binding} {bs cs : List Binding}

/-- A claim that comes behind an even rival changes nothing. -/
theorem Apart.settleAll_late (h : Apart bs) (hd : d ∈ cs) (hr : c.Rivals d) (hle : d.since ≤ c.since) :
    IngressRouting.settleAll (cs ++ [c]) bs = IngressRouting.settleAll cs bs := by
  rw [settleAll_settleAll]
  exact (h.oldest.settleAll cs).settle_eq_self (List.mem_append_right _ hd) hr hle

/-- A claim that no other rivals comes last. -/
theorem settleAll_free (h : ∀ d ∈ cs, ¬ c.Rivals d) : settleAll (cs ++ [c]) [] = settleAll cs [] ++ [c] := by
  have hfree : ∀ y ∈ settleAll cs [], ¬ c.Rivals y := fun y hy => h y ((oldest_settleAll cs).claims y hy)
  have hlast := settle_append hfree []
  rw [List.append_nil] at hlast
  rw [settleAll_settleAll]
  exact hlast

/-- **What settles among others settles by itself**, where rival claims are of one age: of
several the first comes into force or none does. -/
theorem mem_settleAll_or (h : Apart bs) (heven : ∀ c ∈ cs, ∀ d ∈ cs, c.Rivals d → c.since = d.since)
    (hx : x ∈ settleAll cs bs) : x ∈ settleAll cs [] ∨ x ∈ bs := by
  induction cs using List.reverseRecOn generalizing x with
  | nil => exact .inr hx
  | append_singleton cs c ih =>
    have heven' : ∀ a ∈ cs, ∀ b ∈ cs, a.Rivals b → a.since = b.since := fun a ha b hb =>
      heven a (List.mem_append_left _ ha) b (List.mem_append_left _ hb)
    by_cases hrival : ∃ d ∈ cs, c.Rivals d
    · -- the earlier claim has settled the place either way
      obtain ⟨d, hd, hr⟩ := hrival
      have hle : d.since ≤ c.since :=
        UInt64.le_of_eq (heven d (by simp [hd]) c (by simp) hr.symm)
      rw [h.settleAll_late hd hr hle] at hx
      rw [Apart.settleAll_late .nil hd hr hle]
      exact ih heven' hx
    · have hfree : ∀ d ∈ cs, ¬ c.Rivals d := fun d hd hr => hrival ⟨d, hd, hr⟩
      rw [settleAll_settleAll] at hx
      rw [settleAll_free hfree]
      rcases mem_settle hx with rfl | hx
      · exact .inl (List.mem_append_right _ List.mem_cons_self)
      · exact (ih heven' hx).imp (List.mem_append_left _) id

/-- **Of rival claims of one age, the first settles.** -/
theorem mem_settleAll_iff_find? (heven : ∀ c ∈ cs, ∀ d ∈ cs, c.Rivals d → c.since = d.since) :
    b ∈ settleAll cs [] ↔ cs.find? (·.Rivals b) = some b := by
  induction cs using List.reverseRecOn with
  | nil => exact iff_of_false List.not_mem_nil fun h => by cases h
  | append_singleton cs c ih =>
    have ih := ih fun a ha b hb => heven a (List.mem_append_left _ ha) b (List.mem_append_left _ hb)
    rw [List.find?_append, Option.or_eq_some_iff, ← ih, List.find?_eq_none, List.find?_singleton]
    by_cases hrival : ∃ d ∈ cs, c.Rivals d
    · obtain ⟨d, hd, hr⟩ := hrival
      have hle : d.since ≤ c.since :=
        UInt64.le_of_eq (heven d (by simp [hd]) c (by simp) hr.symm)
      rw [Apart.settleAll_late .nil hd hr hle]
      refine ⟨.inl, fun h => h.resolve_right ?_⟩
      rintro ⟨hnone, hlast⟩
      split at hlast
      · next hcb => exact hnone d hd (decide_eq_true (hr.symm.trans (of_decide_eq_true hcb)))
      · cases hlast
    · have hfree : ∀ d ∈ cs, ¬ c.Rivals d := fun d hd hr => hrival ⟨d, hd, hr⟩
      rw [settleAll_free hfree, List.mem_append, List.mem_singleton]
      refine or_congr_right ⟨?_, ?_⟩
      · rintro rfl
        exact ⟨fun d hd hdb => hfree d hd (of_decide_eq_true hdb).symm, if_pos (decide_eq_true (.refl b))⟩
      · rintro ⟨_, hlast⟩
        split at hlast
        · exact (Option.some.inj hlast).symm
        · cases hlast

end even

end IngressRouting
