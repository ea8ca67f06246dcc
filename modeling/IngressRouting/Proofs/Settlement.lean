/-
Bindings as a plain list: what is left of the slots, lists and owners of a
roster when only the order of the bindings counts. A newcomer takes the place of
a younger rival, yields to a rival of its own age, and goes to the end where it
has no rival (`settle`).

A turn takes out the bindings of one source and puts its claims. Turns taken
over bindings in force are accepted exactly when each claim is at least as old
as every rival it meets whose source has not had its turn (`acceptsAll_iff`),
given that the same turns, oldest first, are accepted where nothing is in force.
-/
import IngressRouting.Binding
import Mathlib.Data.List.Basic

namespace IngressRouting

/-- Both are at one host and path and have the same annotations. -/
def Binding.Rivals (b c : Binding) : Prop :=
  b.host = c.host ∧ b.path = c.path ∧ b.annotations = c.annotations

instance (b c : Binding) : Decidable (b.Rivals c) := inferInstanceAs (Decidable (_ ∧ _))

namespace Binding.Rivals

variable {b c d : Binding}

theorem refl (b : Binding) : b.Rivals b := ⟨rfl, rfl, rfl⟩

theorem symm (h : b.Rivals c) : c.Rivals b := ⟨h.1.symm, h.2.1.symm, h.2.2.symm⟩

theorem trans (h : b.Rivals c) (h' : c.Rivals d) : b.Rivals d :=
  ⟨h.1.trans h'.1, h.2.1.trans h'.2.1, h.2.2.trans h'.2.2⟩

end Binding.Rivals

/-- Puts a binding: in place of a younger rival, not at all beside one as old,
and last where there is no rival. -/
def settle (b : Binding) : List Binding → List Binding
  | [] => [b]
  | x :: bs => if b.Rivals x then (if b.since < x.since then b :: bs else x :: bs) else x :: settle b bs

/-- No rival in the list is older. -/
def Admits (bs : List Binding) (b : Binding) : Prop := ∀ x ∈ bs, b.Rivals x → b.since ≤ x.since

/-- Settles claims one after the other. -/
def settleAll (cs bs : List Binding) : List Binding := cs.foldl (fun bs c => settle c bs) bs

/-- Each is admitted when its turn comes. -/
def AdmitsAll (bs : List Binding) : List Binding → Prop
  | [] => True
  | c :: cs => Admits bs c ∧ AdmitsAll (settle c bs) cs

section settle

variable {b x : Binding} {bs cs ds : List Binding}

theorem mem_settle (h : x ∈ settle b bs) : x = b ∨ x ∈ bs := by
  induction bs with
  | nil => simpa [settle] using h
  | cons y bs ih =>
    rw [settle] at h
    split at h
    · split at h
      · rcases List.mem_cons.1 h with rfl | h
        · exact .inl rfl
        · exact .inr (List.mem_cons_of_mem _ h)
      · exact .inr h
    · rcases List.mem_cons.1 h with rfl | h
      · exact .inr List.mem_cons_self
      · exact (ih h).imp id (List.mem_cons_of_mem _)

/-- Who was there is still there, or has lost its place to the newcomer. -/
theorem mem_settle_or (h : x ∈ bs) :
    x ∈ settle b bs ∨ b ∈ settle b bs ∧ b.Rivals x ∧ b.since < x.since := by
  induction bs with
  | nil => cases h
  | cons y bs ih =>
    rw [settle]
    rcases List.mem_cons.1 h with rfl | h
    · split
      · next hr =>
        split
        · next hlt => exact .inr ⟨List.mem_cons_self, hr, hlt⟩
        · exact .inl List.mem_cons_self
      · exact .inl List.mem_cons_self
    · split
      · split <;> exact .inl (List.mem_cons_of_mem _ h)
      · exact (ih h).imp (List.mem_cons_of_mem _) fun hb => ⟨List.mem_cons_of_mem _ hb.1, hb.2⟩

theorem exists_holder (b : Binding) (bs : List Binding) :
    ∃ x ∈ settle b bs, b.Rivals x ∧ x.since ≤ b.since := by
  induction bs with
  | nil => exact ⟨b, List.mem_cons_self, .refl b, UInt64.le_refl _⟩
  | cons y bs ih =>
    rw [settle]
    split
    · next hr =>
      split
      · exact ⟨b, List.mem_cons_self, .refl b, UInt64.le_refl _⟩
      · next hlt => exact ⟨y, List.mem_cons_self, hr, UInt64.not_lt.1 hlt⟩
    · obtain ⟨x, hx, hr⟩ := ih
      exact ⟨x, List.mem_cons_of_mem _ hx, hr⟩

theorem settle_append (h : ∀ x ∈ bs, ¬ b.Rivals x) (cs : List Binding) :
    settle b (bs ++ cs) = bs ++ settle b cs := by
  induction bs with
  | nil => rfl
  | cons y bs ih =>
    rw [List.cons_append, settle, if_neg (h y List.mem_cons_self)]
    rw [ih fun x hx => h x (List.mem_cons_of_mem _ hx), List.cons_append]

theorem settle_eq_self (hx : x ∈ bs) (hr : b.Rivals x)
    (h : ∀ y ∈ bs, b.Rivals y → y.since ≤ b.since) : settle b bs = bs := by
  induction bs with
  | nil => cases hx
  | cons y bs ih =>
    rw [settle]
    by_cases hy : b.Rivals y
    · have hle := h y List.mem_cons_self hy
      rw [if_pos hy, if_neg (UInt64.not_lt.2 hle)]
    · rw [if_neg hy]
      have hne : x ≠ y := fun he => hy (he ▸ hr)
      rw [ih ((List.mem_cons.1 hx).resolve_left hne) fun z hz => h z (List.mem_cons_of_mem _ hz)]

theorem settleAll_append (h : ∀ c ∈ cs, ∀ x ∈ bs, ¬ c.Rivals x) (ds : List Binding) :
    settleAll cs (bs ++ ds) = bs ++ settleAll cs ds := by
  induction cs generalizing ds with
  | nil => rfl
  | cons c cs ih =>
    rw [settleAll, List.foldl_cons, settle_append (h c List.mem_cons_self)]
    exact ih (fun c' hc' => h c' (List.mem_cons_of_mem _ hc')) _

theorem mem_settleAll (h : x ∈ settleAll cs bs) : x ∈ cs ∨ x ∈ bs := by
  induction cs generalizing bs with
  | nil => exact .inr h
  | cons c cs ih =>
    rcases ih h with h | h
    · exact .inl (List.mem_cons_of_mem _ h)
    · rcases mem_settle h with rfl | h
      · exact .inl List.mem_cons_self
      · exact .inr h

/-- Who was there is still there, or has met an older rival. -/
theorem mem_settleAll_of_mem (h : x ∈ bs) :
    x ∈ settleAll cs bs ∨ ∃ c ∈ cs, c.Rivals x ∧ c.since < x.since := by
  induction cs generalizing bs with
  | nil => exact .inl h
  | cons c cs ih =>
    rcases mem_settle_or (b := c) h with h | ⟨_, hr, hlt⟩
    · exact (ih h).imp id fun ⟨d, hd, hrival⟩ => ⟨d, List.mem_cons_of_mem _ hd, hrival⟩
    · exact .inr ⟨c, List.mem_cons_self, hr, hlt⟩

theorem settleAll_settleAll (cs ds bs : List Binding) :
    settleAll (cs ++ ds) bs = settleAll ds (settleAll cs bs) :=
  List.foldl_append

theorem admitsAll_append : AdmitsAll bs (cs ++ ds) ↔ AdmitsAll bs cs ∧ AdmitsAll (settleAll cs bs) ds := by
  induction cs generalizing bs with
  | nil => exact ⟨fun h => ⟨trivial, h⟩, fun h => h.2⟩
  | cons c cs ih => rw [List.cons_append, AdmitsAll, AdmitsAll, ih, and_assoc]; rfl

/-- Oldest first and all admitted, rivals are of equal age: those to come with
those that are there, and those to come with each other. -/
theorem even_of_admitsAll (hs : cs.Pairwise fun c d => c.since ≤ d.since)
    (hold : ∀ x ∈ bs, ∀ c ∈ cs, x.since ≤ c.since) (h : AdmitsAll bs cs) :
    (∀ c ∈ cs, ∀ x ∈ bs, c.Rivals x → c.since = x.since) ∧
      ∀ c ∈ cs, ∀ d ∈ cs, c.Rivals d → c.since = d.since := by
  induction cs generalizing bs with
  | nil => simp
  | cons c cs ih =>
    obtain ⟨hc, hcs⟩ := List.pairwise_cons.1 hs
    have hevenc : ∀ x ∈ bs, c.Rivals x → c.since = x.since := fun x hx hr =>
      UInt64.le_antisymm (h.1 x hx hr) (hold x hx c List.mem_cons_self)
    have hold' : ∀ x ∈ settle c bs, ∀ d ∈ cs, x.since ≤ d.since := fun x hx d hd => by
      rcases mem_settle hx with rfl | hx
      · exact hc d hd
      · exact hold x hx d (List.mem_cons_of_mem _ hd)
    obtain ⟨hthere, heach⟩ := ih hcs hold' h.2
    have hhead : ∀ d ∈ cs, d.Rivals c → d.since = c.since := fun d hd hr => by
      obtain ⟨y, hy, hry, hle⟩ := exists_holder c bs
      have he := hthere d hd y hy (hr.trans hry)
      exact UInt64.le_antisymm (he ▸ hle) (hc d hd)
    refine ⟨fun d hd x hx hr => ?_, fun d hd e he hr => ?_⟩
    · rcases List.mem_cons.1 hd with rfl | hd
      · exact hevenc x hx hr
      · rcases mem_settle_or (b := c) hx with hx | ⟨_, hrx, hlt⟩
        · exact hthere d hd x hx hr
        · rw [hevenc x hx hrx] at hlt
          exact absurd hlt (UInt64.lt_irrefl _)
    · rcases List.mem_cons.1 hd with rfl | hdm <;> rcases List.mem_cons.1 he with rfl | hem
      · rfl
      · exact (hhead e hem hr.symm).symm
      · exact hhead d hdm hr
      · exact heach d hdm e hem hr

end settle

/-! ## Turns -/

/-- What a source asks for, in order. -/
structure Turn where
  source : String
  claims : List Binding

/-- Without the bindings of a source. -/
def withoutSource (source : String) (bs : List Binding) : List Binding :=
  bs.filter (·.source ≠ source)

/-- Takes a turn: the claims of its source replace the bindings it had. -/
def renew (bs : List Binding) (t : Turn) : List Binding :=
  settleAll t.claims (withoutSource t.source bs)

/-- Takes turns one after the other. -/
def replay (bs : List Binding) (ts : List Turn) : List Binding := ts.foldl renew bs

/-- Every claim is admitted when its turn comes. -/
def AcceptsAll (bs : List Binding) : List Turn → Prop
  | [] => True
  | t :: ts => AdmitsAll (withoutSource t.source bs) t.claims ∧ AcceptsAll (renew bs t) ts

/-- What stays once the turns are taken and every other source is taken out. -/
def settled (bs : List Binding) (ts : List Turn) : List Binding :=
  (replay bs ts).filter fun b => b.source ∈ ts.map Turn.source

/-- Each claim stands in a relation to the rivals it meets among the bindings
whose source has not had its turn. -/
def Meets (R : Binding → Binding → Prop) (bs : List Binding) : List Turn → Prop
  | [] => True
  | t :: ts =>
    (∀ c ∈ t.claims, ∀ x ∈ withoutSource t.source bs, c.Rivals x → R c x) ∧
      Meets R (withoutSource t.source bs) ts

/-- Turns of different sources, oldest first. -/
structure Orderly (ts : List Turn) : Prop where
  own : ∀ t ∈ ts, ∀ c ∈ t.claims, c.source = t.source
  once : ts.Pairwise fun t u => t.source ≠ u.source
  aging : (ts.flatMap Turn.claims).Pairwise fun c d => c.since ≤ d.since

section turns

variable {t : Turn} {ts : List Turn} {x : Binding} {old done cur bs cs : List Binding}

theorem mem_withoutSource {source : String} :
    x ∈ withoutSource source bs ↔ x ∈ bs ∧ x.source ≠ source := by
  simp [withoutSource]

theorem withoutSource_append (source : String) (bs cs : List Binding) :
    withoutSource source (bs ++ cs) = withoutSource source bs ++ withoutSource source cs :=
  List.filter_append ..

theorem withoutSource_eq_self {source : String} (h : ∀ x ∈ bs, x.source ≠ source) :
    withoutSource source bs = bs := by
  refine List.filter_eq_self.2 fun x hx => ?_
  simpa using h x hx

theorem mem_renew (h : x ∈ renew bs t) : x ∈ t.claims ∨ x ∈ bs ∧ x.source ≠ t.source :=
  (mem_settleAll h).imp id mem_withoutSource.1

theorem mem_replay (h : x ∈ replay bs ts) : (∃ t ∈ ts, x ∈ t.claims) ∨ x ∈ bs := by
  induction ts generalizing bs with
  | nil => exact .inr h
  | cons t ts ih =>
    rcases ih h with ⟨u, hu, hx⟩ | hx
    · exact .inl ⟨u, List.mem_cons_of_mem _ hu, hx⟩
    · rcases mem_renew hx with hx | ⟨hx, _⟩
      · exact .inl ⟨t, List.mem_cons_self, hx⟩
      · exact .inr hx

theorem Orderly.tail (h : Orderly (t :: ts)) : Orderly ts where
  own u hu := h.own u (List.mem_cons_of_mem _ hu)
  once := (List.pairwise_cons.1 h.once).2
  aging := by
    have ha := h.aging
    rw [List.flatMap_cons, List.pairwise_append] at ha
    exact ha.2.1

/-- What was in force (`old`, less what turns have taken out) and the claims of
the turns so far (`done`), as they are found in the list at present. -/
structure Traces (old done cur : List Binding) : Prop where
  origin : ∀ y ∈ cur, y ∈ old ∨ y ∈ done
  /-- What was in force is there, or one of the claims has taken its place. -/
  kept : ∀ x ∈ old, ∃ y ∈ cur, y.Rivals x ∧ y.since ≤ x.since ∧ (y = x ∨ y ∈ done)

theorem traces_refl (bs : List Binding) : Traces bs [] bs where
  origin _ hy := .inl hy
  kept x hx := ⟨x, hx, .refl x, UInt64.le_refl _, .inl rfl⟩

theorem Traces.settle (h : Traces old done cur) (b : Binding) :
    Traces old (done ++ [b]) (settle b cur) where
  origin y hy := by
    rcases mem_settle hy with rfl | hy
    · exact .inr (by simp)
    · exact (h.origin y hy).imp id (List.mem_append_left _)
  kept x hx := by
    obtain ⟨y, hy, hr, hle, hdone⟩ := h.kept x hx
    rcases mem_settle_or (b := b) hy with hy | ⟨hb, hrb, hlt⟩
    · exact ⟨y, hy, hr, hle, hdone.imp id (List.mem_append_left _)⟩
    · exact ⟨b, hb, hrb.trans hr, UInt64.le_of_lt (UInt64.lt_of_lt_of_le hlt hle), .inr (by simp)⟩

theorem Traces.settleAll (h : Traces old done cur) (cs : List Binding) :
    Traces old (done ++ cs) (settleAll cs cur) := by
  induction cs generalizing done cur with
  | nil => rwa [List.append_nil]
  | cons c cs ih =>
    rw [← List.singleton_append, ← List.append_assoc]
    exact ih (h.settle c)

/-- Claims are of other sources than the one taken out. -/
theorem Traces.withoutSource (h : Traces old done cur) {source : String}
    (hne : ∀ d ∈ done, d.source ≠ source) :
    Traces (withoutSource source old) done (withoutSource source cur) where
  origin y hy := by
    rw [mem_withoutSource] at hy
    rcases h.origin y hy.1 with ho | hd
    · exact .inl (mem_withoutSource.2 ⟨ho, hy.2⟩)
    · exact .inr hd
  kept x hx := by
    rw [mem_withoutSource] at hx
    obtain ⟨y, hy, hr, hle, hdone⟩ := h.kept x hx.1
    refine ⟨y, mem_withoutSource.2 ⟨hy, ?_⟩, hr, hle, hdone⟩
    rcases hdone with rfl | hd
    · exact hx.2
    · exact hne y hd

/-- Claims that are even with those before them are admitted exactly when no
rival left over from before is older. -/
theorem Traces.admitsAll_iff (h : Traces old done cur) (cs : List Binding)
    (heven : ∀ c ∈ done ++ cs, ∀ d ∈ done ++ cs, c.Rivals d → c.since = d.since) :
    AdmitsAll cur cs ↔ ∀ c ∈ cs, ∀ x ∈ old, c.Rivals x → c.since ≤ x.since := by
  induction cs generalizing done cur with
  | nil => simp [AdmitsAll]
  | cons c cs ih =>
    have hfirst : Admits cur c ↔ ∀ x ∈ old, c.Rivals x → c.since ≤ x.since := by
      constructor
      · intro hc x hx hr
        obtain ⟨y, hy, hry, hle, _⟩ := h.kept x hx
        exact UInt64.le_trans (hc y hy (hr.trans hry.symm)) hle
      · intro hc y hy hr
        rcases h.origin y hy with ho | hd
        · exact hc y ho hr
        · have he := heven c (by simp) y (List.mem_append_left _ hd) hr
          exact he ▸ UInt64.le_refl _
    rw [AdmitsAll, hfirst, ih (h.settle c) (by simpa using heven), List.forall_mem_cons]

/-- The induction is over the turns still to come. -/
theorem Traces.acceptsAll_iff (h : Traces old done cur) (ho : Orderly ts)
    (hne : ∀ d ∈ done, ∀ t ∈ ts, d.source ≠ t.source)
    (heven : ∀ c ∈ done ++ ts.flatMap Turn.claims, ∀ d ∈ done ++ ts.flatMap Turn.claims,
      c.Rivals d → c.since = d.since) :
    AcceptsAll cur ts ↔ Meets (fun c x => c.since ≤ x.since) old ts := by
  induction ts generalizing old done cur with
  | nil => simp [AcceptsAll, Meets]
  | cons t ts ih =>
    have hout := h.withoutSource fun d hd => hne d hd t List.mem_cons_self
    have hmem : ∀ c ∈ done ++ t.claims, c ∈ done ++ (t :: ts).flatMap Turn.claims := fun c hc => by
      rw [List.flatMap_cons, ← List.append_assoc]
      exact List.mem_append_left _ hc
    have hclaims := hout.admitsAll_iff t.claims fun c hc d hd => heven c (hmem c hc) d (hmem d hd)
    rw [AcceptsAll, Meets, hclaims]
    refine and_congr_right fun _ => ih (hout.settleAll t.claims) ho.tail ?_ ?_
    · intro d hd u hu
      rcases List.mem_append.1 hd with hd | hd
      · exact hne d hd u (List.mem_cons_of_mem _ hu)
      · rw [ho.own t List.mem_cons_self d hd]
        exact (List.pairwise_cons.1 ho.once).1 u hu
    · simpa [List.flatMap_cons] using heven

theorem acceptsAll_flat (ho : Orderly ts) (hne : ∀ x ∈ bs, ∀ t ∈ ts, x.source ≠ t.source) :
    AcceptsAll bs ts ↔ AdmitsAll bs (ts.flatMap Turn.claims) := by
  induction ts generalizing bs with
  | nil => simp [AcceptsAll, AdmitsAll]
  | cons t ts ih =>
    have hsame : withoutSource t.source bs = bs :=
      withoutSource_eq_self fun x hx => hne x hx t List.mem_cons_self
    rw [AcceptsAll, List.flatMap_cons, admitsAll_append, renew, hsame]
    refine and_congr_right fun _ => ih ho.tail fun x hx u hu => ?_
    rcases mem_settleAll hx with hx | hx
    · rw [ho.own t List.mem_cons_self x hx]
      exact (List.pairwise_cons.1 ho.once).1 u hu
    · exact hne x hx u (List.mem_cons_of_mem _ hu)

/-- **When turns are accepted.** Turns that are accepted where nothing is in
force are accepted over bindings in force exactly when no claim meets an older
rival of a source whose turn is still to come or that has none. -/
theorem acceptsAll_iff (ho : Orderly ts) (hfresh : AcceptsAll [] ts) (bs : List Binding) :
    AcceptsAll bs ts ↔ Meets (fun c x => c.since ≤ x.since) bs ts := by
  rw [acceptsAll_flat ho (by simp)] at hfresh
  have heven := (even_of_admitsAll ho.aging (by simp) hfresh).2
  exact (traces_refl bs).acceptsAll_iff ho (by simp) (by simpa using heven)

/-- Where no claim meets a rival left over from before, the claims end up as
they do where nothing is in force, behind what is left over. -/
theorem replay_append (h : Meets (fun _ _ => False) old ts) (new : List Binding) :
    replay (old ++ new) ts = old.filter (fun x => x.source ∉ ts.map Turn.source) ++ replay new ts := by
  induction ts generalizing old new with
  | nil => simp [replay]
  | cons t ts ih =>
    have hstep : renew (old ++ new) t = withoutSource t.source old ++ renew new t := by
      rw [renew, withoutSource_append]
      exact settleAll_append (fun c hc x hx hr => h.1 c hc x hx hr) _
    rw [replay, List.foldl_cons, hstep]
    refine (ih h.2 _).trans ?_
    rw [replay, replay, List.foldl_cons, withoutSource, List.filter_filter]
    congr 2
    funext x
    simp only [List.map_cons, List.mem_cons, not_or, Bool.decide_and, ne_eq, Bool.and_comm]

/-- **Turns settle as from nothing** where no claim meets a rival of a source
whose turn is still to come or that has none. -/
theorem settled_eq (h : Meets (fun _ _ => False) bs ts) : settled bs ts = settled [] ts := by
  have hr := replay_append h []
  rw [List.append_nil] at hr
  rw [settled, hr, List.filter_append, List.filter_filter, settled]
  have hnone : bs.filter (fun x => decide (x.source ∈ ts.map Turn.source) &&
      decide (x.source ∉ ts.map Turn.source)) = [] := by simp
  rw [hnone, List.nil_append]

end turns

end IngressRouting
