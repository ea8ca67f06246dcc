/-
What an accepted object changes at a host and path of the route rulebook, and what it
leaves alone (`Reachable.upsert_framed`).

Its rules for one place are rivals of each other and as old as the object, so the
first of them decides: the others find their place held (`Apart.settleAll_even`). What
is left to say is what one claim does to bindings that are no rivals of each other.
-/
import IngressRouting.Proofs.Gateway.Demands
import IngressRouting.Proofs.Holders

namespace IngressRouting

variable {o : IngressObject} {host path : String} {bs cs : List Binding}

/-- At one host and path no two bindings are rivals. -/
theorem Roster.Sound.apart_listing {r : Roster} (h : r.Sound) (host path : String) :
    Apart (r.listing host path) := by
  have hn : (r.listing host path).Nodup := by
    rw [Roster.listing_eq]
    exact h.nodup_filterMap (h.listed_once host path)
  refine hn.imp_of_mem fun {x y} hx hy hne hr => hne ?_
  obtain ⟨⟨s, hs⟩, _⟩ := h.mem_listing.1 hx
  obtain ⟨⟨t, ht⟩, _⟩ := h.mem_listing.1 hy
  have hslot := h.distinct s t x y hs ht hr.1 hr.2.1 hr.2.2
  subst hslot
  simpa [hs] using ht

theorem Roster.Lists.apart {r : Roster} (hl : r.Lists bs) (h : r.Sound) : Apart bs := by
  refine List.pairwise_iff_forall_sublist.2 fun {x y} hsub hr => ?_
  have hplace : [x, y].filter (·.isAt x.host x.path) = [x, y] := by
    simp [Binding.isAt, hr.1, hr.2.1]
  have hlisted := hsub.filter (·.isAt x.host x.path)
  rw [hplace, ← hl] at hlisted
  have hapart := (h.apart_listing x.host x.path).sublist hlisted
  exact (List.pairwise_cons.1 hapart).1 y List.mem_cons_self hr

theorem Gateway.Books.Lists.apart {b : Books} {L : Standing} (h : b.Lists L) (kind : TableKind) :
    Apart (L kind) := by
  cases kind with
  | route => exact h.route.lists.apart h.route.sound.roster
  | redirect =>
    cases hk : b.redirect with
    | none =>
      rw [h.absent hk]
      exact .nil
    | some k => exact (h.redirect k hk).lists.apart (h.redirect k hk).sound.roster

namespace IngressObject

/-- One of the object's rules comes to the binding, in the route rulebook. -/
def Brings (o : IngressObject) (c : Binding) : Prop :=
  ∃ rs, o.pathRules = .ok rs ∧
    ∃ r ∈ rs, c = ⟨o.key, r.host, r.path, o.rules, o.created, .forward r.target⟩

instance (o : IngressObject) (host path : String) : Decidable (o.AsksFor host path) :=
  match hrules : o.pathRules with
  | .ok rs => decidable_of_iff (∃ r ∈ rs, r.host = host ∧ r.path = path) (by simp [AsksFor, hrules])
  | .error _ => .isFalse (by simp [AsksFor, hrules])

/-- The object asks for the place of the binding with the same annotations, and is older. -/
def Supplants (o : IngressObject) (d : Binding) : Prop :=
  o.AsksFor d.host d.path ∧ d.annotations = o.rules ∧ o.created < d.since

instance (o : IngressObject) (d : Binding) : Decidable (o.Supplants d) :=
  inferInstanceAs (Decidable (_ ∧ _))

end IngressObject

/-- What an accepted object changes at a host and path: the bindings before, and the
bindings after. -/
structure Framed (o : IngressObject) (host path : String) (before after : List Binding) : Prop where
  /-- The bindings of other sources stay, in their order, but for those that are
  supplanted; none is added. -/
  others : withoutSource o.key after = (withoutSource o.key before).filter fun d => ¬ o.Supplants d
  /-- What is supplanted makes way for a binding of the object, at its very place. -/
  succeeds : ∀ l d r, withoutSource o.key before = l ++ d :: r → o.Supplants d →
    ∃ c, o.Brings c ∧ after = l ++ c :: r
  /-- What the object's source has now, the object asks for. -/
  own : ∀ c ∈ after, c.source = o.key → o.Brings c
  /-- What the object asks for is held, by a binding as old as the object. -/
  held : o.AsksFor host path → ∃ c ∈ after, c.annotations = o.rules ∧ c.since = o.created

namespace Gateway

variable {enabled : Bool} {g : Gateway} {c : Binding}

theorem brings_of_mem_turn (h : c ∈ (turn enabled o .route).claims) : o.Brings c := by
  obtain ⟨p, hp, _, r, hr, hb⟩ := mem_turn_iff.1 h
  have hplanned := planned hp
  exact ⟨p.rules, hplanned.rules, r, hr, hplanned.binding_route hr hb⟩

/-- The claims of an object at a host and path. -/
def claimsAt (enabled : Bool) (o : IngressObject) (host path : String) : List Binding :=
  (turn enabled o .route).claims.filter (·.isAt host path)

theorem mem_claimsAt (h : c ∈ claimsAt enabled o host path) :
    c ∈ (turn enabled o .route).claims ∧ c.host = host ∧ c.path = path := by
  obtain ⟨hm, hat⟩ := List.mem_filter.1 h
  exact ⟨hm, Binding.isAt_iff.1 hat⟩

/-- Claims of an object at one place are rivals, and of one age. -/
theorem claimsAt_even {d : Binding} (hc : c ∈ claimsAt enabled o host path)
    (hd : d ∈ claimsAt enabled o host path) : c.Rivals d ∧ c.since = d.since := by
  obtain ⟨hmc, hhost, hpath⟩ := mem_claimsAt hc
  obtain ⟨hmd, hhost', hpath'⟩ := mem_claimsAt hd
  have hsame := (asksFor_of_mem_turn hmc).2.1.trans (asksFor_of_mem_turn hmd).2.1.symm
  have hsince := (mem_turn hmc).2.trans (mem_turn hmd).2.symm
  exact ⟨⟨hhost.trans hhost'.symm, hpath.trans hpath'.symm, hsame⟩, hsince⟩

/-- What an object supplants at a place are the younger rivals of its claims there. -/
theorem supplants_iff (hc : c ∈ claimsAt enabled o host path) {x : Binding}
    (hx : x.host = host ∧ x.path = path) : o.Supplants x ↔ c.Rivals x ∧ c.since < x.since := by
  obtain ⟨hm, hhost, hpath⟩ := mem_claimsAt hc
  obtain ⟨hasks, hannotations, _⟩ := asksFor_of_mem_turn hm
  unfold IngressObject.Supplants Binding.Rivals
  rw [(mem_turn hm).2, hannotations, hx.1, hx.2]
  rw [hhost, hpath] at hasks
  simp [hasks, hhost, hpath, eq_comm]

section Framed

variable {before : List Binding}

/-- Where an object does not ask, only what its source had goes. -/
theorem framed_of_not_asks (hplace : ∀ x ∈ before, x.host = host ∧ x.path = path)
    (hnot : ¬ o.AsksFor host path) : Framed o host path before (withoutSource o.key before) := by
  have hother : ∀ x ∈ withoutSource o.key before, x.source ≠ o.key := fun x hx =>
    (mem_withoutSource.1 hx).2
  have hnone : ∀ x ∈ withoutSource o.key before, ¬ o.Supplants x := by
    intro x hx hs
    obtain ⟨hhost, hpath⟩ := hplace x (mem_withoutSource.1 hx).1
    exact hnot (hhost ▸ hpath ▸ hs.1)
  refine ⟨?_, fun l d r he hs => ?_, fun c hc hs => absurd hs (hother c hc), fun ha => absurd ha hnot⟩
  · rw [withoutSource_eq_self hother]
    exact (List.filter_eq_self.2 fun x hx => by simpa using hnone x hx).symm
  · have hd : d ∈ withoutSource o.key before := by simp [he]
    exact absurd hs (hnone d hd)

/-- Where it asks and is admitted, one of its claims settles among the others. -/
theorem framed_of_claim (hplace : ∀ x ∈ before, x.host = host ∧ x.path = path) (hapart : Apart before)
    (hc : c ∈ claimsAt enabled o host path) (hadmits : Admits (withoutSource o.key before) c) :
    Framed o host path before (settle c (withoutSource o.key before)) := by
  obtain ⟨hm, _, _⟩ := mem_claimsAt hc
  obtain ⟨hsource, hsince⟩ := mem_turn hm
  have hleft : Apart (withoutSource o.key before) := hapart.sublist List.filter_sublist
  have hother : ∀ x ∈ withoutSource o.key before, x.source ≠ c.source := by
    intro x hx
    rw [hsource]
    exact (mem_withoutSource.1 hx).2
  have hsupplants : ∀ x ∈ withoutSource o.key before,
      o.Supplants x ↔ c.Rivals x ∧ c.since < x.since := fun x hx =>
    supplants_iff hc (hplace x (mem_withoutSource.1 hx).1)
  refine ⟨?_, fun l d r he hs => ⟨c, brings_of_mem_turn hm, ?_⟩, fun d hd hs => ?_, fun _ => ?_⟩
  · have hkept := hleft.withoutSource_settle hother
    rw [hsource] at hkept
    rw [hkept]
    exact List.filter_congr fun x hx => by simp only [hsupplants x hx]
  · have hd : d ∈ withoutSource o.key before := by simp [he]
    obtain ⟨hr, hlt⟩ := (hsupplants d hd).1 hs
    rw [he] at hleft ⊢
    rw [hleft.settle_at hr, if_pos hlt]
  · rcases mem_settle hd with rfl | hd
    · exact brings_of_mem_turn hm
    · exact absurd hs (mem_withoutSource.1 hd).2
  · obtain ⟨x, hx, hr, hle⟩ := exists_holder c (withoutSource o.key before)
    have hge : c.since ≤ x.since := by
      rcases mem_settle hx with rfl | hx
      · exact UInt64.le_refl _
      · exact hadmits x hx hr
    exact ⟨x, hx, hr.2.2.symm.trans (asksFor_of_mem_turn hm).2.1,
      (UInt64.le_antisymm hle hge).trans hsince⟩

/-- All the claims of a valid object at a place come to what the first of them comes to. -/
theorem framed_settleAll (hplace : ∀ x ∈ before, x.host = host ∧ x.path = path) (hapart : Apart before)
    (hvalid : Valid enabled o)
    (hadmits : ∀ c ∈ claimsAt enabled o host path, Admits (withoutSource o.key before) c) :
    Framed o host path before
      (settleAll (claimsAt enabled o host path) (withoutSource o.key before)) := by
  cases hcs : claimsAt enabled o host path with
  | nil =>
    refine framed_of_not_asks hplace fun hasks => ?_
    have henters : Enters enabled o.rules .route = true := rfl
    obtain ⟨c, hc, hat⟩ := hvalid.exists_claim henters hasks
    have hm : c ∈ claimsAt enabled o host path :=
      List.mem_filter.2 ⟨hc, Binding.isAt_iff.2 ⟨hat.1, hat.2.1⟩⟩
    simp [hcs] at hm
  | cons c cs =>
    have hc : c ∈ claimsAt enabled o host path := by simp [hcs]
    have heven : ∀ d ∈ cs, c.Rivals d ∧ c.since = d.since := by
      intro d hd
      exact claimsAt_even hc (by simp [hcs, hd])
    have hleft : Apart (withoutSource o.key before) := hapart.sublist List.filter_sublist
    rw [hleft.settleAll_even heven]
    exact framed_of_claim hplace hapart hc (hadmits c hc)

end Framed

/-- **An accepted object touches others only as the oldest wins.** After any run, at any host
and path of the route rulebook: what another source has there stays, in its order, unless
the object asks for the place with the same annotations and is older, and then a binding of
the object stands in its place. Nothing that the object no longer asks for is left, and
what it asks for is held by a binding of its own age. -/
theorem Reachable.upsert_framed (h : Reachable enabled g) (hok : (g.upsert o).answer = .ok ())
    (host path : String) :
    Framed o host path (g.route.roster.listing host path)
      ((g.upsert o).state.route.roster.listing host path) := by
  have hlists := h.registered.lists
  obtain ⟨haccepted, hrenewed⟩ := upsert_isOk hlists o
  have hisOk : (g.upsert o).answer.isOk = true := by simp [hok, Except.isOk, Except.toBool]
  obtain ⟨hvalid, hadmitsAll⟩ := haccepted.1 hisOk
  have hsound : g.route.roster.Sound := hlists.route.sound.roster
  have hbefore : g.route.roster.listing host path = (g.inForce .route).filter (·.isAt host path) :=
    hlists.route.lists host path
  have hafter : (g.upsert o).state.route.roster.listing host path =
      (settleAll (turn g.redirectEnabled o .route).claims
        (withoutSource o.key (g.inForce .route))).filter (·.isAt host path) :=
    (hrenewed hisOk).lists.route.lists host path
  rw [filter_settleAll, filter_withoutSource, ← hbefore] at hafter
  rw [hafter]
  refine framed_settleAll (fun x hx => (hsound.mem_listing.1 hx).2) (hsound.apart_listing host path)
    hvalid fun c hc x hx hr => ?_
  have hx' : x ∈ withoutSource o.key (g.inForce .route) := by
    rw [hbefore, ← filter_withoutSource] at hx
    exact (List.mem_filter.1 hx).1
  exact (admitsAll_turn _).1 (hadmitsAll .route) c (mem_claimsAt hc).1 x hx' hr

/-- An older object takes a place over. -/
theorem upsert_framed_older :
    let g := ((Gateway.empty true).upsert (plainObject "b" 5)).state
    let after := (g.upsert (plainObject "a" 1)).state
    (g.upsert (plainObject "a" 1)).answer = .ok () ∧
      (g.route.roster.listing "example.com" "/foo").map (·.source) = ["ns/b"] ∧
      (after.route.roster.listing "example.com" "/foo").map (·.source) = ["ns/a"] ∧
      Framed (plainObject "a" 1) "example.com" "/foo" (g.route.roster.listing "example.com" "/foo")
        (after.route.roster.listing "example.com" "/foo") := by
  have hok : (((Gateway.empty true).upsert (plainObject "b" 5)).state.upsert (plainObject "a" 1)).answer =
      .ok () := by decide +kernel
  have hbefore : (((Gateway.empty true).upsert (plainObject "b" 5)).state.route.roster.listing
      "example.com" "/foo").map (·.source) = ["ns/b"] := by decide +kernel
  have hafter : ((((Gateway.empty true).upsert (plainObject "b" 5)).state.upsert
      (plainObject "a" 1)).state.route.roster.listing "example.com" "/foo").map (·.source) = ["ns/a"] := by
    decide +kernel
  exact ⟨hok, hbefore, hafter, Reachable.upsert_framed (.upsert .empty _) hok _ _⟩

end Gateway

end IngressRouting
