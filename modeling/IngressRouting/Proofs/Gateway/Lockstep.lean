/-
The redirect rulebook follows the route rulebook. At each host and path it holds,
in order, what the other holds of bindings whose annotations ask for a redirect
(`Reachable.lockstep`).

What a plan claims in the one book echoes what it claims in the other
(`Plan.claims_echo`), and echoes settle together, so the bindings in force stay
`Paired`. Hence a claim that the route rulebook admits meets no conflict in the
redirect rulebook (`Books.Lists.redirect_ne_conflict`).
-/
import IngressRouting.Proofs.Gateway.Batches
import IngressRouting.Proofs.Redirection
import IngressRouting.Proofs.Rulebook.Accounting

namespace IngressRouting

/-! ## Plans -/

theorem Rulebook.effect_ne_conflict {kind : TableKind} {a : Annotations} {target : String} (c : Conflict) :
    effect kind a target ≠ .error (.conflict c) := by
  intro h
  cases kind with
  | route => cases h
  | redirect =>
    rw [effect] at h
    split at h
    · next hred =>
      cases h
      exact Annotations.redirect_ne_conflict c hred
    · cases h
    · cases h

namespace Plan

variable {p : Plan} {r : PathRule} {rs : List PathRule} {kind : TableKind} {b c : Binding}

/-- **The bindings of one rule in both rulebooks echo each other.** -/
theorem echoes_of_binding (hb : p.binding .route r = .ok b) (hc : p.binding .redirect r = .ok c) :
    b.Echoes c := by
  obtain ⟨_, heffect, hb⟩ := bind_eq_ok.1 hb
  obtain ⟨_, heffect', hc⟩ := bind_eq_ok.1 hc
  obtain ⟨rfl, _⟩ := Rulebook.check_eq_ok_iff.1 (mapError_eq_ok.1 hb)
  obtain ⟨rfl, _⟩ := Rulebook.check_eq_ok_iff.1 (mapError_eq_ok.1 hc)
  cases heffect
  rw [Rulebook.effect] at heffect'
  split at heffect'
  · cases heffect'
  · cases heffect'
  · next red hred =>
    cases heffect'
    rw [Binding.kept, Binding.kept]
    split <;> exact ⟨rfl, rfl, rfl, rfl, rfl, red, hred, rfl⟩

/-- What is wrong with a rule by itself is no conflict. -/
theorem binding_ne_conflict (p : Plan) (r : PathRule) (kind : TableKind) (e : Conflict) :
    p.binding kind r ≠ .error (.conflict e) := by
  intro h
  rw [binding] at h
  cases he : Rulebook.effect kind p.annotations r.target with
  | error f =>
    rw [he] at h
    cases h
    exact Rulebook.effect_ne_conflict e he
  | ok effect =>
    rw [he] at h
    simp only [Bind.bind, Except.bind] at h
    cases hc : Rulebook.check kind ⟨p.source, r.host, r.path, p.annotations, p.since, effect⟩ with
    | error f => rw [hc] at h; cases h
    | ok _ => rw [hc] at h; cases h

/-- What a rule claims in both rulebooks, where nothing is wrong with it. -/
theorem claims_echo_single (hp : p.redirected = p.annotations.asksRedirect)
    (hvalid : ∀ kind, p.Valid [r] kind) :
    p.claims [r] .redirect = echoes (p.claims [r] .route) ∧ Heeded (p.claims [r] .route) := by
  obtain ⟨b, hb⟩ := hvalid .route rfl r List.mem_cons_self
  have hroute : p.claims [r] .route = [b] := by simp [claims, asks, hb, Except.toOption]
  have hasks : b.annotations.asksRedirect = p.redirected := by
    rw [(Rulebook.binding_eq_ok hb).2.2, hp]
  rw [hroute, Heeded, List.forall_mem_singleton, hasks]
  cases hred : p.redirected with
  | false =>
    have hredirect : p.claims [r] .redirect = [] := by simp [claims, asks, hred]
    have hnot : ¬ ∃ c, b.Echoes c := by
      rintro ⟨c, hc⟩
      have ha := hc.asksRedirect
      rw [hasks, hred] at ha
      cases ha
    exact ⟨by rw [hredirect, echoes_cons_of_not hnot]; rfl, fun hn => by cases hn⟩
  | true =>
    obtain ⟨c, hc⟩ := hvalid .redirect hred r List.mem_cons_self
    have hredirect : p.claims [r] .redirect = [c] := by simp [claims, asks, hred, hc, Except.toOption]
    have hecho := echoes_of_binding hb hc
    exact ⟨by rw [hredirect, hecho.cons]; rfl, fun _ => ⟨c, hecho⟩⟩

/-- **What a plan claims in the redirect rulebook is the echo of what it claims in
the other.** -/
theorem claims_echo (hp : p.redirected = p.annotations.asksRedirect)
    (hvalid : ∀ kind, p.Valid rs kind) :
    p.claims rs .redirect = echoes (p.claims rs .route) ∧ Heeded (p.claims rs .route) := by
  induction rs with
  | nil => exact ⟨by simp [claims, echoes], fun b hb => by simp [claims] at hb⟩
  | cons r rs ih =>
    obtain ⟨hfirst, hheeded⟩ := claims_echo_single hp fun kind => (valid_cons.1 (hvalid kind)).1
    obtain ⟨hrest, hheeded'⟩ := ih fun kind => (valid_cons.1 (hvalid kind)).2
    have hcons : ∀ kind, p.claims (r :: rs) kind = p.claims [r] kind ++ p.claims rs kind :=
      fun _ => claims_cons
    rw [hcons, hcons, hfirst, hrest]
    exact ⟨List.filterMap_append.symm, List.forall_mem_append.2 ⟨hheeded, hheeded'⟩⟩

end Plan

namespace Gateway

variable {g : Gateway} {o : IngressObject} {L : Standing}

/-! ## The invariant -/

/-- The bindings in force in the redirect rulebook are the echoes of the others. -/
structure Paired (L : Standing) : Prop where
  echo : L .redirect = echoes (L .route)
  heeded : Heeded (L .route)

theorem paired_empty : Paired fun _ => [] := ⟨rfl, fun b hb => by cases hb⟩

theorem Paired.withoutSource (h : Paired L) (source : String) :
    Paired fun kind => withoutSource source (L kind) where
  echo := by rw [h.echo, echoes_withoutSource]
  heeded b hb := h.heeded b (mem_withoutSource.1 hb).1

theorem Paired.settleAll (h : Paired L) {cs : Standing} (hc : Paired cs) :
    Paired fun kind => settleAll (cs kind) (L kind) where
  echo := by rw [h.echo, hc.echo, echoes_settleAll]
  heeded b hb := (mem_settleAll hb).elim (hc.heeded b) (h.heeded b)

theorem plan_redirected {p : Plan} (h : plan true o = .ok p) :
    p.redirected = p.annotations.asksRedirect := by
  have hp := planned h
  obtain ⟨command, hcommand, hred⟩ := map_eq_ok.1 hp.redirected
  rw [← hred, hp.annotations]
  exact Annotations.isSome_redirectCommand hcommand

theorem claims_paired {p : Plan} {rs : List PathRule} (hp : plan true o = .ok p)
    (hvalid : ∀ kind, p.Valid rs kind) : Paired (p.claims rs) :=
  ⟨(p.claims_echo (plan_redirected hp) hvalid).1, (p.claims_echo (plan_redirected hp) hvalid).2⟩

/-- The books are in step with each other. -/
structure Coupled (g : Gateway) : Prop where
  enabled : g.redirectEnabled = true
  lists : ∃ L, g.books.Lists L ∧ Paired L

theorem coupled_empty : (Gateway.empty true).Coupled :=
  ⟨rfl, _, (registered_empty true).lists, paired_empty⟩

theorem Coupled.upsert (h : g.Coupled) (hs : g.Settled) (o : IngressObject) :
    (g.upsert o).state.Coupled := by
  cases he : (g.upsert o).answer with
  | error e => rw [hs.upsert_refused he]; exact h
  | ok _ =>
    obtain ⟨L, hl, hpaired⟩ := h.lists
    obtain ⟨hok, hnew⟩ := upsert_isOk hl o
    have hanswer : (g.upsert o).answer.isOk = true := by rw [he]; rfl
    obtain ⟨⟨p, hp, hvalid⟩, _⟩ := hok.1 hanswer
    have hrenewed := hnew hanswer
    refine ⟨hrenewed.enabled.trans h.enabled, _, hrenewed.lists, ?_⟩
    have hclaims : Paired fun kind => (turn g.redirectEnabled o kind).claims := by
      simp only [turn, hp]
      exact claims_paired (h.enabled ▸ hp) hvalid
    exact (hpaired.withoutSource o.key).settleAll hclaims

theorem Coupled.delete (h : g.Coupled) (namespaceName name : String) :
    (g.delete namespaceName name).state.Coupled := by
  obtain ⟨L, hl, hpaired⟩ := h.lists
  obtain ⟨_, henabled, hlists, _⟩ := delete_lists hl namespaceName name
  exact ⟨henabled.trans h.enabled, _, hlists, hpaired.withoutSource _⟩

theorem Reachable.coupled (h : Reachable true g) : g.Coupled := by
  have hboth : g.Settled ∧ g.Coupled := by
    refine h.invariant (I := fun g => g.Settled ∧ g.Coupled) ⟨settled_empty true, coupled_empty⟩ ?_ ?_
    · exact fun _ o hg => ⟨hg.1.upsert o, hg.2.upsert hg.1 o⟩
    · exact fun _ ns n hg => ⟨hg.1.delete ns n, hg.2.delete ns n⟩
  exact hboth.2

/-! ## Lockstep -/

/-- The redirect rulebook follows the other. -/
structure Lockstep (g : Gateway) (book : Rulebook) : Prop where
  /-- At each host and path, it has those bindings of the other, in order, that ask
  for a redirect, with the redirect that their annotations come to. -/
  echoed : ∀ host path, List.Forall₂ Binding.Echoes
    ((g.route.roster.listing host path).filter (·.annotations.asksRedirect))
    (book.roster.listing host path)
  /-- While an object is applied, no rule that the route rulebook has accepted meets
  a conflict in the redirect rulebook. -/
  unopposed : ∀ o p done r rest, plan g.redirectEnabled o = .ok p → p.rules = done ++ r :: rest →
    let before := ((g.books.map Rulebook.begin).map (·.removeSource p.source)).putRules p done
    before.answer = .ok () → ∀ k, before.state.redirect = some k →
      (before.state.route.bind p.source r.host r.path p.annotations r.target p.since).answer.isOk = true →
      ∀ c, (k.bind p.source r.host r.path p.annotations "" p.since).answer ≠ .error (.conflict c)
  /-- Every published redirect has one action and a status between 300 and 399. -/
  rows : ∀ row ∈ g.redirectEdition.table.rows,
    (∃ action, row.actions = [action]) ∧ 300 ≤ row.status ∧ row.status ≤ 399

/-- A rule without a conflict in the one book meets none in the other. -/
theorem Books.Lists.redirect_ne_conflict {b : Books} (h : b.Lists L) (hpaired : Paired L)
    {p : Plan} {r : PathRule} {k : Rulebook} (hk : b.redirect = some k)
    (hroute : (b.route.bind p.source r.host r.path p.annotations r.target p.since).answer.isOk = true)
    (c : Conflict) :
    (k.bind p.source r.host r.path p.annotations "" p.since).answer ≠ .error (.conflict c) := by
  intro hconflict
  obtain ⟨old, hold, hadmits⟩ := (h.route.bind_isOk r.target rfl).1 hroute
  have hl := h.redirect k hk
  cases hb : p.binding .redirect r with
  | error e =>
    have htarget : Rulebook.effect .redirect p.annotations "" =
      Rulebook.effect .redirect p.annotations r.target := rfl
    have hcases := Rulebook.bind_cases hl.kind htarget
    rw [hb] at hcases
    rw [hcases.1] at hconflict
    cases hconflict
    exact p.binding_ne_conflict r .redirect c hb
  | ok new =>
    have hnew : Admits (L .redirect) new :=
      hpaired.echo ▸ hadmits.echo (Plan.echoes_of_binding hold hb)
    have hok := (hl.bind_isOk (r := r) "" rfl).2 ⟨new, hb, hnew⟩
    rw [hconflict] at hok
    cases hok

/-- The redirect rulebook has, at each host and path, the echoes of the other. -/
theorem Books.Lists.forall₂_listing {b : Books} (h : b.Lists L) (hpaired : Paired L) {k : Rulebook}
    (hk : b.redirect = some k) (host path : String) :
    List.Forall₂ Binding.Echoes
      ((b.route.roster.listing host path).filter (·.annotations.asksRedirect))
      (k.roster.listing host path) := by
  have hechoes : k.roster.listing host path = echoes (b.route.roster.listing host path) := by
    rw [(h.redirect k hk).lists host path, h.route.lists host path, hpaired.echo, echoes_isAt]
  rw [hechoes]
  refine forall₂_echoes fun x hx => hpaired.heeded x ?_
  rw [h.route.lists host path] at hx
  exact (List.mem_filter.1 hx).1

/-- The books while a plan is put, once some of its rules are accepted. -/
theorem Coupled.putRules {p : Plan} {rs : List PathRule} (h : g.Coupled)
    (hp : plan g.redirectEnabled o = .ok p) :
    let step := ((g.books.map Rulebook.begin).map (·.removeSource p.source)).putRules p rs
    step.answer = .ok () → ∃ L, step.state.Lists L ∧ Paired L := by
  intro step hstep
  obtain ⟨L, hl, hpaired⟩ := h.lists
  obtain ⟨hok, hlists⟩ := (hl.opened p.source).putRules (p := p) rs fun _ => by
    simpa [Books.map, books, Gateway.redirectEnabled] using h.enabled
  have hanswer : step.answer.isOk = true := by rw [hstep]; rfl
  have hclaims := claims_paired (h.enabled ▸ hp) fun kind => (hok.1 hanswer kind).1
  exact ⟨_, hlists hanswer, (hpaired.withoutSource p.source).settleAll hclaims⟩

/-- **The rulebooks stay in lockstep**, whatever the run, refused objects
included. -/
theorem Reachable.lockstep (h : Reachable true g) :
    ∃ book, g.redirect = some book ∧ Lockstep g book := by
  have hcoupled := h.coupled
  obtain ⟨L, hl, hpaired⟩ := hcoupled.lists
  obtain ⟨book, hbook⟩ := Option.isSome_iff_exists.1 hcoupled.enabled
  refine ⟨book, hbook, fun host path => hl.forall₂_listing hpaired hbook host path, ?_, ?_⟩
  · -- The rules put so far leave the books paired, whatever comes of the others.
    intro o p done r rest hp _ before hdone k hk hroute c
    obtain ⟨L', hl', hpaired'⟩ := hcoupled.putRules hp hdone
    exact hl'.redirect_ne_conflict hpaired' hk hroute c
  · -- A row goes back to a binding in force, and that one to annotations that name its status.
    intro row hrow
    obtain ⟨rules, hrules, htable⟩ := h.settled_inStep.2.redirect book hbook
    have hbl := hl.redirect book hbook
    rw [htable] at hrow
    obtain ⟨b, hb, action, hactions, heffect⟩ := hbl.sound.roster.exists_of_row
      (Rulebook.compile_eq_ok_iff.1 hrules) hrow
    have hmem := (hbl.lists.mem_iff hbl.sound.roster).2 (Roster.mem_live.1 hb)
    obtain ⟨old, _, hecho⟩ := mem_echoes.1 (hpaired.echo ▸ hmem)
    obtain ⟨r, hr, he⟩ := hecho.effect
    injection heffect.symm.trans he with _ hstatus
    rw [hstatus]
    exact ⟨⟨action, hactions⟩, (Annotations.redirect_eq_some hr).2⟩

/-- An object at the place of `plainObject` that asks for a redirect. -/
def secureObject (name : String) (created : UInt64) : IngressObject :=
  { plainObject name created with annotations :=
      (Dict.empty.insert Annotations.schemeSetKey "https").insert Annotations.responseStatusKey "301" }

/-- Two bindings at one place, of which the older asks for a redirect. -/
def sharedPlace : Gateway :=
  (((Gateway.empty true).upsert (secureObject "a" 1)).state.upsert (plainObject "b" 2)).state

theorem lockstep_sharedPlace :
    (sharedPlace.route.roster.listing "example.com" "/foo").length = 2 ∧
      sharedPlace.redirectEdition.table.rows.map (·.status) = [301] ∧
      ∃ book, sharedPlace.redirect = some book ∧ Lockstep sharedPlace book := by
  have hfirst : Reachable true ((Gateway.empty true).upsert (secureObject "a" 1)).state :=
    .upsert .empty (secureObject "a" 1)
  have h : Reachable true sharedPlace := hfirst.upsert (plainObject "b" 2)
  have hbooks := books_upsert hfirst.settled.sound (plainObject "b" 2)
  have hlength : (sharedPlace.books.route.roster.listing "example.com" "/foo").length = 2 := by
    rw [sharedPlace, hbooks]
    decide +kernel
  have hcompiled : sharedPlace.books.redirect.map (fun book => book.roster.rules.toOption.map
      fun rules => (RedirectTable.ofRules rules).rows.map (·.status)) = some (some [301]) := by
    rw [sharedPlace, hbooks]
    decide +kernel
  obtain ⟨book, hbook, hlockstep⟩ := Reachable.lockstep h
  obtain ⟨rules, hrules, htable⟩ := h.settled_inStep.2.redirect book hbook
  have hrows : sharedPlace.redirectEdition.table.rows.map (·.status) = [301] := by
    rw [show sharedPlace.books.redirect = some book from hbook, Option.map_some,
      Rulebook.compile_eq_ok_iff.1 hrules] at hcompiled
    rw [htable]
    exact Option.some.inj (Option.some.inj hcompiled)
  exact ⟨hlength, hrows, book, hbook, hlockstep⟩

end Gateway

end IngressRouting
