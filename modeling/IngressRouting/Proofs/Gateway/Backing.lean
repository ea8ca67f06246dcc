/-
Whether the clusters that are split get any traffic. The splits of a source stay as long as
the source does, while its bindings come into force only where no other of the same age is
there before them, and go when an older one comes (`Yielded`). So a cluster may be split to
which no rule sends a request (`split_unrouted`), but then the last objects have yielded
every place that they would send there (`Ran.split_backed`).

The invariant is that each place that a last object settles is in force or yielded
(`Held`).
-/
import IngressRouting.Proofs.Gateway.Places
import IngressRouting.Proofs.Gateway.Splits

namespace IngressRouting

variable {history : List LoggedEvent} {o o' : IngressObject} {host path source cluster : String}

/-- The one object is of another source, and asks for the place with the same annotations. -/
def IngressObject.Contends (o' o : IngressObject) (host path : String) : Prop :=
  o'.key ≠ o.key ∧ o'.rules = o.rules ∧ o'.AsksFor host path

/-- The object is the last of its source, and has lost the place: to one as old that was there
when it came, or to an older one that has come since. -/
def Yielded (history : List LoggedEvent) (o : IngressObject) (host path : String) : Prop :=
  ∃ before after, history = before ++ ⟨.upsert o, .ok ()⟩ :: after ∧ (∀ r ∈ after, r.accepts o.key = false) ∧
    ∃ o', o'.Contends o host path ∧
      (lastObject before o'.key = some o' ∧ o'.created = o.created ∨
        ⟨.upsert o', .ok ()⟩ ∈ after ∧ o'.created < o.created)

theorem Yielded.later {r : LoggedEvent} (h : Yielded history o host path) (hr : r.accepts o.key = false) :
    Yielded (history ++ [r]) o host path := by
  obtain ⟨before, after, rfl, hafter, o', hcontends, hwhy⟩ := h
  refine ⟨before, after ++ [r], by simp, ?_, o', hcontends, hwhy.imp id ?_⟩
  · exact List.forall_mem_append.2 ⟨hafter, List.forall_mem_singleton.2 hr⟩
  · exact fun ⟨hm, hlt⟩ => ⟨List.mem_append_left _ hm, hlt⟩

theorem yielded_to_even (ho' : lastObject history o'.key = some o') (hc : o'.Contends o host path)
    (he : o'.created = o.created) : Yielded (history ++ [⟨.upsert o, .ok ()⟩]) o host path :=
  ⟨history, [], rfl, fun _ hr => (List.not_mem_nil hr).elim, o', hc, .inl ⟨ho', he⟩⟩

theorem yielded_to_older (ho : lastObject history source = some o) (hc : o'.Contends o host path)
    (hlt : o'.created < o.created) : Yielded (history ++ [⟨.upsert o', .ok ()⟩]) o host path := by
  obtain ⟨before, after, rfl, rfl, hafter⟩ := lastObject_eq_some_iff.1 ho
  refine ⟨before, after ++ [⟨.upsert o', .ok ()⟩], by simp, ?_, o', hc, .inr ⟨by simp, hlt⟩⟩
  have hother : (LoggedEvent.mk (.upsert o') (.ok ())).accepts o.key = false := decide_eq_false hc.1
  exact List.forall_mem_append.2 ⟨hafter, List.forall_mem_singleton.2 hother⟩

namespace Gateway

variable {enabled : Bool} {g : Gateway} {bs : List Binding} {b c : Binding}

theorem contends_of_rivals {kind : TableKind} (hc : c ∈ (turn enabled o' kind).claims)
    (hb : b ∈ (turn enabled o kind).claims) (hr : c.Rivals b) (hne : o'.key ≠ o.key) :
    o'.Contends o b.host b.path := by
  obtain ⟨hasks, hannotations, _⟩ := asksFor_of_mem_turn hc
  obtain ⟨_, hannotations', _⟩ := asksFor_of_mem_turn hb
  refine ⟨hne, hannotations.symm.trans (hr.2.2.trans hannotations'), ?_⟩
  rw [← hr.1, ← hr.2.1]
  exact hasks

/-! ## What last objects hold -/

/-- Each place that a last object settles is in force or yielded. -/
def Held (enabled : Bool) (history : List LoggedEvent) (bs : List Binding) : Prop :=
  ∀ s o b, lastObject history s = some o → b ∈ settleAll (turn enabled o .route).claims [] →
    b ∈ bs ∨ Yielded history o b.host b.path

/-- What an accepted object settles comes into force, but beside one as old. -/
theorem Remembers.own_or_yielded (hr : Remembers enabled history g g.inForce)
    (hadmits : ∀ c ∈ (turn enabled o .route).claims, ∀ x ∈ withoutSource o.key (g.inForce .route),
      c.Rivals x → c.since ≤ x.since)
    (hb : b ∈ settleAll (turn enabled o .route).claims []) :
    b ∈ renew (g.inForce .route) (turn enabled o .route) ∨
      Yielded (history ++ [⟨.upsert o, .ok ()⟩]) o b.host b.path := by
  have hclaim := (oldest_settleAll _).claims b hb
  have hleft : Apart (withoutSource o.key (g.inForce .route)) :=
    (hr.lists.apart .route).sublist List.filter_sublist
  obtain ⟨x, hx, hrivals, hle⟩ := (hleft.oldest.settleAll (turn enabled o .route).claims).oldest b
    (List.mem_append_right _ hclaim)
  rcases mem_settleAll_or hleft turn_even hx with hown | hother
  · have hsame : b = x := (oldest_settleAll _).apart.eq_of_rivals hb hown hrivals
    exact .inl (hsame ▸ hx)
  · obtain ⟨hforce, hne⟩ := mem_withoutSource.1 hother
    obtain ⟨o', ho', hsettled⟩ := hr.standing .route x hforce
    have hclaim' := (oldest_settleAll _).claims x hsettled
    have hsince : x.since = b.since := UInt64.le_antisymm hle (hadmits b hclaim x hother hrivals)
    rw [(mem_turn hclaim').1] at ho' hne
    rw [(mem_turn hclaim').2, (mem_turn hclaim).2] at hsince
    exact .inr (yielded_to_even ho' (contends_of_rivals hclaim' hclaim hrivals.symm hne) hsince)

/-- What another source has in force stays, but for a claim that is older. -/
theorem other_or_yielded {a : IngressObject} (ha : lastObject history source = some a)
    (hb : b ∈ (turn enabled a .route).claims) (hforce : b ∈ bs) (hne : a.key ≠ o.key) :
    b ∈ renew bs (turn enabled o .route) ∨ Yielded (history ++ [⟨.upsert o, .ok ()⟩]) a b.host b.path := by
  have hother : b ∈ withoutSource o.key bs := by
    refine mem_withoutSource.2 ⟨hforce, ?_⟩
    rw [(mem_turn hb).1]
    exact hne
  obtain hkept | ⟨c, hc, hrivals, hlt⟩ :
      b ∈ renew bs (turn enabled o .route) ∨
        ∃ c ∈ (turn enabled o .route).claims, c.Rivals b ∧ c.since < b.since :=
    mem_settleAll_of_mem hother
  · exact .inl hkept
  · rw [(mem_turn hc).2, (mem_turn hb).2] at hlt
    exact .inr (yielded_to_older ha (contends_of_rivals hc hb hrivals hne.symm) hlt)

theorem Held.refused (h : Held enabled history bs) {r : LoggedEvent} (hr : ∀ s, r.accepts s = false) :
    Held enabled (history ++ [r]) bs := by
  intro s o b ho hb
  rw [lastObject_concat, hr, if_neg Bool.false_ne_true] at ho
  exact (h s o b ho hb).imp id (·.later (hr _))

theorem Held.upsert (h : Held enabled history (g.inForce .route))
    (hr : Remembers enabled history g g.inForce) (o : IngressObject) :
    Held enabled (history ++ [⟨.upsert o, (g.upsert o).answer⟩]) ((g.upsert o).state.inForce .route) := by
  cases he : (g.upsert o).answer with
  | error e =>
    rw [hr.settled.upsert_refused he]
    exact h.refused fun s => LoggedEvent.accepts_error _ e s
  | ok _ =>
    obtain rfl := hr.enabled
    have hok : (g.upsert o).answer.isOk = true := by rw [he]; rfl
    obtain ⟨haccepted, hrenewed⟩ := upsert_isOk hr.lists o
    have hadmits := (admitsAll_turn _).1 ((haccepted.1 hok).2 .route)
    have hlists := (hrenewed hok).lists
    intro s a b ha hb
    rw [hlists.inForce.mem_congr hlists .route]
    have hlast := lastObject_accepted history (.upsert o) s
    rw [show Except.ok _ = Except.ok () from rfl, hlast] at ha
    split at ha
    · cases ha
      exact hr.own_or_yielded hadmits hb
    · next hs =>
      have hkey : a.key ≠ o.key := key_of_lastObject ha ▸ hs
      rcases h s a b ha hb with hforce | hyielded
      · exact other_or_yielded ha ((oldest_settleAll _).claims b hb) hforce hkey
      · exact .inr (hyielded.later (decide_eq_false hkey.symm))

theorem Held.delete (h : Held enabled history (g.inForce .route))
    (hr : Remembers enabled history g g.inForce) (namespaceName name : String) :
    Held enabled (history ++ [⟨.delete namespaceName name, (g.delete namespaceName name).answer⟩])
      ((g.delete namespaceName name).state.inForce .route) := by
  obtain ⟨hanswer, _, hlists, _⟩ := delete_lists hr.lists namespaceName name
  rw [hanswer]
  intro s a b ha hb
  rw [hlists.inForce.mem_congr hlists .route]
  have hlast := lastObject_accepted history (.delete namespaceName name) s
  rw [hlast] at ha
  split at ha
  · cases ha
  · next hs =>
    have hkey : a.key ≠ sourceKey namespaceName name := key_of_lastObject ha ▸ hs
    rcases h s a b ha hb with hforce | hyielded
    · refine .inl (mem_withoutSource.2 ⟨hforce, ?_⟩)
      rw [(mem_turn ((oldest_settleAll _).claims b hb)).1]
      exact hkey
    · exact .inr (hyielded.later (decide_eq_false hkey.symm))

/-- **Each place that a last object settles is in force or yielded**, after any run. -/
theorem Ran.held (h : Ran enabled history g) : Held enabled history (g.inForce .route) := by
  have hboth : Remembers enabled history g g.inForce ∧ Held enabled history (g.inForce .route) := by
    refine h.invariant
      (I := fun history g => Remembers enabled history g g.inForce ∧ Held enabled history (g.inForce .route))
      ⟨(remembers_empty enabled).inForce, fun s o b ho => by cases ho⟩ ?_
    rintro history g e ⟨hr, hheld⟩
    cases e with
    | upsert o =>
      obtain ⟨_, hnew⟩ := hr.upsert o
      exact ⟨hnew.inForce, hheld.upsert hr o⟩
    | delete namespaceName name =>
      exact ⟨(hr.delete namespaceName name).inForce, hheld.delete hr namespaceName name⟩
  exact hboth.2

/-! ## Where requests go -/

/-- A forwarding rule of the published route table sends requests to the cluster. -/
def Routes (g : Gateway) (cluster : String) : Prop :=
  ∃ rules, g.route.compile.1 = .ok rules ∧ g.routeEdition.table = RouteTable.ofRules rules (balance g.splits) ∧
    ∃ a ∈ rules.basic ++ rules.advanced, a.action = .forward cluster

theorem toAction_eq_forward_iff {e : Effect} : e.toAction = .forward cluster ↔ e = .forward cluster := by
  cases e <;> simp [Effect.toAction]

/-- **Requests go where a binding in force sends them.** -/
theorem Reachable.routes_iff (h : Reachable enabled g) :
    g.Routes cluster ↔ ∃ b ∈ g.inForce .route, b.effect = .forward cluster := by
  obtain ⟨rules, hrules, htable⟩ := h.settled_inStep.2.route
  have hsound := h.registered.lists.route.sound.roster
  obtain ⟨bs, hperm, hrenders⟩ := hsound.renders_perm (Rulebook.compile_eq_ok_iff.1 hrules)
  have hmem : ∀ b, b ∈ bs ↔ b ∈ g.inForce .route := fun b => (hperm.trans hsound.toList_perm.symm).mem_iff
  constructor
  · rintro ⟨rules', hrules', _, a, ha, haction⟩
    obtain rfl : rules = rules' := Except.ok.inj (hrules.symm.trans hrules')
    have hlisted : a ∈ rules.basic.filter (!·.isPlaceholder) ++ rules.advanced := by
      refine List.mem_append.2 ((List.mem_append.1 ha).imp (fun ha => ?_) id)
      refine List.mem_filter.2 ⟨ha, ?_⟩
      rw [Rule.isPlaceholder, haction]
      rfl
    obtain ⟨b, hb, hrendered⟩ := exists_of_forall₂ hrenders hlisted
    refine ⟨b, (hmem b).1 hb, toAction_eq_forward_iff.1 ?_⟩
    rw [← hrendered.action, haction]
  · rintro ⟨b, hb, heffect⟩
    obtain ⟨a, ha, hrendered⟩ := exists_of_forall₂ hrenders.flip ((hmem b).2 hb)
    refine ⟨rules, hrules, htable, a, List.mem_append.2 ((List.mem_append.1 ha).imp ?_ id), ?_⟩
    · exact fun ha => (List.mem_filter.1 ha).1
    · rw [hrendered.action, heffect]
      rfl

/-- What becomes of a cluster that is split, after a history. -/
structure Backed (history : List LoggedEvent) (g : Gateway) (cluster : String) : Prop where
  /-- The last object of a registered source splits it. -/
  asked : ∃ s o service split, g.backends.contains s = true ∧ lastObject history s = some o ∧
    o.Splits service cluster split
  /-- Requests go there where a last object holds a place that it sends there. -/
  routes : g.Routes cluster ↔ ∃ s o r, lastObject history s = some o ∧ o.ruleAt? r.host r.path = some r ∧
    r.target = cluster ∧ o.claim r ∈ g.inForce .route
  /-- If none go there, each such place is yielded. -/
  routed : g.Routes cluster ∨ ∀ s o r, lastObject history s = some o → o.ruleAt? r.host r.path = some r →
    r.target = cluster → Yielded history o r.host r.path

/-- **Clusters that are split are routed, or their places are yielded.** After any run, each
cluster that has a split in the published route table is one that the last object of a
registered source splits. A rule of the table sends requests there, unless whatever a last
object would send there, by its first rule for a host and path, it has lost: to an object of
another source that is as old and was there when it came, or is older and has come since, and
that asks for the place with the same annotations. -/
theorem Ran.split_backed (h : Ran enabled history g)
    (hc : g.routeEdition.table.balance.contains cluster = true) : Backed history g cluster := by
  have hr := h.remembers
  rw [h.reachable.balance_eq] at hc
  have hroutes : g.Routes cluster ↔ ∃ s o r, lastObject history s = some o ∧
      o.ruleAt? r.host r.path = some r ∧ r.target = cluster ∧ o.claim r ∈ g.inForce .route := by
    rw [h.reachable.routes_iff]
    constructor
    · rintro ⟨b, hb, heffect⟩
      obtain ⟨o, r, ho, hrule, rfl⟩ := hr.mem_inForce hb
      exact ⟨_, o, r, ho, hrule, Effect.forward.inj heffect, hb⟩
    · rintro ⟨s, o, r, ho, hrule, rfl, hb⟩
      exact ⟨_, hb, rfl⟩
  refine ⟨hr.balance_contains.1 hc, hroutes, ?_⟩
  by_cases hrouted : g.Routes cluster
  · exact .inl hrouted
  · refine .inr fun s o r ho hrule htarget => ?_
    have hsettled : o.claim r ∈ settleAll (turn enabled o .route).claims [] :=
      (hr.valid s o ho).mem_settled_iff.2 ⟨r, hrule, rfl⟩
    refine (h.held s o _ ho hsettled).resolve_left fun hforce => hrouted (hroutes.2 ?_)
    exact ⟨s, o, r, ho, hrule, htarget, hforce⟩

/-- Two objects with the same annotations at one place, the older of which comes last. -/
def splitTaken : Gateway :=
  (((Gateway.empty false).upsert (splitObject "ns" "a" "/foo" "v1" 2)).state.upsert
    (splitObject "ns2" "b" "/foo" "v1" 1)).state

theorem split_backed_taken :
    let history : List LoggedEvent := [⟨.upsert (splitObject "ns" "a" "/foo" "v1" 2), .ok ()⟩,
      ⟨.upsert (splitObject "ns2" "b" "/foo" "v1" 1), .ok ()⟩]
    Ran false history splitTaken ∧ splitTaken.routeEdition.table.balance.contains "ns_svc" = true ∧
      Backed history splitTaken "ns_svc" := by
  intro history
  have hran : Ran false history splitTaken := by
    have hfirst := Ran.accepted (@Ran.empty false) (splitObject "ns" "a" "/foo" "v1" 2) (by decide +kernel)
    exact hfirst.accepted (splitObject "ns2" "b" "/foo" "v1" 1) (by decide +kernel)
  have hsplit : splitTaken.routeEdition.table.balance.contains "ns_svc" = true := by decide +kernel
  exact ⟨hran, hsplit, Ran.split_backed hran hsplit⟩

/-- The one that has lost the place is still split, and no row sends a request there. -/
theorem split_unrouted :
    Reachable false splitTaken ∧ splitTaken.routeEdition.table.balance.contains "ns_svc" = true ∧
      (∀ row ∈ splitTaken.routeEdition.table.basic, row.cluster ≠ "ns_svc") ∧
      ∀ row ∈ splitTaken.routeEdition.table.advanced, row.cluster ≠ "ns_svc" := by
  have hsplit : splitTaken.routeEdition.table.balance.contains "ns_svc" = true := by decide +kernel
  have hbasic : splitTaken.routeEdition.table.basic = [⟨"example.com", "/foo", "ns2_svc"⟩] := by decide +kernel
  have hadvanced : splitTaken.routeEdition.table.advanced = [] := by decide +kernel
  refine ⟨.upsert (.upsert .empty _) _, hsplit, ?_, ?_⟩
  · rw [hbasic]
    decide
  · rw [hadvanced]
    decide

end Gateway

end IngressRouting
