/-
The basic rows that leave the decision to the advanced ones. A row does where its place is
divided, and its cluster says so by a name of its own (`deferCluster`). The name is within
reach of one service in one namespace (`ServiceRef.cluster_eq_defer_iff`), so a row may look
like a placeholder that has no advanced row behind it (`placeholder_feigned`). That is the
only such case (`Ran.placeholder_iff`).
-/
import IngressRouting.Proofs.Gateway.Places
import IngressRouting.Proofs.Rulebook.MatchOrder

namespace IngressRouting

variable {o : IngressObject} {r : PathRule} {rs : List PathRule} {host path : String}

/-! ## Names of clusters -/

/-- **One service has a cluster of the placeholder's name.** There is one underscore in it, so it
falls into a namespace and a service in one way, and no port is left. -/
theorem ServiceRef.cluster_eq_defer_iff {ref : ServiceRef} {namespaceName : String} :
    ref.cluster namespaceName = deferCluster ↔ namespaceName = "ADVANCED" ∧ ref = ⟨"MODE", none⟩ := by
  constructor
  · intro h
    obtain ⟨service, port⟩ := ref
    have hcut : ∀ rest : List Char, deferCluster.toList = namespaceName.toList ++ '_' :: rest →
        namespaceName = "ADVANCED" ∧ rest = "MODE".toList := by
      intro rest hrest
      have hparts : "ADVANCED".toList ++ '_' :: "MODE".toList = namespaceName.toList ++ '_' :: rest := hrest
      obtain ⟨hname, _, hlater⟩ := (List.append_cons_inj_of_notMem (by decide) (by decide)).1 hparts
      exact ⟨(String.toList_inj.1 hname).symm, hlater.symm⟩
    have htext := congrArg String.toList h.symm
    cases port with
    | none =>
      obtain ⟨rfl, hservice⟩ := hcut service.toList (by simpa [cluster] using htext)
      exact ⟨rfl, by rw [String.toList_inj.1 hservice]⟩
    | some p =>
      obtain ⟨_, hrest⟩ := hcut (service.toList ++ '_' :: (toString p.toNat).toList)
        (by simpa [cluster] using htext)
      have hunderscore : '_' ∈ "MODE".toList := by
        rw [← hrest]
        simp
      exact absurd hunderscore (by decide)
  · rintro ⟨rfl, rfl⟩
    rfl

theorem IngressObject.target_of_pathRules (h : o.pathRules = .ok rs) (hr : r ∈ rs) :
    ∃ port, r.target = ServiceRef.cluster ⟨r.service, port⟩ o.namespaceName := by
  obtain ⟨_, _, p, _, _, _, _, rfl⟩ := exists_entry h hr
  exact ⟨p.backend.port, rfl⟩

/-- **The advanced tier has a rule for a place where that is divided.** -/
theorem Roster.Sound.divided_iff {r : Roster} {rules : Rules} (h : r.Sound) (hr : r.rules = .ok rules)
    (hne : r.listing host path ≠ []) :
    Divided (r.listing host path) ↔ ∃ a ∈ rules.advanced, a.host = host ∧ a.path = path := by
  obtain ⟨_, hadvanced⟩ := h.tiers_of_rules hr
  constructor
  · intro hdivided
    obtain ⟨b, hb⟩ := List.exists_mem_of_ne_nil _ hne
    obtain ⟨hslot, hhost, hpath⟩ := h.mem_listing.1 hb
    have hb : b ∈ r.tiers.advanced := by
      refine h.mem_advanced.2 ⟨Roster.mem_live.2 hslot, ?_⟩
      rw [Roster.DividedAt, hhost, hpath]
      exact hdivided
    obtain ⟨a, ha, hrenders⟩ := exists_of_forall₂ hadvanced.flip hb
    exact ⟨a, ha, hrenders.host.trans hhost, hrenders.path.trans hpath⟩
  · rintro ⟨a, ha, rfl, rfl⟩
    obtain ⟨b, hb, hrenders⟩ := exists_of_forall₂ hadvanced ha
    rw [hrenders.host, hrenders.path]
    exact (h.mem_advanced.1 hb).2

namespace Gateway

variable {enabled : Bool} {g : Gateway} {history : List LoggedEvent}

/-- There is one binding at the place, and it sends requests to a cluster of the placeholder's
name. -/
def Feigned (history : List LoggedEvent) (g : Gateway) (host path : String) : Prop :=
  ∃ b o, g.route.roster.listing host path = [b] ∧ lastObject history b.source = some o ∧
    o.namespaceName = "ADVANCED" ∧ o.ruleAt? host path = some ⟨host, path, "MODE", deferCluster⟩

/-- What a row of the basic tier says about its place. -/
structure Indicates (history : List LoggedEvent) (g : Gateway) (rules : Rules) (row : BasicRow) : Prop where
  /-- The advanced tier has a rule for the place where that is divided. -/
  divided : Divided (g.route.roster.listing row.host row.path) ↔
    ∃ a ∈ rules.advanced, a.host = row.host ∧ a.path = row.path
  /-- The row has the placeholder's cluster there, and where the name is feigned. -/
  deferred : row.cluster = deferCluster ↔
    Divided (g.route.roster.listing row.host row.path) ∨ Feigned history g row.host row.path

/-- A binding sends requests to a cluster of the placeholder's name where it is that of the one
service. -/
theorem Remembers.feigned_iff {L : Standing} {b : Binding} {target : String}
    (hr : Remembers enabled history g L) (hb : b ∈ L .route)
    (hlisting : g.route.roster.listing b.host b.path = [b]) (htarget : b.effect = .forward target) :
    target = deferCluster ↔ Feigned history g b.host b.path := by
  obtain ⟨o, r, ho, hrule, hclaim⟩ := hr.mem_inForce hb
  have hhost : b.host = r.host := by rw [hclaim]; rfl
  have hpath : b.path = r.path := by rw [hclaim]; rfl
  obtain rfl : r.target = target := by
    rw [hclaim] at htarget
    exact Effect.forward.inj htarget
  constructor
  · intro hdefer
    obtain ⟨⟨rs, hrs, _⟩, _⟩ := IngressObject.asksFor_of_ruleAt? hrule
    rw [IngressObject.ruleAt?_eq hrs] at hrule
    obtain ⟨port, hcluster⟩ := IngressObject.target_of_pathRules hrs (List.mem_of_find?_eq_some hrule)
    obtain ⟨hnamespace, href⟩ := ServiceRef.cluster_eq_defer_iff.1 (hcluster.symm.trans hdefer)
    have hservice : r.service = "MODE" := congrArg ServiceRef.service href
    refine ⟨b, o, hlisting, ho, hnamespace, ?_⟩
    rw [IngressObject.ruleAt?_eq hrs, hhost, hpath, hrule, ← hdefer, ← hservice]
  · rintro ⟨b', o', hlisting', ho', _, hrule'⟩
    obtain rfl : b = b' := by
      rw [hlisting] at hlisting'
      exact (List.cons.inj hlisting').1
    obtain rfl : o = o' := Option.some.inj (ho.symm.trans ho')
    rw [hhost, hpath, hrule] at hrule'
    rw [Option.some.inj hrule']

/-- **When a row stands for a placeholder.** After any run, a basic row of the published route
table has the placeholder's cluster exactly where its place is divided, which is where the
advanced tier has a rule for the place, or where the one binding there is of an object in the
namespace `ADVANCED` and sends requests to the service `MODE` without a port. -/
theorem Ran.placeholder_iff (h : Ran enabled history g) :
    ∃ rules, g.route.compile.1 = .ok rules ∧
      g.routeEdition.table = RouteTable.ofRules rules (balance g.splits) ∧
      ∀ row ∈ g.routeEdition.table.basic, Indicates history g rules row := by
  have hr := h.remembers
  obtain ⟨rules, hrules, htable⟩ := h.reachable.settled_inStep.2.route
  have hsound : g.route.roster.Sound := hr.lists.route.sound.roster
  have hcompiled := Rulebook.compile_eq_ok_iff.1 hrules
  obtain ⟨hheads, _⟩ := hsound.tiers_of_rules hcompiled
  refine ⟨rules, hrules, htable, fun row hrow => ?_⟩
  rw [htable] at hrow
  obtain ⟨a, ha, hrow⟩ := List.mem_filterMap.1 hrow
  obtain ⟨site, hsite, hhead⟩ := exists_of_forall₂ hheads ha
  obtain ⟨hne, hlisting⟩ := hsound.mem_toSites.1 hsite
  rw [← hhead.host, ← hhead.path] at hlisting
  have hdivided := hsound.divided_iff hcompiled (hlisting ▸ hne)
  cases hp : a.isPlaceholder with
  | true =>
    have hdefer : a.action = .defer := of_decide_eq_true hp
    rw [RouteTable.basicRow?, hdefer] at hrow
    cases hrow
    have hplace : Divided (g.route.roster.listing a.host a.path) := hlisting ▸ hhead.placeholder.1 hp
    exact ⟨hdivided, iff_of_true rfl (.inl hplace)⟩
  | false =>
    obtain ⟨b, hbindings, hrenders⟩ := hhead.renders hp
    have hplace : ¬ Divided (g.route.roster.listing a.host a.path) := by
      rw [← hlisting, ← hhead.placeholder, hp]
      exact Bool.false_ne_true
    rw [hbindings] at hlisting
    have hforce : b ∈ g.inForce .route := by
      have hb : b ∈ g.route.roster.listing a.host a.path := hlisting ▸ List.mem_cons_self
      exact hsound.mem_toList.2 (hsound.mem_listing.1 hb).1
    obtain ⟨target, htarget⟩ : ∃ target, b.effect = .forward target := by
      obtain ⟨o, r, _, _, rfl⟩ := hr.mem_inForce hforce
      exact ⟨_, rfl⟩
    have haction : a.action = .forward target := by
      rw [hrenders.action, htarget]
      rfl
    rw [RouteTable.basicRow?, haction] at hrow
    cases hrow
    have hfeigned : target = deferCluster ↔ Feigned history g a.host a.path := by
      rw [hrenders.host, hrenders.path] at hlisting ⊢
      exact hr.feigned_iff hforce hlisting.symm htarget
    exact ⟨hdivided, hfeigned.trans (or_iff_right hplace).symm⟩

/-- An object that asks for another path. -/
def barObject : IngressObject :=
  ⟨"ns", "b", ∅, 2, [⟨"example.com", [⟨"/bar", some .exact, ⟨"b", none⟩⟩]⟩]⟩

/-- Two places, of which a header divides one. -/
def twoPlaces : Gateway :=
  (((Gateway.empty false).upsert (headerObject "a" "X-A: 1" 1)).state.upsert barObject).state

theorem placeholder_iff_divided :
    let history : List LoggedEvent :=
      [⟨.upsert (headerObject "a" "X-A: 1" 1), .ok ()⟩, ⟨.upsert barObject, .ok ()⟩]
    twoPlaces.routeEdition.table.basic =
        [⟨"example.com", "/bar", "ns_b"⟩, ⟨"example.com", "/foo", deferCluster⟩] ∧
      Divided (twoPlaces.route.roster.listing "example.com" "/foo") ∧ Ran false history twoPlaces ∧
      ∃ rules, twoPlaces.route.compile.1 = .ok rules ∧
        twoPlaces.routeEdition.table = RouteTable.ofRules rules (balance twoPlaces.splits) ∧
        ∀ row ∈ twoPlaces.routeEdition.table.basic, Indicates history twoPlaces rules row := by
  intro history
  have hbasic : twoPlaces.routeEdition.table.basic =
      [⟨"example.com", "/bar", "ns_b"⟩, ⟨"example.com", "/foo", deferCluster⟩] := by decide +kernel
  have hlisting : twoPlaces.route.roster.listing "example.com" "/foo" =
      [⟨"ns/a", "example.com", "/foo", Dict.ofList [(Annotations.headerKey, "X-A: 1")], 1,
        .forward "ns_a"⟩] := by decide +kernel
  have hran : Ran false history twoPlaces :=
    .accepted (.accepted .empty (headerObject "a" "X-A: 1" 1) (by decide +kernel)) barObject
      (by decide +kernel)
  refine ⟨hbasic, ?_, hran, Ran.placeholder_iff hran⟩
  rw [hlisting]
  decide

/-- An object that sends requests to the one service. -/
def feignedObject : IngressObject :=
  ⟨"ADVANCED", "a", ∅, 1, [⟨"example.com", [⟨"/foo", some .exact, ⟨"MODE", none⟩⟩]⟩]⟩

/-- Its row looks like a placeholder, although nothing is divided and no advanced row decides. -/
theorem placeholder_feigned :
    let g := ((Gateway.empty false).upsert feignedObject).state
    Reachable false g ∧ ⟨"example.com", "/foo", deferCluster⟩ ∈ g.routeEdition.table.basic ∧
      ¬ Divided (g.route.roster.listing "example.com" "/foo") ∧ g.routeEdition.table.advanced = [] := by
  have hbasic : ((Gateway.empty false).upsert feignedObject).state.routeEdition.table.basic =
      [⟨"example.com", "/foo", deferCluster⟩] := by decide +kernel
  have hlisting : ((Gateway.empty false).upsert feignedObject).state.route.roster.listing
      "example.com" "/foo" = [⟨"ADVANCED/a", "example.com", "/foo", ∅, 1, .forward deferCluster⟩] := by
    decide +kernel
  have hadvanced : ((Gateway.empty false).upsert feignedObject).state.routeEdition.table.advanced = [] := by
    decide +kernel
  refine ⟨.upsert .empty _, ?_, ?_, hadvanced⟩
  · rw [hbasic]
    exact List.mem_cons_self
  · rw [hlisting]
    decide

end Gateway

end IngressRouting
