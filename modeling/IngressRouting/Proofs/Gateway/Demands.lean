/-
What an object claims, by its path rules and its annotations: in the rulebook of a
kind one binding for each of its rules, at the host and path of the rule.

So an object is kept out by an older one exactly when they share a host and path
and have the same annotations (`Blocks`), whatever the rulebook.
-/
import IngressRouting.Proofs.Extraction
import IngressRouting.Proofs.Gateway.Lockstep

namespace IngressRouting

variable {o : IngressObject} {r : PathRule} {rs : List PathRule} {host path : String}

theorem checkHost_ne_empty {host' : String} (h : checkHost host = .ok host') : host' ≠ "" := by
  obtain ⟨_, rfl⟩ := checkHost_eq_ok_iff.1 h
  split
  · decide
  · next hne => exact hne

namespace IngressObject

/-- One of the object's rules is for the host and path. -/
def AsksFor (o : IngressObject) (host path : String) : Prop :=
  ∃ rs, o.pathRules = .ok rs ∧ ∃ r ∈ rs, r.host = host ∧ r.path = path

/-- **Every rule is that of a path which the object lists.** -/
theorem exists_entry (h : o.pathRules = .ok rs) (hr : r ∈ rs) :
    ∃ e ∈ o.hosts, ∃ p ∈ e.paths, ∃ host, checkHost e.host = .ok host ∧ checkPath p.path = .ok () ∧
      r = ⟨host, p.text, p.backend.service, p.backend.cluster o.namespaceName⟩ := by
  obtain ⟨_, hentry, hdrafts⟩ := exists_of_forall₂ (forall₂_pathRules h).flip hr
  obtain ⟨e, he, hentry⟩ := List.mem_flatMap.1 hentry
  obtain ⟨p, hp, rfl⟩ := List.mem_map.1 hentry
  exact ⟨e, he, p, hp, hdrafts⟩

theorem host_ne_empty (h : o.pathRules = .ok rs) (hr : r ∈ rs) : r.host ≠ "" := by
  obtain ⟨_, _, _, _, _, hhost, _, rfl⟩ := exists_entry h hr
  exact checkHost_ne_empty hhost

/-- What the object claims by one of its rules, in the route rulebook. -/
def claim (o : IngressObject) (r : PathRule) : Binding :=
  ⟨o.key, r.host, r.path, o.rules, o.created, .forward r.target⟩

end IngressObject

theorem Rulebook.binding_place {p : Plan} {kind : TableKind} {c : Binding} (h : p.binding kind r = .ok c)
    (hne : r.host ≠ "") : c.host = r.host ∧ c.path = r.path := by
  obtain ⟨effect, _, h⟩ := bind_eq_ok.1 h
  obtain ⟨rfl, _⟩ := check_eq_ok_iff.1 (mapError_eq_ok.1 h)
  rw [Binding.kept, if_neg hne]
  exact ⟨rfl, rfl⟩

namespace Gateway

variable {enabled : Bool} {a : Annotations} {kind : TableKind} {c d : Binding}

/-- Whether what has these annotations goes into the rulebook of a kind. -/
def Enters (enabled : Bool) (a : Annotations) : TableKind → Bool
  | .route => true
  | .redirect => enabled && a.asksRedirect

theorem plan_rules {p : Plan} (h : plan enabled o = .ok p) :
    o.pathRules = .ok p.rules ∧ p.annotations = o.rules ∧
      ∀ kind, p.asks kind = Enters enabled o.rules kind := by
  have hp := planned h
  refine ⟨hp.rules, hp.annotations, fun kind => ?_⟩
  cases kind with
  | route => rfl
  | redirect =>
    cases enabled with
    | false => exact hp.not_redirected
    | true => rw [Plan.asks, plan_redirected h, hp.annotations, Enters, Bool.true_and]

/-- In the route rulebook a rule comes to what the object claims by it. -/
theorem Planned.binding_route {p : Plan} (h : Planned enabled o p) (hr : r ∈ p.rules)
    (hb : p.binding .route r = .ok c) : c = o.claim r := by
  obtain ⟨effect, heffect, hc⟩ := bind_eq_ok.1 hb
  obtain ⟨rfl, _⟩ := Rulebook.check_eq_ok_iff.1 (mapError_eq_ok.1 hc)
  have hne : r.host ≠ "" := IngressObject.host_ne_empty h.rules hr
  have he : effect = .forward r.target := (Except.ok.inj heffect).symm
  simp [Binding.kept, hne, he, h.source, h.since, h.annotations, IngressObject.claim]

theorem asksFor_of_mem_turn (h : c ∈ (turn enabled o kind).claims) :
    o.AsksFor c.host c.path ∧ c.annotations = o.rules ∧ Enters enabled o.rules kind = true := by
  obtain ⟨p, hp, hentered, r, hr, hb⟩ := mem_turn_iff.1 h
  obtain ⟨hrules, hannotations, hasks⟩ := plan_rules hp
  obtain ⟨hhost, hpath⟩ := Rulebook.binding_place hb (IngressObject.host_ne_empty hrules hr)
  obtain ⟨_, _, hsame⟩ := Rulebook.binding_eq_ok hb
  exact ⟨⟨p.rules, hrules, r, hr, hhost.symm, hpath.symm⟩, hsame.trans hannotations,
    (hasks kind).symm.trans hentered⟩

/-- Where nothing is wrong with an object, each of its rules comes to a claim. -/
theorem Valid.exists_claim (h : Valid enabled o) (hkind : Enters enabled o.rules kind = true)
    (hasks : o.AsksFor host path) :
    ∃ c ∈ (turn enabled o kind).claims, c.host = host ∧ c.path = path ∧ c.annotations = o.rules := by
  obtain ⟨p, hp, hvalid⟩ := h
  obtain ⟨hrules, hannotations, hentered⟩ := plan_rules hp
  obtain ⟨rs, hrs, r, hr, rfl, rfl⟩ := hasks
  obtain rfl : p.rules = rs := Except.ok.inj (hrules.symm.trans hrs)
  have hk : p.asks kind = true := (hentered kind).trans hkind
  obtain ⟨b, hb⟩ := hvalid kind hk r hr
  obtain ⟨hhost, hpath⟩ := Rulebook.binding_place hb (IngressObject.host_ne_empty hrules hr)
  exact ⟨b, mem_turn_iff.2 ⟨p, hp, hk, r, hr, hb⟩, hhost, hpath,
    (Rulebook.binding_eq_ok hb).2.2.trans hannotations⟩

theorem turn_even : ∀ c ∈ (turn enabled o kind).claims, ∀ d ∈ (turn enabled o kind).claims,
    c.Rivals d → c.since = d.since := fun _ hc _ hd _ => (mem_turn hc).2.trans (mem_turn hd).2.symm

/-- Over bindings of other sources, an object is admitted where no rival is older. -/
theorem admitsAll_turn (bs : List Binding) : AdmitsAll bs (turn enabled o kind).claims ↔
    ∀ c ∈ (turn enabled o kind).claims, ∀ x ∈ bs, c.Rivals x → c.since ≤ x.since :=
  (traces_refl bs).admitsAll_iff _ turn_even

/-- **On its own, an object is accepted where nothing is wrong with it.** -/
theorem upsert_empty_isOk :
    ((Gateway.empty enabled).upsert o).answer.isOk = true ↔ Valid enabled o := by
  have hr := registered_empty enabled
  rw [(upsert_isOk hr.lists o).1, hr.enabled]
  refine and_iff_left fun kind => (admitsAll_turn _).2 fun c _ x hx => ?_
  cases hx

/-- The one object is older, and both ask for one host and path with the same annotations. -/
def Blocks (a o : IngressObject) : Prop :=
  a.created < o.created ∧ a.rules = o.rules ∧ ∃ host path, a.AsksFor host path ∧ o.AsksFor host path

end Gateway

end IngressRouting
