/-
What an object claims: the bindings that its rules come to in either rulebook
(`Plan.claims`). An upsert is accepted exactly when each rule says nothing wrong
and each claim is admitted by the bindings in force without those of its own
source (`upsert_isOk`), and then the claims settle among these (`Renewed`).
-/
import IngressRouting.Proofs.Gateway.Runs
import IngressRouting.Proofs.Roster.Listing

namespace IngressRouting

/-- A sound rulebook of a kind, as the list of its bindings. -/
structure Rulebook.Lists (k : Rulebook) (kind : TableKind) (bs : List Binding) : Prop where
  sound : k.Sound
  kind : k.kind = kind
  lists : k.roster.Lists bs

/-- The binding of a rule as it is kept in a rulebook of a kind, or what is
wrong with it by itself. -/
def Plan.binding (p : Plan) (kind : TableKind) (r : PathRule) : Except Rejection Binding := do
  let effect ← Rulebook.effect kind p.annotations r.target
  (Rulebook.check kind ⟨p.source, r.host, r.path, p.annotations, p.since, effect⟩).mapError .fault

namespace Rulebook

variable {k : Rulebook} {kind : TableKind} {bs : List Binding} {p : Plan} {r : PathRule} {c : Binding}
  {target : String}

theorem binding_eq_ok (h : p.binding kind r = .ok c) :
    c.source = p.source ∧ c.since = p.since ∧ c.annotations = p.annotations := by
  obtain ⟨effect, _, h⟩ := bind_eq_ok.1 h
  obtain ⟨rfl, _⟩ := check_eq_ok_iff.1 (mapError_eq_ok.1 h)
  rw [Binding.kept]
  split <;> exact ⟨rfl, rfl, rfl⟩

/-- What a rulebook does with a rule: what is wrong with it by itself comes
first. The target counts for routes only. -/
theorem bind_cases (hk : k.kind = kind)
    (ht : effect kind p.annotations target = effect kind p.annotations r.target) :
    let step := k.bind p.source r.host r.path p.annotations target p.since
    match p.binding kind r with
    | .error e => step.answer = .error e ∧ step.state = k
    | .ok b =>
      step.answer.isOk = (k.roster.put b).1.isOk ∧ step.state = ⟨k.kind, (k.roster.put b).2⟩ := by
  subst hk
  rw [Plan.binding, ← ht]
  cases he : effect k.kind p.annotations target with
  | error e => simp [Rulebook.bind, he, Bind.bind, Except.bind]
  | ok eff =>
    simp only [Rulebook.bind, he, Rulebook.put, Bind.bind, Except.bind]
    cases check k.kind ⟨p.source, r.host, r.path, p.annotations, p.since, eff⟩ with
    | error f => exact ⟨rfl, rfl⟩
    | ok b =>
      simp only [Except.mapError]
      rcases k.roster.put b with ⟨_ | _, roster⟩ <;> exact ⟨rfl, rfl⟩

/-- A rule is accepted when its binding is right by itself and admitted. -/
theorem Lists.bind_isOk (hl : k.Lists kind bs) (target : String)
    (ht : effect kind p.annotations target = effect kind p.annotations r.target) :
    (k.bind p.source r.host r.path p.annotations target p.since).answer.isOk = true ↔
      ∃ b, p.binding kind r = .ok b ∧ Admits bs b := by
  have hc := bind_cases (r := r) hl.kind ht
  cases hb : p.binding kind r with
  | error e =>
    rw [hb] at hc
    rw [hc.1]
    simp [Except.isOk, Except.toBool]
  | ok b =>
    rw [hb] at hc
    rw [hc.1, hl.lists.put_isOk hl.sound.roster]
    simp

theorem Lists.bind (hl : k.Lists kind bs) (target : String)
    (ht : effect kind p.annotations target = effect kind p.annotations r.target)
    (hb : p.binding kind r = .ok c) :
    (k.bind p.source r.host r.path p.annotations target p.since).state.Lists kind (settle c bs) where
  sound := hl.sound.bind _ _ _ _ _ _
  kind := (bind_evolves hl.sound _ _ _ _ _ _).kind.trans hl.kind
  lists := by
    have hc := bind_cases (r := r) hl.kind ht
    rw [hb] at hc
    rw [hc.2]
    exact hl.lists.put hl.sound.roster c

theorem Lists.removeSource (hl : k.Lists kind bs) (source : String) :
    (k.removeSource source).Lists kind (withoutSource source bs) :=
  ⟨hl.sound.removeSource source, hl.kind, hl.lists.removeSource hl.sound.roster source⟩

theorem Lists.begin (hl : k.Lists kind bs) : k.begin.Lists kind bs :=
  ⟨hl.sound.begin, hl.kind, hl.lists⟩

theorem Lists.commit (hl : k.Lists kind bs) : k.commit.Lists kind bs :=
  ⟨hl.sound.commit, hl.kind, hl.lists⟩

theorem lists_empty (kind : TableKind) : (Rulebook.empty kind).Lists kind [] :=
  ⟨.empty kind, rfl, Roster.lists_empty⟩

end Rulebook

/-! ## Plans -/

namespace Plan

variable {p : Plan} {kind : TableKind} {r : PathRule} {rs : List PathRule} {bs : List Binding}

/-- Whether the plan puts its rules into the rulebook of a kind. -/
def asks (p : Plan) : TableKind → Bool
  | .route => true
  | .redirect => p.redirected

/-- Nothing is wrong with the rules by themselves. -/
def Valid (p : Plan) (rs : List PathRule) (kind : TableKind) : Prop :=
  p.asks kind = true → ∀ r ∈ rs, ∃ b, p.binding kind r = .ok b

/-- The bindings that rules come to in the rulebook of a kind. -/
def claims (p : Plan) (rs : List PathRule) (kind : TableKind) : List Binding :=
  if p.asks kind then rs.filterMap fun r => (p.binding kind r).toOption else []

theorem mem_claims_iff {c : Binding} :
    c ∈ p.claims rs kind ↔ p.asks kind = true ∧ ∃ r ∈ rs, p.binding kind r = .ok c := by
  unfold claims
  split <;> simp_all [toOption_eq_some]

theorem mem_claims {c : Binding} (h : c ∈ p.claims rs kind) : c.source = p.source ∧ c.since = p.since := by
  obtain ⟨_, r, _, hb⟩ := mem_claims_iff.1 h
  obtain ⟨hsource, hsince, _⟩ := Rulebook.binding_eq_ok hb
  exact ⟨hsource, hsince⟩

theorem claims_cons : p.claims (r :: rs) kind = p.claims [r] kind ++ p.claims rs kind := by
  rw [claims, claims, claims]
  split
  · rw [← List.filterMap_append]; rfl
  · rfl

theorem valid_cons : p.Valid (r :: rs) kind ↔ p.Valid [r] kind ∧ p.Valid rs kind := by
  simp only [Valid, List.forall_mem_cons, List.not_mem_nil, false_implies, implies_true, and_true,
    imp_and]

theorem valid_single : p.Valid [r] kind ∧ AdmitsAll bs (p.claims [r] kind) ↔
    (p.asks kind = true → ∃ b, p.binding kind r = .ok b ∧ Admits bs b) := by
  cases ha : p.asks kind with
  | false => simp [Valid, claims, ha, AdmitsAll]
  | true => cases hb : p.binding kind r <;> simp [Valid, claims, ha, hb, AdmitsAll, Except.toOption]

end Plan

namespace Gateway

theorem forall_kind {P : TableKind → Prop} : (∀ kind, P kind) ↔ P .route ∧ P .redirect :=
  ⟨fun h => ⟨h _, h _⟩, fun h kind => by cases kind; exacts [h.1, h.2]⟩

/-- The bindings of either kind. -/
abbrev Standing := TableKind → List Binding

namespace Books

variable {b : Books} {L : Standing} {p : Plan} {r : PathRule}

/-- Sound books, as the lists of their bindings. -/
structure Lists (b : Books) (L : Standing) : Prop where
  route : b.route.Lists .route (L .route)
  redirect : ∀ k, b.redirect = some k → k.Lists .redirect (L .redirect)
  absent : b.redirect = none → L .redirect = []

theorem Lists.sound (h : b.Lists L) : b.Sound := ⟨h.route.sound, fun k hk => (h.redirect k hk).sound⟩

theorem Lists.map {f : Rulebook → Rulebook} {F : List Binding → List Binding} (h : b.Lists L)
    (hf : ∀ k kind bs, k.Lists kind bs → (f k).Lists kind (F bs)) (hnil : F [] = []) :
    (b.map f).Lists fun kind => F (L kind) := by
  refine ⟨hf _ _ _ h.route, fun k hk => ?_, fun hn => ?_⟩
  · obtain ⟨k', hk', rfl⟩ := Option.map_eq_some_iff.1 hk
    exact hf _ _ _ (h.redirect k' hk')
  · rw [h.absent (Option.map_eq_none_iff.1 hn), hnil]

theorem Lists.opened (h : b.Lists L) (source : String) :
    ((b.map Rulebook.begin).map (·.removeSource source)).Lists
      fun kind => withoutSource source (L kind) := by
  have hbegun := h.map (F := id) (fun k kind bs hk => hk.begin) rfl
  exact hbegun.map (fun k kind bs hk => hk.removeSource source) rfl

theorem Evolves.redirect_isSome {b b' : Books} (h : b.Evolves b') :
    b'.redirect.isSome = b.redirect.isSome := by
  have hr := h.redirect
  generalize b.redirect = d at hr
  generalize b'.redirect = d' at hr
  cases hr <;> rfl

theorem putRule_route {e : Rejection}
    (he : (b.route.bind p.source r.host r.path p.annotations r.target p.since).answer = .error e) :
    (b.putRule p r).answer = .error e := by
  rw [putRule]
  simp only [he]

theorem putRule_alone (hp : p.redirected = false) {a : Admission}
    (ha : (b.route.bind p.source r.host r.path p.annotations r.target p.since).answer = .ok a) :
    (b.putRule p r).answer = .ok () ∧ (b.putRule p r).state =
      { b with route := (b.route.bind p.source r.host r.path p.annotations r.target p.since).state } := by
  rw [putRule]
  simp [ha, hp]

theorem putRule_both (hp : p.redirected = true) {k : Rulebook} (hk : b.redirect = some k) {a : Admission}
    (ha : (b.route.bind p.source r.host r.path p.annotations r.target p.since).answer = .ok a) :
    (b.putRule p r).answer.isOk =
        (k.bind p.source r.host r.path p.annotations "" p.since).answer.isOk ∧
      (b.putRule p r).state =
        ⟨(b.route.bind p.source r.host r.path p.annotations r.target p.since).state,
          some (k.bind p.source r.host r.path p.annotations "" p.since).state⟩ := by
  rw [putRule]
  simp only [ha, hp, hk, if_true]
  refine ⟨?_, trivial⟩
  cases (k.bind p.source r.host r.path p.annotations "" p.since).answer <;> rfl

/-- **When a rule is accepted**, and what the books hold then. -/
theorem Lists.putRule (h : b.Lists L) (hp : p.redirected = true → b.redirect.isSome = true) :
    ((b.putRule p r).answer.isOk = true ↔
      ∀ kind, p.Valid [r] kind ∧ AdmitsAll (L kind) (p.claims [r] kind)) ∧
    ((b.putRule p r).answer.isOk = true →
      (b.putRule p r).state.Lists fun kind => settleAll (p.claims [r] kind) (L kind)) := by
  have hroute := h.route.bind_isOk (p := p) (r := r) r.target rfl
  rw [forall_kind, Plan.valid_single, Plan.valid_single]
  simp only [Plan.asks, forall_const, ← hroute]
  cases ha : (b.route.bind p.source r.host r.path p.annotations r.target p.since).answer with
  | error e =>
    rw [putRule_route ha]
    simp [Except.isOk, Except.toBool]
  | ok a =>
    obtain ⟨c, hc, _⟩ := hroute.1 (by rw [ha]; rfl)
    have hlroute := h.route.bind (p := p) (r := r) r.target rfl hc
    have hcroute : p.claims [r] .route = [c] := by simp [Plan.claims, Plan.asks, hc, Except.toOption]
    cases hred : p.redirected with
    | false =>
      obtain ⟨hanswer, hstate⟩ := putRule_alone hred ha
      have hnone : p.claims [r] .redirect = [] := by simp [Plan.claims, Plan.asks, hred]
      rw [hanswer, hstate]
      refine ⟨by simp [Except.isOk, Except.toBool], fun _ => ⟨?_, fun k hk => ?_, fun hn => ?_⟩⟩
      · rw [hcroute]; exact hlroute
      · rw [hnone]; exact h.redirect k hk
      · rw [hnone]; exact h.absent hn
    | true =>
      obtain ⟨k, hk⟩ := Option.isSome_iff_exists.1 (hp hred)
      obtain ⟨hanswer, hstate⟩ := putRule_both hred hk ha
      have hredirect := (h.redirect k hk).bind_isOk (p := p) (r := r) "" rfl
      rw [hanswer, hstate, hredirect]
      refine ⟨by simp [Except.isOk, Except.toBool], fun hadmitted => ?_⟩
      obtain ⟨d, hd, _⟩ := hadmitted
      refine ⟨?_, fun k' hk' => ?_, fun hn => by cases hn⟩
      · rw [hcroute]; exact hlroute
      · cases hk'
        have hcredirect : p.claims [r] .redirect = [d] := by
          simp [Plan.claims, Plan.asks, hred, hd, Except.toOption]
        rw [hcredirect]
        exact (h.redirect k hk).bind (p := p) (r := r) "" rfl hd

/-- **When rules are accepted**, and what the books hold then. -/
theorem Lists.putRules (h : b.Lists L) (rs : List PathRule)
    (hp : p.redirected = true → b.redirect.isSome = true) :
    ((b.putRules p rs).answer.isOk = true ↔
      ∀ kind, p.Valid rs kind ∧ AdmitsAll (L kind) (p.claims rs kind)) ∧
    ((b.putRules p rs).answer.isOk = true →
      (b.putRules p rs).state.Lists fun kind => settleAll (p.claims rs kind) (L kind)) := by
  induction rs generalizing b L with
  | nil =>
    have hnone : ∀ kind, p.claims [] kind = [] := fun kind => by simp [Plan.claims]
    simp only [hnone]
    exact ⟨iff_of_true rfl fun _ => ⟨fun _ _ hr => (List.not_mem_nil hr).elim, trivial⟩, fun _ => h⟩
  | cons r rs ih =>
    obtain ⟨hok, hlists⟩ := h.putRule (r := r) hp
    have hclaims : ∀ kind, (p.Valid (r :: rs) kind ∧ AdmitsAll (L kind) (p.claims (r :: rs) kind)) ↔
        (p.Valid [r] kind ∧ AdmitsAll (L kind) (p.claims [r] kind)) ∧ p.Valid rs kind ∧
          AdmitsAll (settleAll (p.claims [r] kind) (L kind)) (p.claims rs kind) := by
      intro kind
      rw [Plan.valid_cons, Plan.claims_cons, admitsAll_append, and_and_and_comm]
    simp only [hclaims, forall_and (p := fun kind => p.Valid [r] kind ∧ _), ← hok]
    have hsettle : ∀ kind, settleAll (p.claims (r :: rs) kind) (L kind) =
        settleAll (p.claims rs kind) (settleAll (p.claims [r] kind) (L kind)) := fun kind => by
      rw [Plan.claims_cons, settleAll_settleAll]
    simp only [hsettle]
    rw [Books.putRules]
    cases ha : (b.putRule p r).answer with
    | error e => simp [Except.isOk, Except.toBool]
    | ok u =>
      have hkept := (putRule_keeps h.sound p r).1.redirect_isSome
      obtain ⟨hrest, hlast⟩ := ih (hlists (by rw [ha]; rfl)) fun hred => hkept.trans (hp hred)
      dsimp only
      exact ⟨hrest.trans (by simp [Except.isOk, Except.toBool]), hlast⟩

end Books

variable {g : Gateway} {o : IngressObject} {L : Standing} {enabled : Bool}

/-! ## Upserts and deletions -/

/-- What an object claims in the rulebook of a kind; nothing where it has no
plan. -/
def turn (enabled : Bool) (o : IngressObject) (kind : TableKind) : Turn :=
  ⟨o.key, match plan enabled o with
    | .ok p => p.claims p.rules kind
    | .error _ => []⟩

/-- The splits an object asks for. -/
def splitsOf (enabled : Bool) (o : IngressObject) : Option ClusterSplits :=
  match plan enabled o with
  | .ok p => p.splits
  | .error _ => none

/-- Nothing is wrong with an object by itself. -/
def Valid (enabled : Bool) (o : IngressObject) : Prop :=
  ∃ p, plan enabled o = .ok p ∧ ∀ kind, p.Valid p.rules kind

theorem mem_turn_iff {kind : TableKind} {c : Binding} :
    c ∈ (turn enabled o kind).claims ↔
      ∃ p, plan enabled o = .ok p ∧ p.asks kind = true ∧ ∃ r ∈ p.rules, p.binding kind r = .ok c := by
  unfold turn
  cases plan enabled o <;> simp [Plan.mem_claims_iff]

theorem mem_turn {kind : TableKind} {c : Binding} (h : c ∈ (turn enabled o kind).claims) :
    c.source = o.key ∧ c.since = o.created := by
  obtain ⟨p, hp, _, r, _, hb⟩ := mem_turn_iff.1 h
  obtain ⟨hsource, hsince, _⟩ := Rulebook.binding_eq_ok hb
  obtain ⟨hkey, hcreated, _⟩ := plan_eq_ok hp
  exact ⟨hsource.trans hkey, hsince.trans hcreated⟩

theorem putPlan_lists (h : g.books.Lists L) {p : Plan} (hp : plan g.redirectEnabled o = .ok p) :
    ((g.putPlan p).answer.isOk = true ↔ ∀ kind, p.Valid p.rules kind ∧
      AdmitsAll (withoutSource o.key (L kind)) (turn g.redirectEnabled o kind).claims) ∧
    ((g.putPlan p).answer.isOk = true →
      (g.putPlan p).state.Lists fun kind => renew (L kind) (turn g.redirectEnabled o kind)) := by
  obtain ⟨hsource, _, hred⟩ := plan_eq_ok hp
  have hput := (h.opened p.source).putRules (p := p) p.rules fun hr => by
    simpa [Books.map, books, Gateway.redirectEnabled] using hred hr
  simpa only [turn, hp, renew, putPlan, ← hsource] using hput

/-- What an accepted object changes. -/
structure Renewed (g g' : Gateway) (o : IngressObject) (L : Standing) : Prop where
  enabled : g'.redirectEnabled = g.redirectEnabled
  lists : g'.books.Lists fun kind => renew (L kind) (turn g.redirectEnabled o kind)
  splits : g'.splits = g.splits.put o.key (splitsOf g.redirectEnabled o)
  backends : g'.backends = g.backends.register o.key o.services

/-- **When an object is accepted**, and what is in force then. -/
theorem upsert_isOk (h : g.books.Lists L) (o : IngressObject) :
    ((g.upsert o).answer.isOk = true ↔ Valid g.redirectEnabled o ∧
      ∀ kind, AdmitsAll (withoutSource o.key (L kind)) (turn g.redirectEnabled o kind).claims) ∧
    ((g.upsert o).answer.isOk = true → Renewed g (g.upsert o).state o L) := by
  have hcases := upsert_cases h.sound o
  generalize (g.upsert o).answer = answer at hcases ⊢
  generalize (g.upsert o).state = state at hcases ⊢
  cases hcases with
  | refused e books changed cause =>
    refine ⟨iff_of_false (by simp [Except.isOk, Except.toBool]) ?_, fun hn => by cases hn⟩
    rintro ⟨⟨p, hp, hvalid⟩, hadmits⟩
    have hok := (putPlan_lists h hp).1.2 fun kind => ⟨hvalid kind, hadmits kind⟩
    rw [cause p hp] at hok
    cases hok
  | applied p tables planned put rendered =>
    obtain ⟨hok, hlists⟩ := putPlan_lists h planned
    have hput : (g.putPlan p).answer.isOk = true := by rw [put]; rfl
    have hboth := hok.1 hput
    have hnew := (hlists hput).map (F := id) (fun k kind bs hk => hk.commit) rfl
    obtain ⟨hsource, _, _⟩ := plan_eq_ok planned
    refine ⟨iff_of_true rfl ⟨⟨p, planned, fun kind => (hboth kind).1⟩, fun kind => (hboth kind).2⟩,
      fun _ => ⟨?_, hnew, ?_, ?_⟩⟩
    · have hkept := (putPlan_keeps h.sound p).1.redirect_isSome
      simpa [publish, withBooks, Gateway.redirectEnabled, Books.map, books] using hkept
    · simp only [publish, splitsOf, planned, hsource]
    · simp only [publish, hsource]

theorem delete_lists (h : g.books.Lists L) (namespaceName name : String) :
    let source := sourceKey namespaceName name
    let g' := (g.delete namespaceName name).state
    (g.delete namespaceName name).answer = .ok () ∧ g'.redirectEnabled = g.redirectEnabled ∧
      (g'.books.Lists fun kind => withoutSource source (L kind)) ∧
      g'.splits = g.splits.erase source ∧ g'.backends = g.backends.erase source := by
  obtain ⟨hanswer, tables, _, hstate⟩ := delete_cases h.sound namespaceName name
  rw [hanswer, hstate]
  refine ⟨rfl, ?_, h.map (fun k kind bs hk => hk.removeSource _) rfl, rfl, rfl⟩
  simp [publish, without, withBooks, Gateway.redirectEnabled, Books.map, books]

end Gateway

end IngressRouting
