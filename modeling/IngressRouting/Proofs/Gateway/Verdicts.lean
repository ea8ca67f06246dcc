/-
What is answered, in full: not only whether an object is accepted, but what is wrong
with it or with whom it is in conflict.

Rendering has no say in it (`upsert_answer`), since a rulebook always compiles: what
is in it has passed a check that implies every later one (`compile_never_fails`).

Over lists of bindings the answer is plain (`verdict`). It depends on the older bindings of
other sources only (`verdict_congr`): what an object puts is as old as the object, so
its later rules meet what its first rule met.
-/
import IngressRouting.Proofs.Gateway.Claims
import IngressRouting.Proofs.Rulebook.Runs

namespace IngressRouting

namespace Gateway

variable {g : Gateway} {o : IngressObject}

/-! ## Rendering -/

/-- Nothing that the gateway does fails because of a table. -/
structure NeverFails (g : Gateway) : Prop where
  /-- Whatever a plan has put, refused or not, can be rendered. -/
  render : ∀ p splits, ∃ tables, ((g.putPlan p).state.render splits).1 = .ok tables
  upsert : ∀ o, (g.upsert o).answer = (do
    let p ← plan g.redirectEnabled o
    (g.putPlan p).answer)
  delete : ∀ namespaceName name, (g.delete namespaceName name).answer = .ok ()

theorem neverFails_of_sound (h : g.books.Sound) : g.NeverFails where
  render p splits := by
    obtain ⟨tables, hr, _⟩ := (putPlan_keeps h p).2.render splits
    exact ⟨tables, hr⟩
  upsert o := upsert_answer h o
  delete namespaceName name := (delete_cases h namespaceName name).1

/-- **Compiling never fails**: after any run, with whatever was accepted, refused or rolled
back, a rulebook compiles. So a gateway never fails to render its tables, in no deletion
and in no upsert. -/
theorem compile_never_fails :
    (∀ kind k, Rulebook.Reachable kind k → ∃ rules, k.compile.1 = .ok rules) ∧
      ∀ enabled g, Gateway.Reachable enabled g → g.NeverFails := by
  constructor
  · intro kind k h
    have hsound : k.Sound := h.checked.sound
    exact hsound.compile
  · intro enabled g h
    exact neverFails_of_sound h.settled.sound

/-- A rulebook that refuses a host, a declaration of the other kind and a younger source,
and takes a removal back; a gateway that refuses an object. -/
theorem compile_never_fails_of_run :
    let taken := ((Rulebook.empty .route).bind "ns/a" "" "/foo" ∅ "ns_a" 1).state
    let badHost := (taken.bind "ns/b" "*a" "/foo" ∅ "ns_b" 1).state
    let redirect := Effect.redirect ⟨.schemeSet, ["https"]⟩ 302
    let otherKind := (badHost.put ⟨"ns/c", "", "/foo", ∅, 1, redirect⟩).state
    let k := ((otherKind.bind "ns/d" "" "/foo" ∅ "ns_d" 2).state.begin.removeSource "ns/a").rollback
    let g := (((Gateway.empty true).upsert (plainObject "a" 1)).state.upsert (plainObject "b" 2)).state
    Rulebook.Reachable .route k ∧ k.roster.size = 1 ∧ (∃ rules, k.compile.1 = .ok rules) ∧
      Gateway.Reachable true g ∧ g.NeverFails := by
  intro taken badHost redirect otherKind k g
  have hk : Rulebook.Reachable .route k :=
    .rollback (.removeSource (.begin (.bind (.put (.bind (.bind .empty ..) ..) _) ..)) _)
  have hg : Gateway.Reachable true g := .upsert (.upsert .empty _) _
  exact ⟨hk, by decide +kernel, compile_never_fails.1 .route k hk, hg, compile_never_fails.2 true g hg⟩

end Gateway

/-! ## Over lists of bindings -/

/-- The bindings that are older. -/
def older (t : UInt64) (bs : List Binding) : List Binding := bs.filter (·.since < t)

/-- What a newcomer is answered over a list of bindings: it is in conflict with an older
rival. -/
def challenge (bs : List Binding) (b : Binding) : Except Conflict Unit :=
  match bs.find? fun x => b.Rivals x ∧ x.since < b.since with
  | none => .ok ()
  | some x => .error ⟨b.source, x.source, b.host, b.path⟩

section older

variable {b c : Binding} {bs bs' cs : List Binding} {t : UInt64}

/-- Only what is older decides about a newcomer. -/
theorem challenge_older : challenge (older b.since bs) b = challenge bs b := by
  have hfind : (older b.since bs).find? (fun x => b.Rivals x ∧ x.since < b.since) =
      bs.find? fun x => b.Rivals x ∧ x.since < b.since := by
    unfold older
    rw [List.find?_filter]
    congr 1
    funext x
    by_cases hlt : x.since < b.since <;> simp [hlt]
  unfold challenge
  rw [hfind]

theorem older_settle (h : t ≤ c.since) : older t (settle c bs) = older t bs := by
  have hc : ¬ c.since < t := UInt64.not_lt.2 h
  unfold older
  induction bs with
  | nil => simp [settle, hc]
  | cons x bs ih =>
    unfold settle
    split
    · split
      · next hlt =>
        have hx : ¬ x.since < t := UInt64.not_lt.2 (UInt64.le_trans h (UInt64.le_of_lt hlt))
        simp [hc, hx]
      · rfl
    · simp only [List.filter_cons, ih]

theorem older_settleAll (h : ∀ c ∈ cs, t ≤ c.since) : older t (settleAll cs bs) = older t bs := by
  induction cs generalizing bs with
  | nil => rfl
  | cons c cs ih =>
    have hrest : older t (settleAll cs (settle c bs)) = older t (settle c bs) :=
      ih fun d hd => h d (List.mem_cons_of_mem _ hd)
    exact hrest.trans (older_settle (h c List.mem_cons_self))

end older

theorem Roster.Lists.put_answer {r : Roster} {bs : List Binding} (hl : r.Lists bs) (h : r.Sound)
    (b : Binding) : (r.put b).1.map (fun _ => ()) = challenge bs b := by
  have hput := h.put b
  have hmem : ∀ x, x ∈ bs ↔ ∃ slot, r.get? slot = some x := fun x => hl.mem_iff h
  have hfree : (∀ x ∈ bs, b.Rivals x → ¬ x.since < b.since) → challenge bs b = .ok () := by
    intro hnone
    have hfind : bs.find? (fun x => b.Rivals x ∧ x.since < b.since) = none := by
      simpa using hnone
    unfold challenge
    rw [hfind]
  have hone : ∀ {slot old}, r.Rival b slot old → ∀ x ∈ bs, b.Rivals x → x = old := by
    intro slot old rival x hx hr
    obtain ⟨s, hs⟩ := (hmem x).1 hx
    exact h.rival_unique rival (h.mem_listing.2 ⟨⟨s, hs⟩, hr.1.symm, hr.2.1.symm⟩) hr
  generalize (r.put b).1 = answer at hput
  generalize (r.put b).2 = state at hput
  cases hput with
  | inserted free =>
    refine (hfree fun x hx hr _ => ?_).symm
    obtain ⟨slot, hs⟩ := (hmem x).1 hx
    exact free slot x ⟨hs, hr.1, hr.2.1, hr.2.2⟩
  | replaced slot old rival lt =>
    refine (hfree fun x hx hr hlt => ?_).symm
    rw [hone rival x hx hr] at hlt
    exact UInt64.lt_asymm lt hlt
  | unchanged slot old rival same =>
    refine (hfree fun x hx hr hlt => ?_).symm
    rw [hone rival x hx hr, same] at hlt
    exact UInt64.lt_irrefl _ hlt
  | refused slot old rival newer =>
    have hold : old ∈ bs := (hmem old).2 ⟨slot, rival.held⟩
    unfold challenge
    cases hf : bs.find? (fun x => b.Rivals x ∧ x.since < b.since) with
    | none =>
      have hnone := List.find?_eq_none.1 hf old hold
      simp [rival.rivals, newer] at hnone
    | some x =>
      have hx := List.find?_some hf
      simp only [decide_eq_true_iff] at hx
      rw [hone rival x (List.mem_of_find?_eq_some hf) hx.1]
      rfl

namespace Plan

variable {p : Plan} {kind : TableKind} {r : PathRule} {bs bs' : List Binding} {L L' : Gateway.Standing}

/-- What a rule is answered over the bindings of a kind. -/
def judge (p : Plan) (kind : TableKind) (bs : List Binding) (r : PathRule) : Except Rejection Unit := do
  let b ← p.binding kind r
  (challenge bs b).mapError .conflict

/-- What a rule is answered over the bindings of both kinds. -/
def judgeRule (p : Plan) (L : Gateway.Standing) (r : PathRule) : Except Rejection Unit := do
  p.judge .route (L .route) r
  if p.redirected then p.judge .redirect (L .redirect) r

theorem judge_congr (h : older p.since bs = older p.since bs') :
    p.judge kind bs r = p.judge kind bs' r := by
  unfold judge
  cases hb : p.binding kind r with
  | error e => rfl
  | ok b =>
    have hsince := (Rulebook.binding_eq_ok hb).2.1
    have hsame : challenge bs b = challenge bs' b := by
      rw [← challenge_older, hsince, h, ← hsince, challenge_older]
    simp [bind, Except.bind, hsame]

theorem judgeRule_congr (h : ∀ kind, older p.since (L kind) = older p.since (L' kind)) :
    p.judgeRule L = p.judgeRule L' := by
  funext r
  unfold judgeRule
  rw [judge_congr (h .route), judge_congr (h .redirect)]

end Plan

theorem Rulebook.Lists.bind_answer {k : Rulebook} {kind : TableKind} {bs : List Binding} {p : Plan}
    {r : PathRule} (hl : k.Lists kind bs) (target : String)
    (ht : effect kind p.annotations target = effect kind p.annotations r.target) :
    (k.bind p.source r.host r.path p.annotations target p.since).answer.map (fun _ => ()) =
      p.judge kind bs r := by
  obtain rfl := hl.kind
  unfold Plan.judge Plan.binding
  rw [← ht]
  cases he : effect k.kind p.annotations target with
  | error e => simp [Rulebook.bind, he, Bind.bind, Except.bind, Except.map]
  | ok eff =>
    simp only [Rulebook.bind, he, Rulebook.put, Bind.bind, Except.bind]
    cases check k.kind ⟨p.source, r.host, r.path, p.annotations, p.since, eff⟩ with
    | error f => rfl
    | ok b =>
      simp only [Except.mapError, ← hl.lists.put_answer hl.sound.roster b]
      rcases k.roster.put b with ⟨_ | _, roster⟩ <;> rfl

namespace Gateway

variable {g : Gateway} {b : Books} {L L' : Standing} {p : Plan} {r : PathRule} {o : IngressObject}

theorem Books.Lists.putRule_answer (h : b.Lists L)
    (hp : p.redirected = true → b.redirect.isSome = true) : (b.putRule p r).answer = p.judgeRule L r := by
  have hroute := h.route.bind_answer (p := p) (r := r) r.target rfl
  unfold Plan.judgeRule
  rw [← hroute]
  cases ha : (b.route.bind p.source r.host r.path p.annotations r.target p.since).answer with
  | error e =>
    rw [putRule_route ha]
    rfl
  | ok a =>
    cases hred : p.redirected with
    | false =>
      rw [(putRule_alone hred ha).1]
      rfl
    | true =>
      obtain ⟨k, hk⟩ := Option.isSome_iff_exists.1 (hp hred)
      have hredirect := (h.redirect k hk).bind_answer (p := p) (r := r) "" rfl
      simp only [if_true, ← hredirect]
      unfold Books.putRule
      simp only [ha, hred, hk, if_true]
      rfl

/-- **What rules are answered** depends on the bindings before the first of them. -/
theorem Books.Lists.putRules_answer (h : b.Lists L) (rs : List PathRule)
    (hp : p.redirected = true → b.redirect.isSome = true) :
    (b.putRules p rs).answer = rs.forM (p.judgeRule L) := by
  induction rs generalizing b L with
  | nil => rfl
  | cons r rs ih =>
    obtain ⟨_, hnext⟩ := h.putRule (r := r) hp
    have hfirst := h.putRule_answer (r := r) hp
    have hkept := (putRule_keeps h.sound p r).1.redirect_isSome
    unfold Books.putRules
    simp only [List.forM_eq_forM, List.forM_cons]
    rw [← hfirst]
    cases ha : (b.putRule p r).answer with
    | error e => rfl
    | ok u =>
      have hlists := hnext (by rw [ha]; rfl)
      have hsame : ∀ kind, older p.since (settleAll (p.claims [r] kind) (L kind)) =
          older p.since (L kind) := by
        intro kind
        refine older_settleAll fun c hc => ?_
        rw [(Plan.mem_claims hc).2]
        exact UInt64.le_refl _
      have hrest := ih hlists fun hred => hkept.trans (hp hred)
      rw [Plan.judgeRule_congr hsame] at hrest
      exact hrest

/-- What an object is answered over the bindings of other sources. -/
def verdict (enabled : Bool) (L : Standing) (o : IngressObject) : Except Rejection Unit := do
  let p ← plan enabled o
  p.rules.forM (p.judgeRule L)

/-- **What an object is answered**, in full. -/
theorem upsert_verdict (h : g.books.Lists L) (o : IngressObject) :
    (g.upsert o).answer = verdict g.redirectEnabled (fun kind => withoutSource o.key (L kind)) o := by
  rw [upsert_answer h.sound]
  unfold verdict
  cases hp : plan g.redirectEnabled o with
  | error e => rfl
  | ok p =>
    obtain ⟨hsource, _, hred⟩ := plan_eq_ok hp
    have hput := (h.opened p.source).putRules_answer (p := p) p.rules fun hr => by
      simpa [Books.map, books, Gateway.redirectEnabled] using hred hr
    rw [hsource] at hput
    simp only [bind, Except.bind, putPlan, hsource]
    exact hput

/-- **Only what is older decides about an object.** -/
theorem verdict_congr {enabled : Bool}
    (h : ∀ kind, older o.created (L kind) = older o.created (L' kind)) :
    verdict enabled L o = verdict enabled L' o := by
  unfold verdict
  cases hp : plan enabled o with
  | error e => rfl
  | ok p =>
    have hsince := (plan_eq_ok hp).2.1
    rw [← hsince] at h
    simp only [bind, Except.bind, Plan.judgeRule_congr h]

end Gateway

end IngressRouting
