/-
Bindings that come to the rosters. Of the rules that are put, a binding gets to a roster where it
passes the checks of the rulebook, in order, up to the first that is refused (`Gateway.arrivals`).
What is sampled while rules are put is one sample for each of them (`Kinds.putRules_tallies`).
-/
import IngressRouting.Proofs.Gateway.Claims
import IngressRouting.Proofs.Gateway.Operations
import IngressRouting.Proofs.Meters

namespace IngressRouting

/-! ## Bindings that come to a roster -/

/-- The binding of a rule that gets past the checks of a rulebook to its roster, if it does. -/
def Plan.arrivals (p : Plan) (kind : TableKind) (r : PathRule) : List Binding :=
  (p.binding kind r).toOption.toList

namespace Gateway

/-- The bindings that come to the roster of a kind when a rule is put. The redirect rulebook has
its turn where the route rulebook has accepted the rule. -/
def Books.ruleArrivals (b : Books) (p : Plan) (r : PathRule) : TableKind → List Binding
  | .route => p.arrivals .route r
  | .redirect =>
    let route := b.route.bind p.source r.host r.path p.annotations r.target p.since
    if route.answer.isOk ∧ p.redirected ∧ b.redirect.isSome then p.arrivals .redirect r else []

/-- The same of rules, up to the first that is refused. -/
def Books.arrivals (b : Books) (p : Plan) (kind : TableKind) : List PathRule → List Binding
  | [] => []
  | r :: rs =>
    b.ruleArrivals p r kind ++
      if (b.putRule p r).answer.isOk then (b.putRule p r).state.arrivals p kind rs else []

/-- The same of an event: nothing comes of an object without a plan. -/
def arrivals (g : Gateway) (kind : TableKind) : Event → List Binding
  | .upsert o =>
    match plan g.redirectEnabled o with
    | .error _ => []
    | .ok p => ((g.books.map Rulebook.begin).map (·.removeSource p.source)).arrivals p kind p.rules
  | .delete _ _ => []

/-- The same of events one after the other. -/
def allArrivals (g : Gateway) (kind : TableKind) : List Event → List Binding
  | [] => []
  | e :: es => g.arrivals kind e ++ (g.applyEvent e).state.allArrivals kind es

end Gateway

/-! ## Samples of what is put -/

/-- The samples are of bindings that came, as many for each kind as are listed. -/
structure Tallies (xs : List Sample) (listed : TableKind → List Binding) : Prop where
  arrives : ∀ x ∈ xs, ∃ kind, x.Arrives kind
  count : ∀ kind, xs.countP (·.arrival? = some kind) = (listed kind).length

namespace Tallies

variable {xs ys : List Sample} {listed listed' : TableKind → List Binding}

theorem nil : Tallies [] fun _ => [] := ⟨fun _ hx => (nomatch hx), fun _ => rfl⟩

theorem append (h : Tallies xs listed) (h' : Tallies ys listed') :
    Tallies (xs ++ ys) fun kind => listed kind ++ listed' kind := by
  refine ⟨fun x hx => ?_, fun kind => ?_⟩
  · rcases List.mem_append.1 hx with hx | hx
    · exact h.arrives x hx
    · exact h'.arrives x hx
  · rw [List.countP_append, List.length_append, h.count, h'.count]

theorem single {x : Sample} {kind : TableKind} (h : x.Arrives kind) (b : Binding) :
    Tallies [x] fun kind' => if kind' = kind then [b] else [] := by
  refine ⟨fun y hy => ⟨kind, List.mem_singleton.1 hy ▸ h⟩, fun kind' => ?_⟩
  rw [List.countP_singleton, h.arrival?]
  by_cases hkind : kind' = kind
  · simp [hkind]
  · simp [hkind, Ne.symm hkind]

theorem congr (h : Tallies xs listed) (hsame : ∀ kind, listed kind = listed' kind) :
    Tallies xs listed' := funext hsame ▸ h

end Tallies

theorem Rulebook.bind_tallies {k : Rulebook} {kind : TableKind} (hk : k.kind = kind) (p : Plan)
    (r : PathRule) (target : String)
    (ht : effect kind p.annotations target = effect kind p.annotations r.target) :
    Tallies (k.bind p.source r.host r.path p.annotations target p.since).samples
      fun kind' => if kind' = kind then p.arrivals kind r else [] := by
  subst hk
  have hnone : Tallies [] fun kind' => if kind' = k.kind then ([] : List Binding) else [] :=
    Tallies.nil.congr fun kind' => by split <;> rfl
  rw [Plan.arrivals, Plan.binding, ← ht]
  cases he : effect k.kind p.annotations target with
  | error e =>
    simp only [Rulebook.bind, he]
    exact hnone
  | ok eff =>
    simp only [Rulebook.bind, he, Rulebook.put, Bind.bind, Except.bind]
    cases check k.kind ⟨p.source, r.host, r.path, p.annotations, p.since, eff⟩ with
    | error f => exact hnone
    | ok b =>
      simp only [Except.mapError, Except.toOption, Option.toList_some]
      rcases k.roster.put b with ⟨c | a, roster⟩
      · exact .single .conflict b
      · exact .single (.put a) b

namespace Gateway

namespace Books

variable {b b' : Books} {p : Plan} {r : PathRule} {balance : ClusterSplits}

/-- Each rulebook is of its kind. -/
structure Kinds (b : Books) : Prop where
  route : b.route.kind = .route
  redirect : ∀ k, b.redirect = some k → k.kind = .redirect

theorem Lists.kinds {L : Standing} (h : b.Lists L) : b.Kinds :=
  ⟨h.route.kind, fun k hk => (h.redirect k hk).kind⟩

theorem Kinds.map {f : Rulebook → Rulebook} (h : b.Kinds) (hf : ∀ k, (f k).kind = k.kind) :
    (b.map f).Kinds := by
  refine ⟨(hf _).trans h.route, fun k hk => ?_⟩
  obtain ⟨k', hk', rfl⟩ := Option.map_eq_some_iff.1 hk
  exact (hf k').trans (h.redirect k' hk')

theorem Kinds.evolves (h : b.Kinds) (he : b.Evolves b') : b'.Kinds := by
  refine ⟨he.route.kind.trans h.route, fun k' hk' => ?_⟩
  have hr := he.redirect
  rw [hk'] at hr
  generalize hd : b.redirect = d at hr
  cases hr with
  | some hk => exact hk.kind.trans (h.redirect _ hd)

theorem Kinds.putRule_tallies (h : b.Kinds) (p : Plan) (r : PathRule) :
    Tallies (b.putRule p r).samples (b.ruleArrivals p r) := by
  have hroute := Rulebook.bind_tallies h.route p r r.target rfl
  rw [putRule]
  cases ha : (b.route.bind p.source r.host r.path p.annotations r.target p.since).answer with
  | error e =>
    refine hroute.congr fun kind => ?_
    cases kind with
    | route => rfl
    | redirect => simp [ruleArrivals, ha, Except.isOk, Except.toBool]
  | ok a =>
    dsimp only
    split
    · next hnone =>
      refine hroute.congr fun kind => ?_
      cases kind with
      | route => rfl
      | redirect =>
        have hskip : ¬ (p.redirected = true ∧ b.redirect.isSome = true) := by
          rintro ⟨hred, hsome⟩
          rw [if_pos hred] at hnone
          rw [hnone] at hsome
          cases hsome
        simp [ruleArrivals, hskip]
    · next book hbook =>
      split at hbook
      · next hred =>
        have hredirect := Rulebook.bind_tallies (h.redirect book hbook) p r "" rfl
        refine (hroute.append hredirect).congr fun kind => ?_
        cases kind with
        | route => simp [ruleArrivals]
        | redirect => simp [ruleArrivals, ha, hred, hbook, Except.isOk, Except.toBool]
      · cases hbook

/-- **Putting rules is sampled** where their bindings come to the rosters. -/
theorem Kinds.putRules_tallies (h : b.Kinds) (hs : b.Sound) (p : Plan) (rs : List PathRule) :
    Tallies (b.putRules p rs).samples fun kind => b.arrivals p kind rs := by
  induction rs generalizing b with
  | nil => exact .nil
  | cons r rs ih =>
    have hfirst := h.putRule_tallies p r
    obtain ⟨hevolves, hsound⟩ := putRule_keeps hs p r
    rw [putRules]
    cases ha : (b.putRule p r).answer with
    | error e =>
      refine hfirst.congr fun kind => ?_
      simp [arrivals, ha, Except.isOk, Except.toBool]
    | ok u =>
      refine (hfirst.append (ih (h.evolves hevolves) hsound)).congr fun kind => ?_
      simp [arrivals, ha, Except.isOk, Except.toBool]

theorem ruleArrivals_of_accepted {kind : TableKind}
    (hp : p.redirected = true → b.redirect.isSome = true)
    (hok : (b.putRule p r).answer.isOk = true) : b.ruleArrivals p r kind = p.claims [r] kind := by
  have hsingle (kind : TableKind) : p.arrivals kind r = [r].filterMap fun r =>
      (p.binding kind r).toOption := by
    unfold Plan.arrivals
    cases h : (p.binding kind r).toOption <;> simp [h]
  unfold Plan.claims
  rw [← hsingle]
  cases kind with
  | route => rfl
  | redirect =>
    cases ha : (b.route.bind p.source r.host r.path p.annotations r.target p.since).answer with
    | error e =>
      rw [putRule_route ha] at hok
      cases hok
    | ok a =>
      by_cases hred : p.redirected = true
      · simp [ruleArrivals, Plan.asks, ha, hred, hp hred, Except.isOk, Except.toBool]
      · simp [ruleArrivals, Plan.asks, hred]

/-- Of rules that are all accepted, every claim comes to a roster. -/
theorem arrivals_of_accepted {kind : TableKind} {rs : List PathRule} (hs : b.Sound)
    (hp : p.redirected = true → b.redirect.isSome = true)
    (hok : (b.putRules p rs).answer.isOk = true) : b.arrivals p kind rs = p.claims rs kind := by
  induction rs generalizing b with
  | nil => simp [arrivals, Plan.claims]
  | cons r rs ih =>
    rw [putRules] at hok
    cases ha : (b.putRule p r).answer with
    | error e =>
      rw [ha] at hok
      cases hok
    | ok u =>
      rw [ha] at hok
      have hfirst : (b.putRule p r).answer.isOk = true := by rw [ha]; rfl
      obtain ⟨hevolves, hsound⟩ := putRule_keeps hs p r
      have hrest := ih hsound (fun hred => hevolves.redirect_isSome.trans (hp hred)) hok
      rw [arrivals, ruleArrivals_of_accepted hp hfirst, if_pos hfirst, hrest, ← Plan.claims_cons]

end Books

/-- **Of an object that is accepted, every claim comes to a roster.** -/
theorem Settled.arrivals_of_accepted {g : Gateway} (h : g.Settled) {o : IngressObject}
    (hok : (g.upsert o).answer = .ok ()) (kind : TableKind) :
    g.arrivals kind (.upsert o) = (turn g.redirectEnabled o kind).claims := by
  have hcases := upsert_cases h.sound o
  rw [hok] at hcases
  generalize (g.upsert o).state = state at hcases
  cases hcases with
  | applied p tables planned put rendered =>
    have hcleared : ((g.books.map Rulebook.begin).map (·.removeSource p.source)).Sound :=
      (begin_sound h.sound).map fun _ hk => hk.removeSource p.source
    have hput : (g.putPlan p).answer.isOk = true := by rw [put]; rfl
    simp only [arrivals, turn, planned]
    refine Books.arrivals_of_accepted hcleared (fun hred => ?_) hput
    simpa [Books.map, books, Gateway.redirectEnabled] using (plan_eq_ok planned).2.2 hred

end Gateway

end IngressRouting
