/-
Gauges show the state. Samples are taken inside of operations that may be taken back; after any
run the gauges are right all the same (`Metered.accurate`), since a refused object has only
counted the bindings that came to the rosters, and tables are compiled where nothing is taken
back any more.
-/
import IngressRouting.Proofs.Gateway.Arrivals
import IngressRouting.Proofs.Gateway.Batches
import IngressRouting.Proofs.Gateway.Verdicts

namespace IngressRouting

/-! ## Gauges of the tables -/

/-- The table of a kind has been compiled, or could not be. -/
def Meters.Compiled (m : Meters) (kind : TableKind) : Prop :=
  ∃ ok, (m.get? (compileSeries kind ok)).isSome

/-- The gauges of a kind show how many rules there are in either tier. -/
structure Meters.Shows (m : Meters) (kind : TableKind) (rules : Rules) : Prop where
  basic : m.get? (ruleSeries kind "basic") = some rules.basic.length
  advanced : m.get? (ruleSeries kind "advanced") = some rules.advanced.length

/-- The same is measured of the tables. -/
structure Meters.SameTables (m m' : Meters) : Prop where
  compiles : ∀ kind ok, m'.get? (compileSeries kind ok) = m.get? (compileSeries kind ok)
  rules : ∀ kind tier, m'.get? (ruleSeries kind tier) = m.get? (ruleSeries kind tier)

/-- The gauges show what a rulebook compiles to now. Before the first compilation it has no
rules. -/
def Rulebook.Gauged (k : Rulebook) (kind : TableKind) (m : Meters) : Prop :=
  ∃ rules, k.compile.1 = .ok rules ∧ (m.Shows kind rules ∨ ¬ m.Compiled kind ∧ rules = ⟨[], []⟩)

section Tables

variable {k : Rulebook} {kind : TableKind} {m m' : Meters} {rules : Rules} {xs : List Sample}

theorem Meters.Shows.congr (h : m.Shows kind rules) (hsame : m.SameTables m') :
    m'.Shows kind rules :=
  ⟨(hsame.rules kind "basic").trans h.basic, (hsame.rules kind "advanced").trans h.advanced⟩

theorem Rulebook.Gauged.congr (h : k.Gauged kind m) (hsame : m.SameTables m') :
    k.Gauged kind m' := by
  obtain ⟨rules, hrules, hgauged⟩ := h
  refine ⟨rules, hrules, hgauged.imp (·.congr hsame) fun ⟨hnever, hnone⟩ => ⟨?_, hnone⟩⟩
  rintro ⟨ok, hok⟩
  exact hnever ⟨ok, by rwa [← hsame.compiles]⟩

theorem Meters.sameTables_recordAll
    (h : ∀ x ∈ xs, ∀ kind value, (∀ ok, x.update (.compiles kind ok) value = value) ∧
      ∀ tier, x.update (.rules kind tier) value = value) (m : Meters) :
    m.SameTables (m.recordAll xs) where
  compiles kind ok := get?_recordAll_of_others (s := .compiles kind ok)
    (fun x hx value => (h x hx kind value).1 ok) m
  rules kind tier := get?_recordAll_of_others (s := .rules kind tier)
    (fun x hx value => (h x hx kind value).2 tier) m

theorem Tallies.sameTables {listed : TableKind → List Binding} (h : Tallies xs listed)
    (m : Meters) : m.SameTables (m.recordAll xs) := by
  refine m.sameTables_recordAll fun x hx kind value => ?_
  obtain ⟨_, harrives⟩ := h.arrives x hx
  exact ⟨fun ok => harrives.update (by simp) (by simp) value,
    fun tier => harrives.update (by simp) (by simp) value⟩

theorem Rulebook.compile_samples (h : k.compile.1 = .ok rules) :
    k.compile.2 =
      [.compile k.kind true, .rules k.kind rules.basic.length rules.advanced.length] := by
  rw [Rulebook.compile] at h ⊢
  cases hr : k.roster.rules with
  | error f =>
    rw [hr] at h
    cases h
  | ok rules' =>
    rw [hr] at h
    cases h
    rfl

theorem Rulebook.kind?_of_mem_compile {x : Sample} (hx : x ∈ k.compile.2) :
    x.kind? = some k.kind ∧ x.arrival? = none := by
  rw [Rulebook.compile] at hx
  cases hr : k.roster.rules <;> simp only [hr, List.mem_cons, List.not_mem_nil, or_false] at hx
  · subst hx
    exact ⟨rfl, rfl⟩
  · rcases hx with rfl | rfl
    · exact ⟨rfl, rfl⟩
    · exact ⟨rfl, rfl⟩

/-- **Compiling sets the gauges.** -/
theorem Rulebook.shows_compile (h : k.compile.1 = .ok rules) (m : Meters) :
    (m.recordAll k.compile.2).Shows k.kind rules := by
  have hbasic := m.get?_recordAll k.compile.2 (.rules k.kind "basic")
  have hadvanced := m.get?_recordAll k.compile.2 (.rules k.kind "advanced")
  rw [compile_samples h] at hbasic hadvanced ⊢
  exact ⟨hbasic.trans (by simp [Sample.update]), hadvanced.trans (by simp [Sample.update])⟩

theorem Meters.Shows.compile (h : m.Shows kind rules) (hk : k.kind ≠ kind) :
    (m.recordAll k.compile.2).Shows kind rules := by
  have hkeep (tier : String) : (m.recordAll k.compile.2).get? (ruleSeries kind tier) =
      m.get? (ruleSeries kind tier) := by
    refine get?_recordAll_of_others (s := .rules kind tier) (fun x hx value => ?_) m
    refine Sample.update_of_kind_ne ?_ value
    rw [(Rulebook.kind?_of_mem_compile hx).1]
    exact fun he => hk (Option.some.inj he).symm
  exact ⟨(hkeep "basic").trans h.basic, (hkeep "advanced").trans h.advanced⟩

end Tables

namespace Gateway

namespace Books

variable {b : Books} {m m' : Meters}

/-- The gauges show what both rulebooks compile to. -/
structure Gauged (b : Books) (m : Meters) : Prop where
  route : b.route.Gauged .route m
  redirect : ∀ k, b.redirect = some k → k.Gauged .redirect m

theorem Gauged.congr (h : b.Gauged m) (hsame : m.SameTables m') : b.Gauged m' :=
  ⟨h.route.congr hsame, fun k hk => (h.redirect k hk).congr hsame⟩

theorem Gauged.commit (h : b.Gauged m) : (b.map Rulebook.commit).Gauged m := by
  refine ⟨h.route, fun k hk => ?_⟩
  obtain ⟨k', hk', rfl⟩ := Option.map_eq_some_iff.1 hk
  exact h.redirect k' hk'

/-- Rendering measures the rulebooks one after the other. -/
theorem Sound.render_samples (h : b.Sound) (balance : ClusterSplits) :
    (b.render balance).2 = b.route.compile.2 ++ (b.redirect.map (·.compile.2)).getD [] := by
  obtain ⟨rules, hr⟩ := h.route.compile
  obtain ⟨samples, hc⟩ : ∃ samples, b.route.compile = (.ok rules, samples) := ⟨_, Prod.ext hr rfl⟩
  rw [Books.render, hc]
  cases hb : b.redirect with
  | none => simp
  | some k =>
    obtain ⟨more, hm⟩ := (h.redirect k hb).compile
    obtain ⟨samples', hc'⟩ : ∃ samples, k.compile = (.ok more, samples) := ⟨_, Prod.ext hm rfl⟩
    simp [hc']

theorem Sound.arrival?_of_mem_render (h : b.Sound) {balance : ClusterSplits} {x : Sample}
    (hx : x ∈ (b.render balance).2) : x.arrival? = none ∧ x.kind? ≠ none := by
  rw [h.render_samples, List.mem_append] at hx
  rcases hx with hx | hx
  · obtain ⟨hkind, harrival⟩ := Rulebook.kind?_of_mem_compile hx
    exact ⟨harrival, by simp [hkind]⟩
  · cases hb : b.redirect with
    | none => simp [hb] at hx
    | some k =>
      obtain ⟨hkind, harrival⟩ := Rulebook.kind?_of_mem_compile (k := k) (by simpa [hb] using hx)
      exact ⟨harrival, by simp [hkind]⟩

/-- **Rendering sets the gauges of both rulebooks**, whatever they showed before. -/
theorem Sound.gauged_render (h : b.Sound) (hk : b.Kinds) (balance : ClusterSplits) (m : Meters) :
    b.Gauged (m.recordAll (b.render balance).2) := by
  obtain ⟨rules, hr⟩ := h.route.compile
  have hroute := Rulebook.shows_compile hr m
  rw [hk.route] at hroute
  rw [h.render_samples, Meters.recordAll_append]
  cases hb : b.redirect with
  | none => exact ⟨⟨rules, hr, .inl hroute⟩, fun k hk => by rw [hb] at hk; cases hk⟩
  | some k =>
    have hkind := hk.redirect k hb
    obtain ⟨more, hm⟩ := (h.redirect k hb).compile
    have hredirect := Rulebook.shows_compile hm (m.recordAll b.route.compile.2)
    rw [hkind] at hredirect
    refine ⟨⟨rules, hr, .inl (hroute.compile (by simp [hkind]))⟩, fun k' hk' => ?_⟩
    obtain rfl : k = k' := Option.some.inj (hb.symm.trans hk')
    exact ⟨more, hm, .inl hredirect⟩

end Books

variable {enabled : Bool} {g g' : Gateway} {m : Meters} {n : TableKind → Nat}

/-! ## Samples of operations -/

/-- What an upsert samples, and where it leads: the bindings that came are counted, and either
nothing has changed, or both rulebooks have been rendered and kept. -/
theorem Settled.upsert_sampled (h : g.Settled) (hk : g.books.Kinds) (o : IngressObject) :
    ∃ xs, Tallies xs (fun kind => g.arrivals kind (.upsert o)) ∧
      ((g.upsert o).samples = xs ∧ (g.upsert o).state = g ∨
        ∃ (b : Books) (balance : ClusterSplits), b.Sound ∧ b.Kinds ∧
          (g.upsert o).state.books = b.map Rulebook.commit ∧
          (g.upsert o).samples =
            xs ++ (b.render balance).2 ++ [.sources (g.upsert o).state.backends.size]) := by
  cases hp : plan g.redirectEnabled o with
  | error e =>
    have hupsert := upsert_of_plan_error hp
    refine ⟨[], Tallies.nil.congr fun kind => ?_, .inl ⟨congrArg Step.samples hupsert,
      h.upsert_refused (congrArg Step.answer hupsert)⟩⟩
    simp only [arrivals, hp]
  | ok p =>
    have hopened : ((g.books.map Rulebook.begin).map (·.removeSource p.source)).Kinds :=
      (hk.map (f := Rulebook.begin) fun _ => rfl).map fun _ => rfl
    have hcleared : ((g.books.map Rulebook.begin).map (·.removeSource p.source)).Sound :=
      (begin_sound h.sound).map fun _ hk => hk.removeSource p.source
    obtain ⟨hchanged, hsound⟩ := putPlan_keeps h.sound p
    have htallies : Tallies (g.putPlan p).samples fun kind => g.arrivals kind (.upsert o) := by
      refine (hopened.putRules_tallies hcleared p p.rules).congr fun kind => ?_
      simp only [arrivals, hp]
    refine ⟨_, htallies, ?_⟩
    cases hput : (g.putPlan p).answer with
    | error e =>
      have hupsert := upsert_of_put_error hp hput
      exact .inl ⟨congrArg Step.samples hupsert,
        h.upsert_refused (congrArg Step.answer hupsert)⟩
    | ok u =>
      have hbegun : (g.books.map Rulebook.begin).Kinds := hk.map fun _ => rfl
      have hkinds : (g.putPlan p).state.Kinds := hbegun.evolves hchanged
      obtain ⟨tables, -, hupsert⟩ := upsert_of_put_ok h.sound hp hput
      refine .inr ⟨_, balance (g.splits.put p.source p.splits), hsound, hkinds, ?_⟩
      rw [hupsert]
      exact ⟨rfl, rfl⟩

/-- What a deletion samples, and where it leads: the sources are counted where there is one less,
and both rulebooks are rendered. -/
theorem Settled.delete_sampled (h : g.Settled) (hk : g.books.Kinds) (namespaceName name : String) :
    let step := g.delete namespaceName name
    ∃ (b : Books) (balance : ClusterSplits) (xs : List Sample), b.Sound ∧ b.Kinds ∧
      step.state.books = b ∧
      step.samples = xs ++ (b.render balance).2 ∧
      (xs = [.sources step.state.backends.size] ∨ xs = [] ∧ step.state.backends = g.backends) := by
  intro step
  let source := sourceKey namespaceName name
  have hsound : (g.without source).books.Sound := h.sound.map fun _ hk => hk.removeSource _
  have hkinds : (g.without source).books.Kinds := hk.map (f := (·.removeSource source)) fun _ => rfl
  obtain ⟨tables, hr, -⟩ := hsound.render (balance (g.splits.erase source))
  let removed : List Sample :=
    if g.backends.contains source then [.sources (g.backends.erase source).size] else []
  refine ⟨_, balance (g.splits.erase source), removed, hsound, hkinds, ?_⟩
  have hremoved : removed = [.sources (g.backends.erase source).size] ∨
      removed = [] ∧ g.backends.erase source = g.backends := by
    unfold removed
    split
    · exact .inl rfl
    · next hnot => exact .inr ⟨rfl, Dict.erase_eq_self (by simpa [Dict.contains] using hnot)⟩
  generalize hs : step = s
  unfold step at hs
  rw [Gateway.delete] at hs
  simp only [← without.eq_1] at hs
  split at hs
  · next e samples he =>
    rw [show _ = _ from he] at hr
    cases hr
  · next tables' samples he =>
    subst hs
    refine ⟨rfl, ?_, hremoved⟩
    show removed ++ samples = removed ++ _
    rw [show _ = _ from he]

/-! ## Accurate meters -/

end Gateway

/-- The counters say how many bindings have come to the roster of each kind. -/
structure Meters.Counts (m : Meters) (arrived : TableKind → Nat) : Prop where
  arrivals : ∀ kind, m.arrived kind = arrived kind
  /-- There are no other outcomes than those that are added up. -/
  outcomes : ∀ kind outcome, (m.get? (putSeries kind outcome)).isSome → outcome ∈ Admission.names

namespace Meters.Counts

variable {m : Meters} {n : TableKind → Nat} {xs : List Sample} {listed : TableKind → List Binding}

theorem tallies (h : m.Counts n) (ht : Tallies xs listed) :
    (m.recordAll xs).Counts fun kind => n kind + (listed kind).length := by
  refine ⟨fun kind => ?_, fun kind outcome hsome => ?_⟩
  · rw [arrived_recordAll ht.arrives, h.arrivals, ht.count]
  · by_contra hother
    have hkeep :
        (m.recordAll xs).get? (putSeries kind outcome) = m.get? (putSeries kind outcome) := by
      refine get?_recordAll_of_others (s := .puts kind outcome) (fun x hx value => ?_) m
      obtain ⟨kind', harrives⟩ := ht.arrives x hx
      cases harrives with
      | conflict => simp [Sample.update]
      | put a =>
        refine if_neg fun he => hother ?_
        cases he
        exact a.name_mem
    rw [hkeep] at hsome
    exact hother (h.outcomes kind outcome hsome)

theorem others (h : m.Counts n) (hx : ∀ x ∈ xs, x.arrival? = none) : (m.recordAll xs).Counts n := by
  refine ⟨fun kind => (arrived_recordAll_of_others hx m kind).trans (h.arrivals kind), ?_⟩
  intro kind outcome hsome
  rw [get?_putSeries_of_others hx] at hsome
  exact h.outcomes kind outcome hsome

theorem empty : (∅ : Meters).Counts fun _ => 0 := by
  refine ⟨fun kind => ?_, fun kind outcome hsome => ?_⟩
  · rfl
  · cases hsome

end Meters.Counts

namespace Gateway

variable {enabled : Bool} {g : Gateway} {m : Meters} {n : TableKind → Nat}

/-- The meters are right for a gateway, when so many bindings have come to the roster of each
kind. -/
structure Accurate (g : Gateway) (m : Meters) (arrived : TableKind → Nat) : Prop where
  /-- Until the gauge is written, no source is registered. -/
  sources : m.get? Meters.sourceSeries = some g.backends.size ∨
    m.get? Meters.sourceSeries = none ∧ g.backends.size = 0
  tables : g.books.Gauged m
  counts : m.Counts arrived

theorem accurate_empty (enabled : Bool) : (Gateway.empty enabled).Accurate ∅ fun _ => 0 := by
  have hgauged (kind : TableKind) : (Rulebook.empty kind).Gauged kind ∅ := by
    refine ⟨⟨[], []⟩, ?_, .inr ⟨?_, rfl⟩⟩
    · rw [Rulebook.compile, Rulebook.empty, Roster.rules_empty]
    · rintro ⟨ok, hok⟩
      cases hok
  refine ⟨.inr ⟨rfl, rfl⟩, ⟨hgauged .route, fun k hk => ?_⟩, .empty⟩
  cases enabled with
  | false => cases hk
  | true =>
    cases hk
    exact hgauged .redirect

theorem Accurate.upsert (h : g.Accurate m n) (hs : g.Settled) (hk : g.books.Kinds)
    (o : IngressObject) : (g.upsert o).state.Accurate (m.recordAll (g.upsert o).samples)
      fun kind => n kind + (g.arrivals kind (.upsert o)).length := by
  obtain ⟨xs, ht, ⟨hsamples, hstate⟩ | ⟨b, balance, hsound, hkinds, hbooks, hsamples⟩⟩ :=
    hs.upsert_sampled hk o
  · -- refused: bindings that came have been counted, and nothing else
    rw [hsamples, hstate]
    have hsources : (m.recordAll xs).get? Meters.sourceSeries = m.get? Meters.sourceSeries := by
      refine Meters.get?_recordAll_of_others (s := .sources) (fun x hx value => ?_) m
      obtain ⟨_, harrives⟩ := ht.arrives x hx
      exact harrives.update (by simp) (by simp) value
    refine ⟨?_, h.tables.congr (ht.sameTables m), h.counts.tallies ht⟩
    rw [hsources]
    exact h.sources
  · -- accepted: all gauges are set anew
    rw [hsamples, Meters.recordAll_append, Meters.recordAll_append]
    let size := (g.upsert o).state.backends.size
    let measured := (m.recordAll xs).recordAll (b.render balance).2
    have hset := measured.get?_record (.sources size) .sources
    have hsame : measured.SameTables (measured.recordAll [.sources size]) :=
      measured.sameTables_recordAll fun x hx kind value => by
        obtain rfl := List.mem_singleton.1 hx
        exact ⟨fun ok => rfl, fun tier => rfl⟩
    refine ⟨.inl (hset.trans (by simp [Sample.update, size])), ?_, ?_⟩
    · rw [hbooks]
      exact ((hsound.gauged_render hkinds balance _).commit).congr hsame
    · refine ((h.counts.tallies ht).others fun x hx => ?_).others fun x hx => ?_
      · exact (hsound.arrival?_of_mem_render hx).1
      · obtain rfl := List.mem_singleton.1 hx
        rfl

theorem Accurate.delete (h : g.Accurate m n) (hs : g.Settled) (hk : g.books.Kinds)
    (namespaceName name : String) : (g.delete namespaceName name).state.Accurate
      (m.recordAll (g.delete namespaceName name).samples) n := by
  obtain ⟨b, balance, xs, hsound, hkinds, hbooks, hsamples, hxs⟩ :=
    hs.delete_sampled hk namespaceName name
  have hsources : ((m.recordAll xs).recordAll (b.render balance).2).get? Meters.sourceSeries =
      (m.recordAll xs).get? Meters.sourceSeries := by
    refine Meters.get?_recordAll_of_others (s := .sources) (fun x hx value => ?_) _
    exact Sample.update_of_kind_ne (s := .sources) (hsound.arrival?_of_mem_render hx).2.symm value
  rw [hsamples, Meters.recordAll_append]
  refine ⟨?_, ?_, ?_⟩
  · rw [hsources]
    rcases hxs with rfl | ⟨rfl, hsame⟩
    · let size := (g.delete namespaceName name).state.backends.size
      exact .inl ((m.get?_record (.sources size) .sources).trans (by simp [Sample.update, size]))
    · rw [hsame]
      exact h.sources
  · rw [hbooks]
    exact hsound.gauged_render hkinds balance _
  · refine (h.counts.others fun x hx => ?_).others fun x hx => ?_
    · rcases hxs with rfl | ⟨rfl, _⟩
      · obtain rfl := List.mem_singleton.1 hx
        rfl
      · cases hx
    · exact (hsound.arrival?_of_mem_render hx).1

theorem Accurate.applyEvent (h : g.Accurate m n) (hr : Reachable enabled g) (e : Event) :
    (g.applyEvent e).state.Accurate (m.recordAll (g.applyEvent e).samples)
      fun kind => n kind + (g.arrivals kind e).length := by
  have hkinds := hr.registered.lists.kinds
  cases e with
  | upsert o => exact h.upsert hr.settled hkinds o
  | delete namespaceName name => exact h.delete hr.settled hkinds namespaceName name

theorem Accurate.apply (h : g.Accurate m n) (hr : Reachable enabled g) (events : List Event) :
    (g.apply events).state.Accurate (m.recordAll (g.apply events).samples)
      fun kind => n kind + (g.allArrivals kind events).length := by
  induction events generalizing g m n with
  | nil => exact h
  | cons e es ih =>
    have hrest := ih (h.applyEvent hr e) (hr.applyEvent e)
    rw [Gateway.apply, Meters.recordAll_append]
    simpa only [allArrivals, List.length_append, Nat.add_assoc] using hrest

/-! ## Runs -/

/-- Every gateway that operations lead to, with its meters, and with how many bindings have come
to the roster of each kind. -/
inductive Metered (enabled : Bool) : Gateway → Meters → (TableKind → Nat) → Prop
  | empty : Metered enabled (Gateway.empty enabled) ∅ fun _ => 0
  | perform {g : Gateway} {m : Meters} {n : TableKind → Nat} (h : Metered enabled g m n)
      (op : Operation) : Metered enabled (g.perform op).state (m.recordAll (g.perform op).samples)
        fun kind => n kind + (g.allArrivals kind (op.events g)).length

theorem Metered.reachable (h : Metered enabled g m n) : Reachable enabled g := by
  induction h with
  | empty => exact .empty
  | perform _ op ih => exact ih.perform op

/-- **Gauges show the state, and counters what has happened.** After any run, also right after an
object was refused: the number of sources is that of the registered ones, the numbers of rules
are those of the tables that both rulebooks would be compiled to now, and as many bindings are
counted as came to the rosters. -/
theorem Metered.accurate (h : Metered enabled g m n) : g.Accurate m n := by
  induction h with
  | empty => exact accurate_empty enabled
  | @perform g m n h op ih =>
    obtain ⟨hstate, hsamples⟩ := g.perform_eq_apply op
    rw [hstate, hsamples]
    exact ih.apply h.reachable (op.events g)

/-- A second object is in conflict: its binding is counted, and the gauges stay. -/
theorem accurate_conflict :
    let first := (Gateway.empty true).perform (.upsert (plainObject "a" 1))
    let second := first.state.perform (.upsert (plainObject "b" 2))
    let m := ((∅ : Meters).recordAll first.samples).recordAll second.samples
    ∃ n, Metered true second.state m n ∧ second.state.Accurate m n ∧ n .route = 2 ∧
      m.get? (Meters.conflictSeries .route) = some 1 ∧ m.get? Meters.sourceSeries = some 1 ∧
      m.get? (Meters.ruleSeries .route "basic") = some 1 := by
  intro first second m
  have hrun := ((@Metered.empty true).perform (.upsert (plainObject "a" 1))).perform
    (.upsert (plainObject "b" 2))
  exact ⟨_, hrun, Metered.accurate hrun, by decide +kernel, by decide +kernel, by decide +kernel,
    by decide +kernel⟩

end Gateway

end IngressRouting
