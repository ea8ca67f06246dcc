/-
Runs of a gateway from an empty one, through upserts, deletions, batches and
reconciliations in any order.

`upsert_cases` says all that an upsert can come to. An upsert writes the splits
of its source before the tables are rendered, and a refusal puts the former ones
back (`refuse_written`, `splits_upsert_of_error`). Two theorems hold after any run:
an object that is refused leaves no trace (`Reachable.upsert_traceless`), and the
published tables are those that the rulebooks compile to (`Reachable.inStep`).
-/
import IngressRouting.Proofs.Gateway.Books

namespace IngressRouting.Gateway

deriving instance DecidableEq for Outcome

variable {enabled : Bool} {g : Gateway} {o : IngressObject}

/-- Every gateway that operations lead to. -/
inductive Reachable (enabled : Bool) : Gateway → Prop
  | empty : Reachable enabled (Gateway.empty enabled)
  | upsert {g : Gateway} (h : Reachable enabled g) (object : IngressObject) :
    Reachable enabled (g.upsert object).state
  | delete {g : Gateway} (h : Reachable enabled g) (namespaceName name : String) :
    Reachable enabled (g.delete namespaceName name).state
  | apply {g : Gateway} (h : Reachable enabled g) (events : List Event) :
    Reachable enabled (g.apply events).state
  | reconcile {g : Gateway} (h : Reachable enabled g) (objects : List IngressObject) :
    Reachable enabled (g.reconcile objects).state

/-- What upserts and deletions keep, batches keep. -/
theorem apply_keeps {I : Gateway → Prop} (upsert : ∀ g o, I g → I (g.upsert o).state)
    (delete : ∀ g namespaceName name, I g → I (g.delete namespaceName name).state)
    (events : List Event) (h : I g) : I (g.apply events).state := by
  induction events generalizing g with
  | nil => exact h
  | cons e es ih =>
    rw [Gateway.apply]
    refine ih ?_
    cases e with
    | upsert o => exact upsert g o h
    | delete namespaceName name => exact delete g namespaceName name h

/-- **What holds at first, and what upserts and deletions keep, holds after any
run.** -/
theorem Reachable.invariant {I : Gateway → Prop} (empty : I (Gateway.empty enabled))
    (upsert : ∀ g o, I g → I (g.upsert o).state)
    (delete : ∀ g namespaceName name, I g → I (g.delete namespaceName name).state)
    (h : Reachable enabled g) : I g := by
  induction h with
  | empty => exact empty
  | upsert _ o ih => exact upsert _ o ih
  | delete _ namespaceName name ih => exact delete _ namespaceName name ih
  | apply _ events ih => exact apply_keeps upsert delete events ih
  | reconcile _ objects ih => exact apply_keeps upsert delete _ ih

/-! ## Plans -/

/-- All that the plan of an object comes from. -/
structure Planned (enabled : Bool) (o : IngressObject) (p : Plan) : Prop where
  source : p.source = o.key
  annotations : p.annotations = o.rules
  since : p.since = o.created
  redirected : (if enabled then (·.isSome) <$> o.rules.redirectCommand else pure false) = .ok p.redirected
  rules : o.pathRules = .ok p.rules
  splits : ∃ asked, o.rules.weights = .ok asked ∧
    Option.Rel (fun asked given => clusterSplits p.rules asked = .ok given) asked p.splits

theorem planned {p : Plan} (h : plan enabled o = .ok p) : Planned enabled o p := by
  rw [plan] at h
  cases enabled <;> simp only [Bool.false_eq_true, if_true, if_false, bind_eq_ok] at h <;>
  · obtain ⟨redirected, hred, rules, hrules, asked, hweights, h⟩ := h
    have hrules := mapError_eq_ok.1 hrules
    have hweights := mapError_eq_ok.1 hweights
    cases asked with
    | none =>
      obtain ⟨given, hgiven, h⟩ := bind_eq_ok.1 h
      cases hgiven
      cases h
      exact ⟨rfl, rfl, rfl, hred, hrules, _, hweights, .none⟩
    | some splits =>
      obtain ⟨given, hgiven, h⟩ := bind_eq_ok.1 h
      obtain ⟨d, hd, rfl⟩ := map_eq_ok.1 hgiven
      cases h
      exact ⟨rfl, rfl, rfl, hred, hrules, _, hweights, .some (mapError_eq_ok.1 hd)⟩

theorem Planned.not_redirected {p : Plan} (h : Planned false o p) : p.redirected = false :=
  (Except.ok.inj h.redirected).symm

theorem plan_eq_ok {p : Plan} (h : plan enabled o = .ok p) :
    p.source = o.key ∧ p.since = o.created ∧ (p.redirected = true → enabled = true) := by
  have hp := planned h
  refine ⟨hp.source, hp.since, fun hr => ?_⟩
  cases enabled with
  | true => rfl
  | false => rw [← hr, hp.not_redirected]

/-! ## One operation -/

/-- The books with their journals open, without the bindings that the source of
a plan had, and with the rules of the plan as far as they go. -/
def putPlan (g : Gateway) (p : Plan) : Step Books (Except Rejection Unit) :=
  ((g.books.map Rulebook.begin).map (·.removeSource p.source)).putRules p p.rules

theorem begin_sound (h : g.books.Sound) : (g.books.map Rulebook.begin).Sound :=
  h.map fun _ hk => hk.begin

theorem putPlan_keeps (h : g.books.Sound) (p : Plan) :
    (g.books.map Rulebook.begin).Evolves (g.putPlan p).state ∧ (g.putPlan p).state.Sound := by
  have hb := begin_sound h
  have hr : ((g.books.map Rulebook.begin).map (·.removeSource p.source)).Sound :=
    hb.map fun _ hk => hk.removeSource p.source
  obtain ⟨he, hs⟩ := Books.putRules_keeps hr p p.rules
  exact ⟨(Books.map_evolves hb fun _ hk => Rulebook.removeSource_evolves hk p.source).trans he, hs⟩

/-- **A refusal gives the source the splits back that it had**, whatever has been written for it
meanwhile. -/
theorem refuse_written (g : Gateway) (b : Books) (source : String) (given : Option ClusterSplits) :
    { g.withBooks b with splits := g.splits.put source given }.refuse source
      (g.splits.get? source) = g.withBooks (b.map Rulebook.rollback) := by
  have hback : (g.splits.put source given).put source (g.splits.get? source) = g.splits := by
    rw [Dict.put_put, Dict.put_get?]
  rw [refuse, hback]
  rfl

theorem refuse_unwritten (g : Gateway) (b : Books) (source : String) :
    (g.withBooks b).refuse source (g.splits.get? source) = g.withBooks (b.map Rulebook.rollback) := by
  have hwritten := g.refuse_written b source (g.splits.get? source)
  rwa [Dict.put_get?] at hwritten

/-! ## One upsert -/

/-- With open journals, an attempt puts the plan of the object. -/
theorem attempt_begin (g : Gateway) (o : IngressObject) :
    (g.withBooks (g.books.map Rulebook.begin)).attempt o =
      match plan g.redirectEnabled o with
      | .error e => ⟨.error e, g.withBooks (g.books.map Rulebook.begin), []⟩
      | .ok p =>
        match (g.putPlan p).answer with
        | .error e => ⟨.error e, g.withBooks (g.putPlan p).state, (g.putPlan p).samples⟩
        | .ok () =>
          let splits := g.splits.put p.source p.splits
          let rendered := (g.putPlan p).state.render (balance splits)
          ⟨rendered.1, { g.withBooks (g.putPlan p).state with splits := splits },
            (g.putPlan p).samples ++ rendered.2⟩ := by
  have henabled : (g.withBooks (g.books.map Rulebook.begin)).redirectEnabled = g.redirectEnabled :=
    Option.isSome_map
  rw [attempt, henabled]
  rfl

/-- What is wrong with an object itself is found before anything is put. -/
theorem upsert_of_plan_error {e : Rejection} (hp : plan g.redirectEnabled o = .error e) :
    g.upsert o =
      ⟨.error e, g.withBooks ((g.books.map Rulebook.begin).map Rulebook.rollback), []⟩ := by
  simp only [Gateway.upsert, attempt_begin, hp, refuse_unwritten]

theorem upsert_of_put_error {p : Plan} {e : Rejection} (hp : plan g.redirectEnabled o = .ok p)
    (hput : (g.putPlan p).answer = .error e) :
    g.upsert o = ⟨.error e, g.withBooks ((g.putPlan p).state.map Rulebook.rollback),
      (g.putPlan p).samples⟩ := by
  simp only [Gateway.upsert, attempt_begin, hp, hput, refuse_unwritten]

/-- Splits that have been written are taken back as well, should the tables be refused. -/
theorem splits_upsert_of_error (g : Gateway) {e : Rejection} (he : (g.upsert o).answer = .error e) :
    (g.upsert o).state.splits = g.splits := by
  cases hp : plan g.redirectEnabled o with
  | error _ => rw [upsert_of_plan_error hp]; rfl
  | ok p =>
    cases hput : (g.putPlan p).answer with
    | error _ => rw [upsert_of_put_error hp hput]; rfl
    | ok _ =>
      have hsource : p.source = o.key := (planned hp).source
      simp only [Gateway.upsert, attempt_begin, hp, hput, ← hsource, refuse_written] at he ⊢
      cases hr : ((g.putPlan p).state.render (balance (g.splits.put p.source p.splits))).1 with
      | error _ => rfl
      | ok _ => rw [hr] at he; cases he

/-- What has been put is rendered, kept and published: tables cannot be refused. -/
theorem upsert_of_put_ok {p : Plan} (h : g.books.Sound) (hp : plan g.redirectEnabled o = .ok p)
    (hput : (g.putPlan p).answer = .ok ()) :
    let splits := g.splits.put p.source p.splits
    let kept := { g.withBooks ((g.putPlan p).state.map Rulebook.commit) with
      splits := splits, backends := g.backends.register p.source o.services }
    ∃ tables, (g.putPlan p).state.Rendered (balance splits) tables ∧
      g.upsert o = ⟨.ok (), kept.publish tables,
        (g.putPlan p).samples ++ ((g.putPlan p).state.render (balance splits)).2 ++
          [.sources kept.backends.size]⟩ := by
  intro splits kept
  obtain ⟨tables, hr, hrendered⟩ := (putPlan_keeps h p).2.render (balance splits)
  refine ⟨tables, hrendered, ?_⟩
  have hsource : p.source = o.key := (planned hp).source
  simp only [Gateway.upsert, attempt_begin, hp, hput]
  rw [hr]
  simp only [← hsource]
  rfl

/-- **What decides about an object**: its plan, then what the plan puts, and nothing else. -/
theorem upsert_answer (h : g.books.Sound) (o : IngressObject) :
    (g.upsert o).answer = (do
      let p ← plan g.redirectEnabled o
      (g.putPlan p).answer) := by
  cases hp : plan g.redirectEnabled o with
  | error e => rw [upsert_of_plan_error hp]; rfl
  | ok p =>
    simp only [bind, Except.bind]
    cases hput : (g.putPlan p).answer with
    | error e => rw [upsert_of_put_error hp hput]
    | ok _ =>
      obtain ⟨_, _, hupsert⟩ := upsert_of_put_ok h hp hput
      rw [hupsert]

/-- The books after an upsert: what has been put is kept if all of it was, and undone otherwise. -/
theorem books_upsert (h : g.books.Sound) (o : IngressObject) :
    (g.upsert o).state.books =
      match plan g.redirectEnabled o with
      | .error _ => (g.books.map Rulebook.begin).map Rulebook.rollback
      | .ok p =>
        match (g.putPlan p).answer with
        | .error _ => (g.putPlan p).state.map Rulebook.rollback
        | .ok () => (g.putPlan p).state.map Rulebook.commit := by
  cases hp : plan g.redirectEnabled o with
  | error e => rw [upsert_of_plan_error hp]; rfl
  | ok p =>
    cases hput : (g.putPlan p).answer with
    | error e =>
      rw [upsert_of_put_error hp hput]
      simp only [hput]
      rfl
    | ok _ =>
      obtain ⟨_, _, hupsert⟩ := upsert_of_put_ok h hp hput
      rw [hupsert]
      simp only [hput]
      rfl

/-- What an upsert comes to. -/
inductive Upsert (g : Gateway) (o : IngressObject) : Except Rejection Unit → Gateway → Prop
  | refused (e : Rejection) (books : Books) (changed : (g.books.map Rulebook.begin).Evolves books)
      (cause : ∀ p, plan g.redirectEnabled o = .ok p → (g.putPlan p).answer = .error e) :
    Upsert g o (.error e) (g.withBooks (books.map Rulebook.rollback))
  | applied (p : Plan) (tables : RouteTable × Option RedirectTable)
      (planned : plan g.redirectEnabled o = .ok p) (put : (g.putPlan p).answer = .ok ())
      (rendered : (g.putPlan p).state.Rendered (balance (g.splits.put p.source p.splits)) tables) :
    Upsert g o (.ok ())
      (publish
        { g.withBooks ((g.putPlan p).state.map Rulebook.commit) with
          splits := g.splits.put p.source p.splits
          backends := g.backends.register p.source o.services } tables)

/-- **All that an upsert can come to.** -/
theorem upsert_cases (h : g.books.Sound) (o : IngressObject) :
    Upsert g o (g.upsert o).answer (g.upsert o).state := by
  cases hp : plan g.redirectEnabled o with
  | error e =>
    rw [upsert_of_plan_error hp]
    exact .refused e _ (.refl _) fun p he => by rw [hp] at he; cases he
  | ok p =>
    cases hput : (g.putPlan p).answer with
    | error e =>
      rw [upsert_of_put_error hp hput]
      exact .refused e _ (putPlan_keeps h p).1 fun q hq => by rw [hp] at hq; cases hq; exact hput
    | ok _ =>
      obtain ⟨tables, hrendered, hupsert⟩ := upsert_of_put_ok h hp hput
      rw [hupsert]
      exact .applied p tables hp hput hrendered

/-- What a deletion comes to before it is published. -/
def without (g : Gateway) (source : String) : Gateway :=
  { g.withBooks (g.books.map (·.removeSource source)) with
    splits := g.splits.erase source
    backends := g.backends.erase source }

/-- **A deletion always succeeds**, and publishes the tables of what is left. -/
theorem delete_cases (h : g.books.Sound) (namespaceName name : String) :
    (g.delete namespaceName name).answer = .ok () ∧
      ∃ tables, (g.without (sourceKey namespaceName name)).books.Rendered
          (balance (g.splits.erase (sourceKey namespaceName name))) tables ∧
        (g.delete namespaceName name).state =
          (g.without (sourceKey namespaceName name)).publish tables := by
  generalize hs : g.delete namespaceName name = step
  have hsound : (g.without (sourceKey namespaceName name)).books.Sound :=
    h.map fun _ hk => hk.removeSource _
  obtain ⟨tables, hr, hrendered⟩ :=
    hsound.render (balance (g.splits.erase (sourceKey namespaceName name)))
  rw [Gateway.delete] at hs
  simp only [← without.eq_1] at hs
  split at hs
  · next e samples he =>
    rw [he] at hr
    cases hr
  · next tables' samples he =>
    rw [he] at hr
    cases hr
    subst hs
    exact ⟨rfl, tables, hrendered, rfl⟩

/-! ## What every run keeps -/

/-- Between operations the books are sound and no journal is open. -/
structure Settled (g : Gateway) : Prop where
  sound : g.books.Sound
  closed : g.books.Closed

theorem withBooks_books (g : Gateway) : g.withBooks g.books = g := rfl

/-- **An object that is refused leaves the gateway as it was.** -/
theorem Settled.upsert_refused (h : g.Settled) {o : IngressObject} {e : Rejection}
    (he : (g.upsert o).answer = .error e) : (g.upsert o).state = g := by
  have hcases := upsert_cases h.sound o
  rw [he] at hcases
  generalize (g.upsert o).state = state at hcases
  cases hcases with
  | refused _ books changed _ => rw [changed.rollback h.sound h.closed, withBooks_books]

theorem Settled.upsert_eq_self (h : g.Settled) {o : IngressObject}
    (hno : ¬ (g.upsert o).answer.isOk = true) : (g.upsert o).state = g := by
  cases he : (g.upsert o).answer with
  | error e => exact h.upsert_refused he
  | ok _ => simp [he, Except.isOk, Except.toBool] at hno

theorem closed_commit (b : Books) : (b.map Rulebook.commit).Closed := by
  refine ⟨rfl, fun k hk => ?_⟩
  obtain ⟨k', _, rfl⟩ := Option.map_eq_some_iff.1 hk
  rfl

theorem closed_removeSource {b : Books} (hs : b.Sound) (hc : b.Closed) (source : String) :
    (b.map (·.removeSource source)).Closed := by
  have hkeep : ∀ k : Rulebook, k.Sound → k.roster.journal = none →
      (k.removeSource source).roster.journal = none := fun k hk hj => by
    obtain ⟨us, hes⟩ := (Rulebook.removeSource_evolves hk source).edits
    rw [hes.journal, hj]
    rfl
  refine ⟨hkeep _ hs.route hc.route, fun k hk => ?_⟩
  obtain ⟨k', hk', rfl⟩ := Option.map_eq_some_iff.1 hk
  exact hkeep k' (hs.redirect k' hk') (hc.redirect k' hk')

theorem settled_empty (enabled : Bool) : (Gateway.empty enabled).Settled := by
  have hredirect : ∀ k, (Gateway.empty enabled).redirect = some k → k = Rulebook.empty .redirect := by
    intro k hk
    cases enabled with
    | false => cases hk
    | true => exact (Option.some.inj hk).symm
  refine ⟨⟨.empty _, fun k hk => ?_⟩, ⟨rfl, fun k hk => ?_⟩⟩
  · rw [hredirect k hk]; exact .empty _
  · rw [hredirect k hk]; rfl

theorem Settled.upsert (h : g.Settled) (o : IngressObject) : (g.upsert o).state.Settled := by
  cases he : (g.upsert o).answer with
  | error e => rw [h.upsert_refused he]; exact h
  | ok _ =>
    have hcases := upsert_cases h.sound o
    rw [he] at hcases
    generalize (g.upsert o).state = state at hcases
    cases hcases with
    | applied p tables planned put rendered =>
      exact ⟨(putPlan_keeps h.sound p).2.map fun _ hk => hk.commit, closed_commit _⟩

theorem Settled.delete (h : g.Settled) (namespaceName name : String) :
    (g.delete namespaceName name).state.Settled := by
  obtain ⟨_, tables, _, hstate⟩ := delete_cases h.sound namespaceName name
  rw [hstate]
  exact ⟨h.sound.map fun _ hk => hk.removeSource _, closed_removeSource h.sound h.closed _⟩

theorem Reachable.settled (h : Reachable enabled g) : g.Settled :=
  h.invariant (settled_empty enabled) (fun _ o hg => hg.upsert o) fun _ ns n hg => hg.delete ns n

/-- **A refused object leaves no trace.** Whatever the run before, and wherever
on the way the object is refused, the gateway is afterwards what it was: slots,
free slots, lists and owners of both rosters, splits, backends and editions.
Both journals are closed. -/
theorem Reachable.upsert_traceless (h : Reachable enabled g) (o : IngressObject) (e : Rejection)
    (he : (g.upsert o).answer = .error e) :
    (g.upsert o).state = g ∧ (g.upsert o).state.books.Closed := by
  have hstate := h.settled.upsert_refused he
  refine ⟨hstate, ?_⟩
  rw [hstate]
  exact h.settled.closed

/-- An object without annotations that asks for `/foo` of `example.com`. -/
def plainObject (name : String) (created : UInt64) : IngressObject :=
  ⟨"ns", name, ∅, created, [⟨"example.com", [⟨"/foo", some .exact, ⟨name, none⟩⟩]⟩]⟩

/-- The same where a request has a header. -/
def headerObject (name header : String) (created : UInt64) : IngressObject :=
  { plainObject name created with annotations := Dict.ofList [(Annotations.headerKey, header)] }

theorem upsert_traceless_conflict :
    let g := ((Gateway.empty true).upsert (plainObject "a" 1)).state
    let e := Rejection.conflict ⟨"ns/b", "ns/a", "example.com", "/foo"⟩
    (g.upsert (plainObject "b" 2)).answer = .error e ∧
      (g.upsert (plainObject "b" 2)).state = g ∧ (g.upsert (plainObject "b" 2)).state.books.Closed := by
  have he : (((Gateway.empty true).upsert (plainObject "a" 1)).state.upsert (plainObject "b" 2)).answer =
      .error (.conflict ⟨"ns/b", "ns/a", "example.com", "/foo"⟩) := by decide +kernel
  exact ⟨he, Reachable.upsert_traceless (.upsert .empty (plainObject "a" 1)) (plainObject "b" 2) _ he⟩

/-! ## Tables in step -/

/-- The published tables are those that the rulebooks and the splits come to. -/
structure InStep (g : Gateway) : Prop where
  route : ∃ rules, g.route.compile.1 = .ok rules ∧
    g.routeEdition.table = RouteTable.ofRules rules (balance g.splits)
  redirect : ∀ book, g.redirect = some book → ∃ rules, book.compile.1 = .ok rules ∧
    g.redirectEdition.table = RedirectTable.ofRules rules

theorem Books.Rendered.commit {b : Books} {splits : ClusterSplits}
    {tables : RouteTable × Option RedirectTable} (h : b.Rendered splits tables) :
    (b.map Rulebook.commit).Rendered splits tables := by
  obtain ⟨route, d⟩ := b
  obtain ⟨table, t⟩ := tables
  refine ⟨h.route, ?_⟩
  have hr : Option.Rel (fun (k : Rulebook) t => ∃ rules, k.compile.1 = .ok rules ∧
    t = RedirectTable.ofRules rules) d t := h.redirect
  cases hr with
  | none => exact .none
  | some hk => exact .some hk

theorem inStep_publish {tables : RouteTable × Option RedirectTable}
    (h : g.books.Rendered (balance g.splits) tables) : (g.publish tables).InStep := by
  obtain ⟨table, t⟩ := tables
  obtain ⟨rules, hr, ht⟩ := h.route
  refine ⟨⟨rules, hr, (Edition.table_publish _ _).trans ht⟩, fun book hbook => ?_⟩
  have hbook : g.redirect = some book := hbook
  have hrel := h.redirect
  rw [show g.books.redirect = some book from hbook] at hrel
  cases hrel with
  | some hk =>
    obtain ⟨more, hm, hmt⟩ := hk
    exact ⟨more, hm, (Edition.table_publish _ _).trans hmt⟩

theorem inStep_empty (enabled : Bool) : (Gateway.empty enabled).InStep := by
  have hrules : ∀ kind, (Rulebook.empty kind).compile.1 = .ok ⟨[], []⟩ := fun kind => by
    rw [Rulebook.compile, Rulebook.empty, Roster.rules_empty]
  refine ⟨⟨_, hrules _, rfl⟩, fun book hbook => ⟨⟨[], []⟩, ?_, rfl⟩⟩
  cases enabled with
  | false => cases hbook
  | true => cases hbook; exact hrules _

theorem InStep.upsert (h : g.InStep) (hs : g.Settled) (o : IngressObject) :
    (g.upsert o).state.InStep := by
  cases he : (g.upsert o).answer with
  | error e => rw [hs.upsert_refused he]; exact h
  | ok _ =>
    have hcases := upsert_cases hs.sound o
    rw [he] at hcases
    generalize (g.upsert o).state = state at hcases
    cases hcases with
    | applied p tables planned put rendered => exact inStep_publish rendered.commit

theorem delete_inStep (hs : g.Settled) (namespaceName name : String) :
    (g.delete namespaceName name).state.InStep := by
  obtain ⟨_, tables, hrendered, hstate⟩ := delete_cases hs.sound namespaceName name
  rw [hstate]
  exact inStep_publish hrendered

/-- A refusal takes everything back, and what is accepted is published at once. -/
theorem Reachable.settled_inStep (h : Reachable enabled g) : g.Settled ∧ g.InStep := by
  refine h.invariant (I := fun g => g.Settled ∧ g.InStep)
    ⟨settled_empty enabled, inStep_empty enabled⟩ ?_ ?_
  · exact fun _ o hg => ⟨hg.1.upsert o, hg.2.upsert hg.1 o⟩
  · exact fun _ ns n hg => ⟨hg.1.delete ns n, delete_inStep hg.1 ns n⟩

/-- **The published tables are always in step.** After any run, refused objects
included, both rulebooks compile, and the tables held for publication are those
that the bindings and splits in force come to. -/
theorem Reachable.inStep (h : Reachable enabled g) : g.InStep := h.settled_inStep.2

/-- An object is refused, and a reconciliation without the first one follows: an older object takes
its place, the other is refused again, and the first source goes. -/
theorem inStep_replaced :
    let refused := ((Gateway.empty true).upsert (plainObject "a" 1)).state.upsert (plainObject "b" 2)
    let replaced := refused.state.reconcile [plainObject "c" 0, plainObject "b" 2]
    refused.answer = .error (.conflict ⟨"ns/b", "ns/a", "example.com", "/foo"⟩) ∧
      replaced.answer = [⟨"ns/c", .ok ()⟩,
        ⟨"ns/b", .error (.conflict ⟨"ns/b", "ns/c", "example.com", "/foo"⟩)⟩, ⟨"ns/a", .ok ()⟩] ∧
      replaced.state.routeEdition.table.basic = [⟨"example.com", "/foo", "ns_c"⟩] ∧
      replaced.state.InStep := by
  have hrefused : (((Gateway.empty true).upsert (plainObject "a" 1)).state.upsert
      (plainObject "b" 2)).answer = .error (.conflict ⟨"ns/b", "ns/a", "example.com", "/foo"⟩) := by
    decide +kernel
  -- the objects stand in the order in which they are applied
  have hline : [plainObject "c" 0, plainObject "b" 2].mergeSort appliedBefore =
      [plainObject "c" 0, plainObject "b" 2] := List.mergeSort_of_pairwise (by decide +kernel)
  have hreplaced : ((((Gateway.empty true).upsert (plainObject "a" 1)).state.upsert
      (plainObject "b" 2)).state.reconcile [plainObject "c" 0, plainObject "b" 2]).answer =
        [⟨"ns/c", .ok ()⟩,
          ⟨"ns/b", .error (.conflict ⟨"ns/b", "ns/c", "example.com", "/foo"⟩)⟩, ⟨"ns/a", .ok ()⟩] := by
    rw [reconcile, reconciliation, hline]
    decide +kernel
  have htable : ((((Gateway.empty true).upsert (plainObject "a" 1)).state.upsert
      (plainObject "b" 2)).state.reconcile
        [plainObject "c" 0, plainObject "b" 2]).state.routeEdition.table.basic =
          [⟨"example.com", "/foo", "ns_c"⟩] := by
    rw [reconcile, reconciliation, hline]
    decide +kernel
  exact ⟨hrefused, hreplaced, htable, Reachable.inStep
    (.reconcile (.upsert (.upsert .empty (plainObject "a" 1)) (plainObject "b" 2)) _)⟩

end IngressRouting.Gateway
