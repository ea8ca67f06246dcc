/-
Objects that come again. An upsert takes out what its source has and puts it in anew, so an
object that is in place already leaves the same bindings in force, its own behind those of
all other sources. Where precedence ends in a tie the order of the list decides
(`Rulebook.Lists.route_eq_iff`), and the tables stay as they are exactly when no binding
of the source has another behind it in its queue that differs (`Ran.redelivered`).

So a gateway that gets two objects in turn, again and again, may never come to rest:
each time the one that comes goes behind the other (`redelivered_swapped`).
-/
import IngressRouting.Proofs.Gateway.History
import IngressRouting.Proofs.Rulebook.Queues

namespace IngressRouting

/-! ## Behind all others -/

section moved

variable {α β : Type} {f : α → β} {p : α → Prop} [DecidablePred p] {l : List α} {a : α}

theorem cons_eq_concat_iff : a :: l = l ++ [a] ↔ ∀ x ∈ l, x = a := by
  induction l with
  | nil => simp
  | cons b l ih =>
    rw [List.cons_append, List.cons.injEq, List.forall_mem_cons, eq_comm (a := a)]
    refine and_congr_right ?_
    rintro rfl
    exact ih

/-- With one element at most that has the property, moving it behind all others leaves the
images as they are exactly when all that was behind it has its image. -/
theorem map_moved_iff (once : l.Pairwise fun a b => p a → ¬ p b) :
    l.map f = (l.filter (¬ p ·) ++ l.filter p).map f ↔ l.Pairwise fun a b => p a → f b = f a := by
  induction l with
  | nil => simp
  | cons a l ih =>
    obtain ⟨hfirst, hrest⟩ := List.pairwise_cons.1 once
    rw [List.pairwise_cons]
    by_cases ha : p a
    · have hothers : ∀ b ∈ l, ¬ p b := fun b hb => hfirst b hb ha
      have hkept : l.filter (¬ p ·) = l := List.filter_eq_self.2 fun b hb => by simpa using hothers b hb
      have hnone : l.filter p = [] := List.filter_eq_nil_iff.2 fun b hb => by simpa using hothers b hb
      have hlater : l.Pairwise fun a b => p a → f b = f a :=
        List.pairwise_of_forall_mem_list fun b hb c _ hpb => absurd hpb (hothers b hb)
      rw [List.filter_cons_of_neg (by simpa using ha), List.filter_cons_of_pos (by simpa using ha), hkept,
        hnone, List.map_append, List.map_singleton, List.map_cons, cons_eq_concat_iff, List.forall_mem_map]
      exact ⟨fun hall => ⟨fun b hb _ => hall b hb, hlater⟩, fun h b hb => h.1 b hb ha⟩
    · rw [List.filter_cons_of_pos (by simpa using ha), List.filter_cons_of_neg (by simpa using ha),
        List.cons_append, List.map_cons, List.map_cons, List.cons_inj_right, ih hrest]
      exact (and_iff_right fun b _ hp => absurd hp ha).symm

end moved

/-- No binding of the source has another behind it in its queue, but for those that match the
same requests with the same effect. -/
def Steady (source : String) (bs : List Binding) : Prop :=
  bs.Pairwise fun b c => b.source = source → c.queue = b.queue → c.traits = b.traits ∧ c.effect = b.effect

instance (source : String) (bs : List Binding) : Decidable (Steady source bs) :=
  inferInstanceAs (Decidable (bs.Pairwise _))

section queues

variable {bs own : List Binding} {source : String} {a : Annotations}

/-- With bindings of one source that have the same annotations, moving them behind all others
leaves the queues as they are exactly when none of them has one with another row behind it. -/
theorem sameQueues_moved_iff (hapart : Apart bs)
    (hsame : ∀ b ∈ bs, b.source = source → b.annotations = a)
    (hown : own.Perm (bs.filter (·.source = source))) :
    SameQueues bs (withoutSource source bs ++ own) ↔
      bs.Pairwise fun b c => b.source = source → c.queue = b.queue → c.row = b.row := by
  -- a queue is at one place, so it has one binding of the source at most
  have honce : ∀ q, (bs.filter (·.queue = q)).Pairwise fun b c =>
      b.source = source → ¬ c.source = source := by
    intro q
    refine (hapart.sublist List.filter_sublist).imp_of_mem fun {b c} hb hc hnot hbs hcs => hnot ?_
    obtain ⟨hb, hbq⟩ := List.mem_filter.1 hb
    obtain ⟨hc, hcq⟩ := List.mem_filter.1 hc
    obtain ⟨hhost, hpath, _⟩ :=
      Binding.queue_eq_iff.1 ((of_decide_eq_true hbq).trans (of_decide_eq_true hcq).symm)
    exact ⟨hhost, hpath, (hsame b hb hbs).trans (hsame c hc hcs).symm⟩
  have hmoved : ∀ q, (withoutSource source bs ++ own).filter (·.queue = q) =
      (bs.filter (·.queue = q)).filter (¬ ·.source = source) ++
        (bs.filter (·.queue = q)).filter (·.source = source) := by
    intro q
    have hperm : ((bs.filter (·.queue = q)).filter (·.source = source)).Perm
        (own.filter (·.queue = q)) := by
      rw [List.filter_comm]
      exact (hown.filter _).symm
    have hsingle : ((bs.filter (·.queue = q)).filter (·.source = source)).Pairwise fun _ _ => False := by
      refine List.pairwise_filter.2 ((honce q).imp fun h hb hc => ?_)
      exact h (of_decide_eq_true hb) (of_decide_eq_true hc)
    rw [List.filter_append, withoutSource, List.filter_comm]
    refine congrArg _ (hperm.eq_of_pairwise (fun _ _ _ _ h => h.elim) hsingle ?_).symm
    exact (hperm.pairwise_iff id).1 hsingle
  have hrows : ∀ q, (bs.filter (·.queue = q)).map Binding.row =
      ((withoutSource source bs ++ own).filter (·.queue = q)).map Binding.row ↔
        bs.Pairwise fun b c => b.queue = q → c.queue = q → b.source = source → c.row = b.row := by
    intro q
    rw [hmoved, map_moved_iff (honce q), List.pairwise_filter]
    simp only [decide_eq_true_iff]
  rw [SameQueues]
  simp only [hrows, List.pairwise_iff_forall_sublist]
  exact ⟨fun h b c hsub hbs hq => h b.queue hsub rfl hq hbs,
    fun h q b c hsub hb hc hbs => h hsub hbs (hc.trans hb.symm)⟩

end queues

/-- With what passes the check, those are the rows that match the same requests with the same effect. -/
theorem steady_iff {kind : TableKind} {bs : List Binding} {source : String}
    (hpasses : ∀ b ∈ bs, Rulebook.Passes kind b) :
    (bs.Pairwise fun b c => b.source = source → c.queue = b.queue → c.row = b.row) ↔ Steady source bs := by
  refine List.Pairwise.iff_of_mem fun {b c} hb hc => ?_
  refine forall_congr' fun _ => forall_congr' fun hq => ?_
  obtain ⟨hhost, hpath, _⟩ := Binding.queue_eq_iff.1 hq
  have hcondition := (hpasses c hc).compiles.condition_eq_iff (hpasses b hb).compiles
    (hpasses c hc).host_ne (hpasses b hb).host_ne
  rw [Binding.row, Binding.row, Prod.mk.injEq, hcondition]
  exact and_congr_left fun _ => ⟨fun h => h.traits, fun h => ⟨hhost, hpath, h⟩⟩

namespace Gateway

variable {enabled : Bool} {g : Gateway} {history : List LoggedEvent} {o : IngressObject} {kind : TableKind}
  {b c : Binding}

theorem Settled.upsert_editions (h : g.Settled) (o : IngressObject) :
    let g' := (g.upsert o).state
    g'.routeEdition = g.routeEdition.publish g'.routeEdition.table ∧
      g'.redirectEdition = g.redirectEdition.publish g'.redirectEdition.table := by
  intro g'
  cases he : (g.upsert o).answer with
  | error e =>
    have hsame : g' = g := h.upsert_refused he
    rw [hsame]
    exact ⟨Edition.publish_self.symm, Edition.publish_self.symm⟩
  | ok _ =>
    have hcases := upsert_cases h.sound o
    rw [he] at hcases
    change Upsert g o _ g' at hcases
    generalize g' = state at hcases
    cases hcases with
    | applied p tables planned put rendered =>
      obtain ⟨table, t⟩ := tables
      refine ⟨(Edition.publish_table table).symm, ?_⟩
      cases t with
      | none => exact Edition.publish_self.symm
      | some t => exact (Edition.publish_table t).symm

/-! ## An object in place -/

/-- The object is the last one of its source that was accepted, and for every rule that it
comes to its source has a binding in force, in each rulebook that it enters. -/
structure InPlace (enabled : Bool) (history : List LoggedEvent) (g : Gateway) (o : IngressObject) :
    Prop where
  last : lastObject history o.key = some o
  held : ∀ kind, Enters enabled o.rules kind = true → ∀ host path, o.AsksFor host path →
    ∃ b ∈ g.inForce kind, b.source = o.key ∧ b.host = host ∧ b.path = path

/-- What an object comes to that comes again. -/
structure Redelivered (g : Gateway) (o : IngressObject) : Prop where
  answer : (g.upsert o).answer = .ok ()
  /-- The same bindings are in force, if in another order. -/
  inForce : ∀ kind, ((g.upsert o).state.inForce kind).Perm (g.inForce kind)
  splits : (g.upsert o).state.splits = g.splits
  backends : (g.upsert o).state.backends = g.backends
  /-- The table and its version stay as they are exactly when nothing that differs is behind
  a binding of the object. -/
  route : (g.upsert o).state.routeEdition = g.routeEdition ↔ Steady o.key (g.inForce .route)
  redirect : (g.upsert o).state.redirectEdition = g.redirectEdition ↔
    Steady o.key (g.inForce .redirect)

section InPlace

variable (hr : Remembers enabled history g g.inForce) (ho : InPlace enabled history g o)

include hr

theorem Remembers.passes (hb : b ∈ g.inForce kind) : Rulebook.Passes kind b := by
  obtain ⟨a, _, hsettled⟩ := hr.standing kind b hb
  obtain ⟨p, _, _, r, _, hbinding⟩ := mem_turn_iff.1 ((oldest_settleAll _).claims b hsettled)
  obtain ⟨effect, _, hcheck⟩ := bind_eq_ok.1 hbinding
  exact ⟨_, mapError_eq_ok.1 hcheck⟩

include ho

theorem Remembers.mem_own (hb : b ∈ g.inForce kind) (hs : b.source = o.key) :
    b ∈ settleAll (turn enabled o kind).claims [] := by
  obtain ⟨a, ha, hsettled⟩ := hr.standing kind b hb
  rw [hs, ho.last] at ha
  cases ha
  exact hsettled

theorem Remembers.annotations_own (hb : b ∈ g.inForce kind) (hs : b.source = o.key) :
    b.annotations = o.rules := by
  have hclaim := (oldest_settleAll _).claims b (hr.mem_own ho hb hs)
  exact (asksFor_of_mem_turn hclaim).2.1

/-- Each claim of the object has a rival in force, of its own source. -/
theorem Remembers.exists_own (hc : c ∈ (turn enabled o kind).claims) :
    ∃ b ∈ g.inForce kind, b.source = o.key ∧ c.Rivals b := by
  obtain ⟨hasks, hannotations, henters⟩ := asksFor_of_mem_turn hc
  obtain ⟨b, hb, hs, hhost, hpath⟩ := ho.held kind henters _ _ hasks
  exact ⟨b, hb, hs, hhost.symm, hpath.symm, hannotations.trans (hr.annotations_own ho hb hs).symm⟩

/-- So none has one of another source. -/
theorem Remembers.not_rivals (hc : c ∈ (turn enabled o kind).claims)
    (hb : b ∈ withoutSource o.key (g.inForce kind)) : ¬ c.Rivals b := by
  intro hrivals
  obtain ⟨hb, hother⟩ := mem_withoutSource.1 hb
  obtain ⟨d, hd, hs, hcd⟩ := hr.exists_own ho hc
  have hsame : d = b := (hr.lists.apart kind).eq_of_rivals hd hb (hcd.symm.trans hrivals)
  exact hother (hsame ▸ hs)

/-- What the claims of the object settle to is what its source has in force. -/
theorem Remembers.mem_own_iff :
    b ∈ settleAll (turn enabled o kind).claims [] ↔ b ∈ g.inForce kind ∧ b.source = o.key := by
  refine ⟨fun hb => ?_, fun h => hr.mem_own ho h.1 h.2⟩
  have holdest := oldest_settleAll (turn enabled o kind).claims
  obtain ⟨d, hd, hs, hrivals⟩ := hr.exists_own ho (holdest.claims b hb)
  have hsame : b = d := holdest.apart.eq_of_rivals hb (hr.mem_own ho hd hs) hrivals
  exact hsame ▸ ⟨hd, hs⟩

theorem Remembers.perm_own (kind : TableKind) :
    (settleAll (turn enabled o kind).claims []).Perm ((g.inForce kind).filter (·.source = o.key)) := by
  refine (List.perm_ext_iff_of_nodup (oldest_settleAll _).apart.nodup
    ((hr.lists.apart kind).nodup.filter _)).2 fun b => ?_
  rw [hr.mem_own_iff ho, List.mem_filter, decide_eq_true_iff]

/-- **The object's own bindings go behind all others.** -/
theorem Remembers.renew_eq (kind : TableKind) :
    renew (g.inForce kind) (turn enabled o kind) =
      withoutSource o.key (g.inForce kind) ++ settleAll (turn enabled o kind).claims [] := by
  have hnone : ∀ c ∈ (turn enabled o kind).claims, ∀ x ∈ withoutSource o.key (g.inForce kind),
      ¬ c.Rivals x := fun c hc x hx => hr.not_rivals ho hc hx
  have happend := settleAll_append hnone []
  rw [List.append_nil] at happend
  exact happend

theorem Remembers.perm_renew (kind : TableKind) :
    (renew (g.inForce kind) (turn enabled o kind)).Perm (g.inForce kind) := by
  have hparts := List.filter_append_perm (·.source = o.key) (g.inForce kind)
  rw [hr.renew_eq ho, withoutSource]
  refine (List.perm_append_comm.trans ((hr.perm_own ho kind).append_right _)).trans ?_
  simpa only [decide_not] using hparts

theorem Remembers.renewed : (g.upsert o).answer = .ok () ∧ Renewed g (g.upsert o).state o g.inForce := by
  obtain ⟨haccepted, hrenewed⟩ := upsert_isOk hr.lists o
  have hok : (g.upsert o).answer.isOk = true := by
    refine haccepted.2 ⟨hr.enabled.symm ▸ hr.valid _ o ho.last, fun kind => ?_⟩
    rw [hr.enabled, admitsAll_turn]
    exact fun c hc x hx hrivals => absurd hrivals (hr.not_rivals ho hc hx)
  refine ⟨?_, hrenewed hok⟩
  cases he : (g.upsert o).answer with
  | error e =>
    rw [he] at hok
    cases hok
  | ok u => rfl

/-- The rows of either kind stay where they are exactly when the object is steady. -/
theorem Remembers.sameQueues_iff (kind : TableKind) :
    SameQueues (g.inForce kind) (renew (g.inForce kind) (turn enabled o kind)) ↔
      Steady o.key (g.inForce kind) := by
  rw [hr.renew_eq ho, ← steady_iff fun b hb => hr.passes hb]
  exact sameQueues_moved_iff (hr.lists.apart kind) (fun b hb hs => hr.annotations_own ho hb hs)
    (hr.perm_own ho kind)

theorem Remembers.splits_upsert : (g.upsert o).state.splits = g.splits := by
  obtain ⟨_, hrenewed⟩ := hr.renewed ho
  rw [hrenewed.splits, hr.enabled]
  refine Dict.ext_get? fun s => ?_
  rw [Dict.get?_put, hr.splits]
  split
  · next hs =>
    rw [hs, ho.last]
    rfl
  · rfl

theorem Remembers.backends_upsert : (g.upsert o).state.backends = g.backends := by
  obtain ⟨_, hrenewed⟩ := hr.renewed ho
  rw [hrenewed.backends, Backends.register]
  refine Dict.ext_get? fun s => ?_
  rw [Dict.get?_insert, hr.backends]
  split
  · next hs =>
    rw [hs, ho.last]
    rfl
  · rfl

theorem Remembers.lists_upsert : (g.upsert o).state.books.Lists fun kind =>
    renew (g.inForce kind) (turn enabled o kind) := by
  obtain ⟨_, hrenewed⟩ := hr.renewed ho
  rw [← hr.enabled]
  exact hrenewed.lists

theorem Remembers.route_iff (h : Reachable enabled g) :
    (g.upsert o).state.routeEdition = g.routeEdition ↔ Steady o.key (g.inForce .route) := by
  have hlists := hr.lists_upsert ho
  obtain ⟨rules, hrules, htable⟩ := h.settled_inStep.2.route
  obtain ⟨rules', hrules', htable'⟩ := (h.upsert o).settled_inStep.2.route
  rw [(h.settled.upsert_editions o).1, Edition.publish_eq_self_iff, htable', htable, hr.splits_upsert ho,
    eq_comm, hr.lists.route.route_eq_iff hlists.route (hr.perm_renew ho .route).symm
      (fun b hb => (hr.passes hb).kind_eq) hrules hrules', hr.sameQueues_iff ho]

theorem Remembers.redirect_iff (h : Reachable enabled g) :
    (g.upsert o).state.redirectEdition = g.redirectEdition ↔ Steady o.key (g.inForce .redirect) := by
  have hlists := hr.lists_upsert ho
  have hperm := hr.perm_renew ho .redirect
  rw [(h.settled.upsert_editions o).2, Edition.publish_eq_self_iff, ← hr.sameQueues_iff ho]
  cases hk : g.redirect with
  | none =>
    -- without redirects both tables are empty
    obtain rfl : enabled = false := by
      rw [← h.registered.enabled, Gateway.redirectEnabled, hk]
      rfl
    rw [show g.inForce .redirect = [] from hr.lists.absent hk] at hperm ⊢
    rw [h.quiet.2, (h.upsert o).quiet.2, hperm.eq_nil]
    exact iff_of_true rfl fun _ => rfl
  | some book =>
    obtain ⟨book', hk'⟩ : ∃ book', (g.upsert o).state.redirect = some book' := by
      have hkept := (hr.renewed ho).2.enabled
      rw [Gateway.redirectEnabled, Gateway.redirectEnabled, hk] at hkept
      exact Option.isSome_iff_exists.1 hkept
    obtain ⟨rules, hrules, htable⟩ := h.settled_inStep.2.redirect book hk
    obtain ⟨rules', hrules', htable'⟩ := (h.upsert o).settled_inStep.2.redirect book' hk'
    rw [htable', htable, eq_comm, (hr.lists.redirect book hk).redirect_eq_iff (hlists.redirect book' hk')
      hperm.symm (fun b hb => (hr.passes hb).kind_eq) hrules hrules']

theorem Remembers.perm_inForce (kind : TableKind) :
    ((g.upsert o).state.inForce kind).Perm (g.inForce kind) := by
  have hlists := hr.lists_upsert ho
  have hsame : ((g.upsert o).state.inForce kind).Perm (renew (g.inForce kind) (turn enabled o kind)) :=
    (List.perm_ext_iff_of_nodup (hlists.inForce.apart kind).nodup (hlists.apart kind).nodup).2 fun b =>
      hlists.inForce.mem_congr hlists kind b
  exact hsame.trans (hr.perm_renew ho kind)

end InPlace

/-- **When an object that comes again changes nothing.** After any run, an object that is in
place is accepted again, and leaves the same bindings, splits and services in force. Either
table stays as it is, and with it its version, exactly when no binding of the object has
another behind it in its queue that differs: one at the same host and path, of the same age
and the same class of traits, with other traits or another effect. -/
theorem Ran.redelivered (h : Ran enabled history g) (ho : InPlace enabled history g o) :
    Redelivered g o := by
  have hr := h.remembers
  obtain ⟨hanswer, _⟩ := hr.renewed ho
  exact ⟨hanswer, hr.perm_inForce ho, hr.splits_upsert ho, hr.backends_upsert ho, hr.route_iff ho h.reachable,
    hr.redirect_iff ho h.reachable⟩

/-- Two objects at one place with a header each, the first of which is created at 1. -/
def headerPair (created : UInt64) : Gateway :=
  (((Gateway.empty false).upsert (headerObject "a" "X-A: 1" 1)).state.upsert
    (headerObject "b" "X-A: 2" created)).state

/-- How the pair came about. -/
def headerHistory (created : UInt64) : List LoggedEvent :=
  [⟨.upsert (headerObject "a" "X-A: 1" 1), .ok ()⟩, ⟨.upsert (headerObject "b" "X-A: 2" created), .ok ()⟩]

theorem sound_headerFirst : ((Gateway.empty false).upsert (headerObject "a" "X-A: 1" 1)).state.books.Sound :=
  (Reachable.empty.upsert (headerObject "a" "X-A: 1" 1)).settled.sound

theorem ran_headerPair {created : UInt64} (h : created = 1 ∨ created = 2) :
    Ran false (headerHistory created) (headerPair created) := by
  have hfirst : ((Gateway.empty false).upsert (headerObject "a" "X-A: 1" 1)).answer = .ok () := by
    decide +kernel
  have hsecond : (((Gateway.empty false).upsert (headerObject "a" "X-A: 1" 1)).state.upsert
      (headerObject "b" "X-A: 2" created)).answer = .ok () := by
    rw [upsert_answer sound_headerFirst]
    rcases h with rfl | rfl <;> decide +kernel
  exact .accepted (.accepted .empty (headerObject "a" "X-A: 1" 1) hfirst)
    (headerObject "b" "X-A: 2" created) hsecond

theorem inForce_headerPair {created : UInt64} (h : created = 1 ∨ created = 2) :
    (headerPair created).inForce .route =
      [⟨"ns/a", "example.com", "/foo", Dict.ofList [(Annotations.headerKey, "X-A: 1")], 1,
          .forward "ns_a"⟩,
        ⟨"ns/b", "example.com", "/foo", Dict.ofList [(Annotations.headerKey, "X-A: 2")], created,
          .forward "ns_b"⟩] := by
  have hroute : (headerPair created).route = _ :=
    congrArg Books.route (books_upsert sound_headerFirst (headerObject "b" "X-A: 2" created))
  rw [inForce, hroute]
  rcases h with rfl | rfl <;> decide +kernel

theorem inPlace_headerPair {created : UInt64} (h : created = 1 ∨ created = 2) :
    InPlace false (headerHistory created) (headerPair created) (headerObject "a" "X-A: 1" 1) := by
  refine ⟨?_, fun kind hkind host path hasks => ?_⟩
  · rfl
  · cases kind with
    | redirect => cases hkind
    | route =>
      have hrules : (headerObject "a" "X-A: 1" 1).pathRules =
          .ok [⟨"example.com", "/foo", "a", "ns_a"⟩] := by decide +kernel
      obtain ⟨rs, hrs, r, hr, rfl, rfl⟩ := hasks
      rw [hrules] at hrs
      cases hrs
      obtain rfl := List.mem_singleton.1 hr
      rw [inForce_headerPair h]
      exact ⟨_, List.mem_cons_self, rfl, rfl, rfl⟩

theorem redelivered_older :
    let a := headerObject "a" "X-A: 1" 1
    Ran false (headerHistory 2) (headerPair 2) ∧ InPlace false (headerHistory 2) (headerPair 2) a ∧
      Redelivered (headerPair 2) a ∧
      ((headerPair 2).upsert a).state.routeEdition = (headerPair 2).routeEdition := by
  intro a
  have hran : Ran false (headerHistory 2) (headerPair 2) := ran_headerPair (.inr rfl)
  have ho : InPlace false (headerHistory 2) (headerPair 2) a := inPlace_headerPair (.inr rfl)
  have hr : Redelivered (headerPair 2) a := Ran.redelivered hran ho
  refine ⟨hran, ho, hr, hr.route.2 ?_⟩
  rw [inForce_headerPair (.inr rfl)]
  decide +kernel

/-- Of two objects of one age the one that comes again goes behind the other, and a new
version of the table is published each time. -/
theorem redelivered_swapped :
    let a := headerObject "a" "X-A: 1" 1
    let before := (headerPair 1).routeEdition
    let after := ((headerPair 1).upsert a).state.routeEdition
    Ran false (headerHistory 1) (headerPair 1) ∧ InPlace false (headerHistory 1) (headerPair 1) a ∧
      ((headerPair 1).upsert a).answer = .ok () ∧ after.table ≠ before.table ∧
      after.version = before.version + 1 := by
  intro a before after
  have hran : Ran false (headerHistory 1) (headerPair 1) := ran_headerPair (.inl rfl)
  have ho : InPlace false (headerHistory 1) (headerPair 1) a := inPlace_headerPair (.inl rfl)
  have hr := hran.remembers
  have hpublished : after = before.publish after.table := (hran.reachable.settled.upsert_editions a).1
  have hchanged : before.publish after.table ≠ before := by
    rw [← hpublished]
    refine fun hsame => absurd ((hr.route_iff ho hran.reachable).1 hsame) ?_
    rw [inForce_headerPair (.inl rfl)]
    decide +kernel
  obtain ⟨htable, hversion⟩ := Edition.publish_changed hchanged
  refine ⟨hran, ho, (hr.renewed ho).1, htable, ?_⟩
  rw [hpublished, hversion]

end Gateway

end IngressRouting
