/-
A snapshot applied once more. Nothing changes, and every object is answered as it was
the first time, refused ones with the same fault or the same holder
(`reconcile_again`).

Midway through the second pass the gateway holds what no first pass holds: what
the objects done so far come to from nothing, behind what is left of those that are
still to come (`Midway`). Two facts keep the passes together. The leftovers are no
older than the object whose turn it is, so they have no say in its answer
(`Midway.answer_eq`). And none of them is a rival of what it claims, since the first of
several rivals holds their place, and that is never the one to come
(`Midway.not_rivals`).
-/
import IngressRouting.Proofs.Gateway.Snapshot
import IngressRouting.Proofs.Gateway.Verdicts
import IngressRouting.Proofs.Holders

namespace IngressRouting.Gateway

variable {enabled : Bool} {g g' : Gateway} {kind : TableKind} {o : IngressObject} {L : Standing}
  {all done later os objects : List IngressObject} {c x : Binding}

/-! ## What is recorded of objects -/

/-- The splits and the services are those of the objects, and there are no others. -/
structure Recorded (enabled : Bool) (done : List IngressObject) (g : Gateway) : Prop where
  splits : ∀ s, g.splits.get? s = (done.find? (·.key = s)).bind (splitsOf enabled)
  backends : ∀ s, g.backends.get? s =
    (done.find? (·.key = s)).map fun o => StringSet.ofList o.services

theorem recorded_empty (enabled : Bool) : Recorded enabled [] (Gateway.empty enabled) :=
  ⟨fun _ => rfl, fun _ => rfl⟩

theorem Recorded.renewed {done' : List IngressObject} (hr : Recorded enabled done g)
    (h : Renewed g g' o L) (he : g.redirectEnabled = enabled)
    (hfind : ∀ s, done'.find? (·.key = s) = if s = o.key then some o else done.find? (·.key = s)) :
    Recorded enabled done' g' := by
  refine ⟨fun s => ?_, fun s => ?_⟩
  · rw [h.splits, Dict.get?_put, hfind, hr.splits, he]
    split <;> rfl
  · rw [h.backends, Backends.register, Dict.get?_insert, hfind, hr.backends]
    split <;> rfl

theorem InLine.nodup (h : InLine os) : (os.map IngressObject.key).Nodup :=
  List.pairwise_map.2 (h.imp fun hab => hab.2)

theorem InLine.find?_key (h : InLine os) (ho : o ∈ os) : os.find? (·.key = o.key) = some o := by
  cases hf : os.find? (·.key = o.key) with
  | none =>
    have hnone := List.find?_eq_none.1 hf o ho
    simp at hnone
  | some a =>
    have hkey : a.key = o.key := by simpa using List.find?_some hf
    rw [List.inj_on_of_nodup_map h.nodup (List.mem_of_find?_eq_some hf) ho hkey]

/-- An object that comes after others is recorded beside them. -/
theorem Recorded.first (hr : Recorded enabled done g) (h : Renewed g g' o L)
    (he : g.redirectEnabled = enabled) (hline : InLine (done ++ [o])) :
    Recorded enabled (done ++ [o]) g' := by
  refine hr.renewed h he fun s => ?_
  split
  · next hs =>
    rw [hs]
    exact hline.find?_key (by simp)
  · next hne => simp [List.find?_append, Ne.symm hne]

/-- An object that is among those recorded is recorded as it was. -/
theorem Recorded.again (hr : Recorded enabled all g) (h : Renewed g g' o L)
    (he : g.redirectEnabled = enabled) (hline : InLine all) (ho : o ∈ all) : Recorded enabled all g' := by
  refine hr.renewed h he fun s => ?_
  split
  · next hs =>
    rw [hs]
    exact hline.find?_key ho
  · rfl

theorem Recorded.unique (h : Recorded enabled done g) (h' : Recorded enabled done g') :
    g'.splits = g.splits ∧ g'.backends = g.backends := by
  constructor
  · refine Dict.ext_get? fun s => ?_
    rw [h.splits, h'.splits]
  · refine Dict.ext_get? fun s => ?_
    rw [h.backends, h'.backends]

/-! ## The second pass -/

/-- What those have who have not had their second turn. -/
def pending (enabled : Bool) (all done : List IngressObject) : Standing :=
  fun kind => (standing enabled all kind).filter (·.source ∉ done.map IngressObject.key)

theorem standing_nil : standing enabled [] kind = [] := rfl

theorem pending_nil : pending enabled all [] kind = standing enabled all kind := by
  simp [pending]

theorem pending_all (h : InLine all) : pending enabled all all kind = [] := by
  refine List.filter_eq_nil_iff.2 fun x hx => ?_
  obtain ⟨u, hu, hxu⟩ := exists_of_mem_standing h hx
  have hkey : u.key ∈ all.map IngressObject.key := List.mem_map_of_mem hu
  simpa [(mem_turn hxu).1] using hkey

/-- All have had their first turn, and some of them their second. -/
structure Midway (enabled : Bool) (all done : List IngressObject) (g : Gateway) : Prop where
  settled : g.Settled
  lists : g.books.Lists fun kind => pending enabled all done kind ++ standing enabled done kind
  recorded : Recorded enabled all g
  enabled : g.redirectEnabled = enabled

theorem created_le_of_appliedBefore {a b : IngressObject} (h : appliedBefore a b = true) :
    a.created ≤ b.created := by
  rcases appliedBefore_iff.1 h with hlt | ⟨he, _⟩
  · exact UInt64.le_of_lt hlt
  · rw [he]
    exact UInt64.le_refl _

theorem exists_of_mem_pending (hline : InLine (done ++ later))
    (hx : x ∈ pending enabled (done ++ later) done kind) :
    x ∈ standing enabled (done ++ later) kind ∧ ∃ u ∈ later, x ∈ (turn enabled u kind).claims := by
  obtain ⟨hx, hnot⟩ := List.mem_filter.1 hx
  obtain ⟨u, hu, hxu⟩ := exists_of_mem_standing hline hx
  have hsource := (mem_turn hxu).1
  refine ⟨hx, u, (List.mem_append.1 hu).resolve_left fun hd => ?_, hxu⟩
  have hkey : x.source ∈ done.map IngressObject.key := by
    rw [hsource]
    exact List.mem_map_of_mem hd
  simp [hkey] at hnot

/-- **The leftovers have no say**: an object that comes before them is answered as if they
were not there. -/
theorem Midway.answer_eq (h : Midway enabled (done ++ later) done g') (ht : Taken enabled done g)
    (hline : InLine (done ++ later)) (hlater : ∀ u ∈ later, o.created ≤ u.created) :
    (g'.upsert o).answer = (g.upsert o).answer := by
  rw [upsert_verdict h.lists, upsert_verdict ht.lists, h.enabled, ht.enabled]
  refine verdict_congr fun kind => ?_
  have hnone : older o.created (withoutSource o.key (pending enabled (done ++ later) done kind)) = [] := by
    refine List.filter_eq_nil_iff.2 fun x hx => ?_
    obtain ⟨_, u, hu, hxu⟩ := exists_of_mem_pending hline (mem_withoutSource.1 hx).1
    have hle := hlater u hu
    rw [← (mem_turn hxu).2] at hle
    simpa using UInt64.not_lt.2 hle
  rw [withoutSource_append]
  unfold older at hnone ⊢
  rw [List.filter_append, hnone, List.nil_append]

/-- **The leftovers are no rivals** of one that comes before them. -/
theorem Midway.not_rivals (hline : InLine (done ++ o :: later)) (hc : c ∈ (turn enabled o kind).claims)
    (hx : x ∈ pending enabled (done ++ o :: later) (done ++ [o]) kind) : ¬ c.Rivals x := by
  intro hr
  rw [append_cons_eq] at hx hline
  obtain ⟨hx, u, hu, hxu⟩ := exists_of_mem_pending hline hx
  have hfirsts := hline.firsts enabled kind
  have hdemand : c ∈ demands enabled (done ++ [o] ++ later) kind :=
    List.mem_flatMap.2 ⟨o, by simp, hc⟩
  obtain ⟨y, hy, hry, hprecedes⟩ := hfirsts.first c hdemand
  have hyx : y = x := hfirsts.eq_of_rivals hy hx (hry.symm.trans hr)
  subst hyx
  have hbefore : appliedBefore u o = true := (precedes_iff hxu hc).1 hprecedes
  obtain ⟨hou, hne⟩ := (List.pairwise_append.1 hline).2.2 o (by simp) u hu
  exact hne (key_eq_of_appliedBefore hou hbefore)

theorem withoutSource_pending :
    withoutSource o.key (pending enabled all done kind) = pending enabled all (done ++ [o]) kind := by
  unfold withoutSource pending
  rw [List.filter_filter]
  refine List.filter_congr fun x _ => ?_
  simp only [List.map_append, List.map_cons, List.map_nil, List.mem_append, List.mem_singleton, not_or,
    Bool.decide_and, ne_eq, Bool.and_comm]

/-- The claims of an object that has its second turn pass by the leftovers. -/
theorem renew_pending (hline : InLine (done ++ o :: later)) :
    renew (pending enabled (done ++ o :: later) done kind ++ standing enabled done kind)
        (turn enabled o kind) =
      pending enabled (done ++ o :: later) (done ++ [o]) kind ++ standing enabled (done ++ [o]) kind := by
  have hstanding : withoutSource o.key (standing enabled done kind) = standing enabled done kind :=
    withoutSource_standing hline.upTo
  have hkey : (turn enabled o kind).source = o.key := rfl
  unfold renew
  rw [hkey, withoutSource_append, withoutSource_pending, hstanding, standing_append]
  exact settleAll_append (fun c hc x hx => Midway.not_rivals hline hc hx) _

/-- **One object's second turn** gives it what the first one did. -/
theorem Midway.upsert (h : Midway enabled (done ++ o :: later) done g)
    (hline : InLine (done ++ o :: later)) (hok : (g.upsert o).answer.isOk = true) :
    Midway enabled (done ++ o :: later) (done ++ [o]) (g.upsert o).state := by
  have hrenewed := (upsert_isOk h.lists o).2 hok
  have hlists := hrenewed.lists
  simp only [h.enabled, renew_pending hline] at hlists
  have hrecorded := h.recorded.again hrenewed h.enabled hline (by simp)
  exact ⟨h.settled.upsert o, hlists, hrecorded, hrenewed.enabled.trans h.enabled⟩

/-- What one pass takes up, and that a second one takes up the same. -/
structure Repeats (enabled : Bool) (done os later : List IngressObject) (g : Gateway) : Prop where
  sublist : later.Sublist os
  taken : Taken enabled (done ++ later) (g.apply (os.map .upsert)).state
  recorded : Recorded enabled (done ++ later) (g.apply (os.map .upsert)).state
  again : ∀ g', Midway enabled (done ++ later) done g' →
    (g'.apply (os.map .upsert)).answer = (g.apply (os.map .upsert)).answer ∧
      Midway enabled (done ++ later) (done ++ later) (g'.apply (os.map .upsert)).state

/-- An object that the first pass accepts is accepted by the second one. -/
theorem Repeats.cons_accepted (hrest : Repeats enabled (done ++ [o]) os later (g.upsert o).state)
    (h : Taken enabled done g) (hline : InLine (done ++ o :: os))
    (ha : (g.upsert o).answer.isOk = true) : Repeats enabled done (o :: os) (o :: later) g := by
  have hsub := hrest.sublist.cons_cons o
  have hall : InLine (done ++ o :: later) := hline.sublist (hsub.append_left done)
  refine ⟨hsub, append_cons_eq ▸ hrest.taken, append_cons_eq ▸ hrest.recorded, fun g' hg' => ?_⟩
  have hcreated : ∀ u ∈ o :: later, o.created ≤ u.created := by
    intro u hu
    rcases List.mem_cons.1 hu with rfl | hu
    · exact UInt64.le_refl _
    · exact created_le_of_appliedBefore (hall.next u hu).1
  have hanswer : (g'.upsert o).answer = (g.upsert o).answer := hg'.answer_eq h hall hcreated
  have hmidway := hg'.upsert hall (hanswer ▸ ha)
  rw [append_cons_eq] at hmidway ⊢
  obtain ⟨hanswers, hlast⟩ := hrest.again _ hmidway
  rw [apply_cons_answer, apply_cons_answer, apply_cons_state, hanswer, hanswers]
  exact ⟨rfl, hlast⟩

/-- An object that the first pass refuses is refused by the second one, so either goes on
with the gateway that the object met. -/
theorem Repeats.cons_refused (hrest : Repeats enabled done os later g) (h : Taken enabled done g)
    (hline : InLine (done ++ o :: os)) (ha : ¬ (g.upsert o).answer.isOk = true) :
    Repeats enabled done (o :: os) later g := by
  have hsame : (g.upsert o).state = g := h.settled.upsert_eq_self ha
  have hall : InLine (done ++ later) := hline.skip.sublist (hrest.sublist.append_left done)
  have hcreated : ∀ u ∈ later, o.created ≤ u.created := fun u hu =>
    created_le_of_appliedBefore (hline.next u (hrest.sublist.subset hu)).1
  refine ⟨hrest.sublist.cons o, ?_, ?_, fun g' hg' => ?_⟩
  · rw [apply_cons_state, hsame]
    exact hrest.taken
  · rw [apply_cons_state, hsame]
    exact hrest.recorded
  · have hanswer : (g'.upsert o).answer = (g.upsert o).answer := hg'.answer_eq h hall hcreated
    have hsame' : (g'.upsert o).state = g' := hg'.settled.upsert_eq_self (hanswer ▸ ha)
    obtain ⟨hanswers, hlast⟩ := hrest.again g' hg'
    rw [apply_cons_answer, apply_cons_answer, apply_cons_state, hanswer, hsame, hsame', hanswers]
    exact ⟨rfl, hlast⟩

/-- **Both passes go through the objects alike.** The induction is over the objects still in
line in the first pass; the second one may start from any gateway that is midway. -/
theorem Taken.repeats (h : Taken enabled done g) (hr : Recorded enabled done g)
    (hline : InLine (done ++ os)) : ∃ later, Repeats enabled done os later g := by
  induction os generalizing done g with
  | nil =>
    refine ⟨[], .slnil, ?_, ?_, fun g' hg' => ⟨rfl, ?_⟩⟩
    · simpa [apply] using h
    · simpa [apply] using hr
    · simpa [apply] using hg'
  | cons o os ih =>
    by_cases ha : (g.upsert o).answer.isOk = true
    · have hrenewed := (upsert_isOk h.lists o).2 ha
      have htaken := (h.upsert hline.upTo).2 ha
      have hrecorded := hr.first hrenewed h.enabled hline.upTo
      obtain ⟨later, hrest⟩ := ih htaken hrecorded (append_cons_eq ▸ hline)
      exact ⟨o :: later, hrest.cons_accepted h hline ha⟩
    · obtain ⟨later, hrest⟩ := ih h hr hline.skip
      exact ⟨later, hrest.cons_refused h hline ha⟩

/-! ## Gateways that hold the same -/

/-- The gateways hold the same bindings in the same order, the same splits and services,
and publish the same tables. -/
structure Alike (g g' : Gateway) : Prop where
  route : g'.route.roster.toSites = g.route.roster.toSites
  redirect : g'.redirect.map (·.roster.toSites) = g.redirect.map (·.roster.toSites)
  splits : g'.splits = g.splits
  backends : g'.backends = g.backends
  routeTable : g'.routeEdition.table = g.routeEdition.table
  redirectTable : g'.redirectEdition.table = g.redirectEdition.table

theorem alike_of_lists (h : Reachable enabled g) (h' : Reachable enabled g') (hl : g.books.Lists L)
    (hl' : g'.books.Lists L) (hsplits : g'.splits = g.splits) (hbackends : g'.backends = g.backends) :
    Alike g g' := by
  have hroute : g'.route.roster.toSites = g.route.roster.toSites := by
    have hs := hl.route.lists.toSites_eq hl.route.sound.roster
    have hs' := hl'.route.lists.toSites_eq hl'.route.sound.roster
    exact hs'.trans hs.symm
  have hsome : g'.redirect.isSome = g.redirect.isSome :=
    h'.registered.enabled.trans h.registered.enabled.symm
  have hredirect : g'.redirect.map (·.roster.toSites) = g.redirect.map (·.roster.toSites) := by
    cases hk : g.redirect with
    | none =>
      cases hk' : g'.redirect with
      | none => rfl
      | some k' => simp [hk, hk'] at hsome
    | some k =>
      cases hk' : g'.redirect with
      | none => simp [hk, hk'] at hsome
      | some k' =>
        have hs := hl.redirect k hk
        have hs' := hl'.redirect k' hk'
        simp only [Option.map_some, hs.lists.toSites_eq hs.sound.roster,
          hs'.lists.toSites_eq hs'.sound.roster]
  obtain ⟨rules, hrules, htable⟩ := route_table_eq h.settled_inStep.2 hl
  obtain ⟨rules', hrules', htable'⟩ := route_table_eq h'.settled_inStep.2 hl'
  obtain ⟨more, hmore, hrows⟩ := redirect_table_eq h hl
  obtain ⟨more', hmore', hrows'⟩ := redirect_table_eq h' hl'
  have hsame : rules' = rules := Except.ok.inj (hrules'.symm.trans hrules)
  have hmoreSame : more' = more := Except.ok.inj (hmore'.symm.trans hmore)
  refine ⟨hroute, hredirect, hsplits, hbackends, ?_, ?_⟩
  · rw [htable', htable, hsame, hsplits]
  · rw [hrows', hrows, hmoreSame]

/-- **Reconciling a snapshot again changes nothing.** With objects of different keys, invalid
and conflicting ones included, the second pass gives the same outcomes, with the same
rejections, and leaves the same bindings in the same order, the same splits and services
and the same tables. -/
theorem reconcile_again (enabled : Bool) (h : (objects.map IngressObject.key).Nodup) :
    let first := (Gateway.empty enabled).reconcile objects
    let second := first.state.reconcile objects
    second.answer = first.answer ∧ Alike first.state second.state := by
  intro first second
  have hline : InLine ([] ++ inOrder objects) := inLine_inOrder h
  obtain ⟨all, hrun⟩ := (taken_empty enabled).repeats (recorded_empty enabled) hline
  have hall : InLine all := hline.sublist hrun.sublist
  obtain ⟨hanswer, hstate⟩ := reconcile_empty enabled objects
  have htaken : Taken enabled all first.state := hstate ▸ hrun.taken
  have hrecorded : Recorded enabled all first.state := hstate ▸ hrun.recorded
  have hstart : Midway enabled all [] first.state := by
    refine ⟨htaken.settled, ?_, hrecorded, htaken.enabled⟩
    simp only [pending_nil, standing_nil, List.append_nil]
    exact htaken.lists
  obtain ⟨hanswers, hend⟩ := hrun.again _ hstart
  have hfirst : Reachable enabled first.state := .reconcile .empty objects
  have hsecond : Reachable enabled second.state := .reconcile hfirst objects
  have hkeys : ∀ s, first.state.backends.contains s = true →
      s ∈ (inOrder objects).map IngressObject.key := by
    intro s hs
    exact (hrun.sublist.map _).subset (htaken.backends s hs)
  obtain ⟨hanswer', hstate'⟩ := hfirst.registered.reconcile_eq_apply hkeys
  have hend : Midway enabled all all second.state := hstate' ▸ hend
  have hlists := hend.lists
  simp only [pending_all hall, List.nil_append] at hlists
  obtain ⟨hsplits, hbackends⟩ := hrecorded.unique hend.recorded
  refine ⟨?_, alike_of_lists hfirst hsecond htaken.lists hlists hsplits hbackends⟩
  exact hanswer'.trans (hanswers.trans hanswer.symm)

/-- Of four objects one asks for a host that is none, and one is younger than the holder of
its place. -/
theorem reconcile_again_refused :
    let bad : IngressObject := ⟨"ns", "d", ∅, 0, [⟨"*a", [⟨"/foo", some .exact, ⟨"d", none⟩⟩]⟩]⟩
    let objects := [plainObject "c" 5, bad, plainObject "b" 1, plainObject "a" 1]
    let first := (Gateway.empty true).reconcile objects
    let second := first.state.reconcile objects
    first.answer = [⟨"ns/d", .error (.fault (.wildcardHost "*a"))⟩, ⟨"ns/a", .ok ()⟩, ⟨"ns/b", .ok ()⟩,
        ⟨"ns/c", .error (.conflict ⟨"ns/c", "ns/a", "example.com", "/foo"⟩)⟩] ∧
      (objects.map IngressObject.key).Nodup ∧
      second.answer = first.answer ∧ Alike first.state second.state := by
  intro bad objects
  have hkeys : (objects.map IngressObject.key).Nodup := by decide
  have hline : inOrder [plainObject "c" 5,
      ⟨"ns", "d", ∅, 0, [⟨"*a", [⟨"/foo", some .exact, ⟨"d", none⟩⟩]⟩]⟩, plainObject "b" 1,
      plainObject "a" 1] = [⟨"ns", "d", ∅, 0, [⟨"*a", [⟨"/foo", some .exact, ⟨"d", none⟩⟩]⟩]⟩,
        plainObject "a" 1, plainObject "b" 1, plainObject "c" 5] :=
    inOrder_eq (by decide +kernel) (by decide +kernel) (by decide +kernel)
  have hanswer : ((Gateway.empty true).reconcile [plainObject "c" 5,
      ⟨"ns", "d", ∅, 0, [⟨"*a", [⟨"/foo", some .exact, ⟨"d", none⟩⟩]⟩]⟩, plainObject "b" 1,
      plainObject "a" 1]).answer =
        [⟨"ns/d", .error (.fault (.wildcardHost "*a"))⟩, ⟨"ns/a", .ok ()⟩, ⟨"ns/b", .ok ()⟩,
          ⟨"ns/c", .error (.conflict ⟨"ns/c", "ns/a", "example.com", "/foo"⟩)⟩] := by
    rw [reconcile, reconciliation, ← inOrder, hline]
    decide +kernel
  exact ⟨hanswer, hkeys, reconcile_again true hkeys⟩

end IngressRouting.Gateway
