/-
The history of a gateway: the events it has been through, each with what became of it
(`Ran`). Of a source only the last event that was accepted counts, and it leaves an
object where it was an upsert (`lastObject`): a refused object does not count, whether
its source was known before or not.

Splits and services are those of the last objects, and what a source has in force is
among what its last object comes to by itself (`Remembers`). It may be less, since older
objects of other sources take places over; the source stays registered then. So the
registry follows from the history, and nothing is left of a source that is not in it
(`Ran.unorphaned`).
-/
import IngressRouting.Proofs.Gateway.Convergence
import IngressRouting.Proofs.Gateway.Frame
import IngressRouting.Proofs.Roster.Overview

namespace IngressRouting

/-- An event and what became of it. -/
structure LoggedEvent where
  event : Event
  result : Except Rejection Unit

/-- The event is about the source, and was accepted. -/
def LoggedEvent.accepts (r : LoggedEvent) (source : String) : Bool :=
  r.result.isOk && decide (r.event.source = source)

@[simp] theorem LoggedEvent.accepts_ok (e : Event) (source : String) :
    (LoggedEvent.mk e (.ok ())).accepts source = decide (e.source = source) := rfl

@[simp] theorem LoggedEvent.accepts_error (e : Event) (r : Rejection) (source : String) :
    (LoggedEvent.mk e (.error r)).accepts source = false := rfl

/-- The object that an event puts in place. -/
def Event.object? : Event → Option IngressObject
  | .upsert object => some object
  | .delete _ _ => none

/-- The object of the last event about a source that was accepted; none where that was a
deletion, or where there was no such event. -/
def lastObject (history : List LoggedEvent) (source : String) : Option IngressObject :=
  (history.reverse.find? (·.accepts source)).bind (·.event.object?)

section lastObject

variable {history : List LoggedEvent} {source : String} {o : IngressObject}

theorem lastObject_concat (history : List LoggedEvent) (r : LoggedEvent) (source : String) :
    lastObject (history ++ [r]) source =
      if r.accepts source then r.event.object? else lastObject history source := by
  rw [lastObject, List.reverse_append, List.reverse_singleton, List.singleton_append, List.find?_cons]
  cases r.accepts source <;> rfl

theorem lastObject_accepted (history : List LoggedEvent) (e : Event) (source : String) :
    lastObject (history ++ [⟨e, .ok ()⟩]) source =
      if source = e.source then e.object? else lastObject history source := by
  simp only [lastObject_concat, LoggedEvent.accepts_ok, decide_eq_true_iff, eq_comm (a := source)]

/-- **The last object is the one after which no event about its source was accepted.** -/
theorem lastObject_eq_some_iff : lastObject history source = some o ↔
    ∃ before after, history = before ++ ⟨.upsert o, .ok ()⟩ :: after ∧ o.key = source ∧
      ∀ r ∈ after, r.accepts source = false := by
  rw [lastObject, Option.bind_eq_some_iff]
  constructor
  · rintro ⟨⟨event, result⟩, hfind, hobject⟩
    obtain ⟨haccepts, after, before, hsplit, hlater⟩ := List.find?_eq_some_iff_append.1 hfind
    cases event with
    | delete namespaceName name => cases hobject
    | upsert object =>
      cases hobject
      cases result with
      | error e => cases haccepts
      | ok u =>
        have hkey : o.key = source := of_decide_eq_true haccepts
        refine ⟨before.reverse, after.reverse, ?_, hkey, fun r hr => ?_⟩
        · rw [← List.reverse_reverse history, hsplit]
          simp
        · simpa using hlater r (List.mem_reverse.1 hr)
  · rintro ⟨before, after, rfl, hkey, hlater⟩
    refine ⟨⟨.upsert o, .ok ()⟩,
      List.find?_eq_some_iff_append.2 ⟨?_, after.reverse, before.reverse, ?_, ?_⟩, rfl⟩
    · exact decide_eq_true hkey
    · simp
    · intro r hr
      simpa using hlater r (List.mem_reverse.1 hr)

theorem key_of_lastObject (h : lastObject history source = some o) : o.key = source := by
  obtain ⟨_, _, _, hkey, _⟩ := lastObject_eq_some_iff.1 h
  exact hkey

end lastObject

/-- Nothing is in the roster. -/
structure Roster.Bare (r : Roster) : Prop where
  sites : r.toSites = []
  sources : r.sources = []
  isEmpty : r.isEmpty = true

theorem Roster.Lists.bare {r : Roster} (hl : r.Lists []) (h : r.Sound) : r.Bare := by
  have hsites : r.toSites = [] := hl.toSites_eq h
  refine ⟨hsites, List.eq_nil_iff_forall_not_mem.2 fun s hs => ?_, ?_⟩
  · obtain ⟨b, hb, _⟩ := (hl.mem_sources_iff h).1 hs
    cases hb
  · rw [h.isEmpty_eq, hsites]
    rfl

namespace Gateway

variable {enabled : Bool} {g g' : Gateway} {history : List LoggedEvent} {L : Standing} {o : IngressObject}

/-! ## Runs with their history -/

/-- What a batch adds to the history. -/
def logged (g : Gateway) (events : List Event) : List LoggedEvent :=
  events.zipWith (fun e x => ⟨e, x.result⟩) (g.apply events).answer

/-- Every gateway that operations lead to, with the events on the way. A reconciliation
adds the events that it comes to. -/
inductive Ran (enabled : Bool) : List LoggedEvent → Gateway → Prop
  | empty : Ran enabled [] (Gateway.empty enabled)
  | upsert {history : List LoggedEvent} {g : Gateway} (h : Ran enabled history g) (object : IngressObject) :
    Ran enabled (history ++ [⟨.upsert object, (g.upsert object).answer⟩]) (g.upsert object).state
  | delete {history : List LoggedEvent} {g : Gateway} (h : Ran enabled history g)
      (namespaceName name : String) :
    Ran enabled (history ++ [⟨.delete namespaceName name, (g.delete namespaceName name).answer⟩])
      (g.delete namespaceName name).state
  | apply {history : List LoggedEvent} {g : Gateway} (h : Ran enabled history g) (events : List Event) :
    Ran enabled (history ++ g.logged events) (g.apply events).state
  | reconcile {history : List LoggedEvent} {g : Gateway} (h : Ran enabled history g)
      (objects : List IngressObject) :
    Ran enabled (history ++ g.logged (g.reconciliation objects)) (g.reconcile objects).state

theorem Ran.accepted (h : Ran enabled history g) (o : IngressObject) (hok : (g.upsert o).answer = .ok ()) :
    Ran enabled (history ++ [⟨.upsert o, .ok ()⟩]) (g.upsert o).state := by
  rw [← hok]
  exact h.upsert o

theorem Ran.reachable (h : Ran enabled history g) : Reachable enabled g := by
  induction h with
  | empty => exact .empty
  | upsert _ o ih => exact ih.upsert o
  | delete _ namespaceName name ih => exact ih.delete namespaceName name
  | apply _ events ih => exact ih.apply events
  | reconcile _ objects ih => exact ih.reconcile objects

theorem Reachable.exists_ran (h : Reachable enabled g) : ∃ history, Ran enabled history g := by
  induction h with
  | empty => exact ⟨_, .empty⟩
  | upsert _ o ih => exact ih.elim fun _ hr => ⟨_, hr.upsert o⟩
  | delete _ namespaceName name ih => exact ih.elim fun _ hr => ⟨_, hr.delete namespaceName name⟩
  | apply _ events ih => exact ih.elim fun _ hr => ⟨_, hr.apply events⟩
  | reconcile _ objects ih => exact ih.elim fun _ hr => ⟨_, hr.reconcile objects⟩

section invariant

variable {I : List LoggedEvent → Gateway → Prop}

/-- What every event keeps, with its record added, batches keep. -/
theorem apply_keeps_history
    (step : ∀ history g e, I history g →
      I (history ++ [⟨e, (g.applyEvent e).answer⟩]) (g.applyEvent e).state)
    (events : List Event) (h : I history g) : I (history ++ g.logged events) (g.apply events).state := by
  induction events generalizing history g with
  | nil => simpa [logged, apply] using h
  | cons e es ih =>
    have hrest := ih (step history g e h)
    rw [List.append_assoc] at hrest
    exact hrest

/-- **What holds at first, and what every event keeps, holds after any run.** -/
theorem Ran.invariant (empty : I [] (Gateway.empty enabled))
    (step : ∀ history g e, I history g →
      I (history ++ [⟨e, (g.applyEvent e).answer⟩]) (g.applyEvent e).state)
    (h : Ran enabled history g) : I history g := by
  induction h with
  | empty => exact empty
  | upsert _ o ih => exact step _ _ (.upsert o) ih
  | delete _ namespaceName name ih => exact step _ _ (.delete namespaceName name) ih
  | apply _ events ih => exact apply_keeps_history step events ih
  | reconcile _ objects ih => exact apply_keeps_history step _ ih

end invariant

/-! ## What is remembered -/

/-- What is in force, split and registered comes from the last objects. -/
structure Remembers (enabled : Bool) (history : List LoggedEvent) (g : Gateway) (L : Standing) :
    Prop where
  settled : g.Settled
  lists : g.books.Lists L
  valid : ∀ s o, lastObject history s = some o → Valid enabled o
  splits : ∀ s, g.splits.get? s = (lastObject history s).bind (splitsOf enabled)
  backends : ∀ s, g.backends.get? s =
    (lastObject history s).map fun o => StringSet.ofList o.services
  /-- A binding is one that the last object of its source comes to by itself. -/
  standing : ∀ kind, ∀ b ∈ L kind, ∃ o, lastObject history b.source = some o ∧
    b ∈ settleAll (turn enabled o kind).claims []
  enabled : g.redirectEnabled = enabled

theorem remembers_empty (enabled : Bool) : Remembers enabled [] (Gateway.empty enabled) fun _ => [] where
  settled := settled_empty enabled
  lists := (registered_empty enabled).lists
  valid _ _ h := by cases h
  splits _ := rfl
  backends _ := rfl
  standing _ b hb := by cases hb
  enabled := (registered_empty enabled).enabled

theorem Remembers.refused (h : Remembers enabled history g L) {r : LoggedEvent}
    (hr : ∀ s, r.accepts s = false) : Remembers enabled (history ++ [r]) g L := by
  have hsame : ∀ s, lastObject (history ++ [r]) s = lastObject history s := fun s => by
    rw [lastObject_concat, hr, if_neg Bool.false_ne_true]
  refine ⟨h.settled, h.lists, ?_, ?_, ?_, ?_, h.enabled⟩ <;> simp only [hsame]
  · exact h.valid
  · exact h.splits
  · exact h.backends
  · exact h.standing

theorem Remembers.upsert (h : Remembers enabled history g L) (o : IngressObject) :
    ∃ L', Remembers enabled (history ++ [⟨.upsert o, (g.upsert o).answer⟩]) (g.upsert o).state L' := by
  cases he : (g.upsert o).answer with
  | error e =>
    refine ⟨L, ?_⟩
    rw [h.settled.upsert_refused he]
    exact h.refused fun s => LoggedEvent.accepts_error _ e s
  | ok _ =>
    have hok : (g.upsert o).answer.isOk = true := by rw [he]; rfl
    obtain ⟨haccepted, hnew⟩ := upsert_isOk h.lists o
    have hvalid := (haccepted.1 hok).1
    have hrenewed := hnew hok
    obtain rfl := h.enabled
    have hlast : ∀ s, lastObject (history ++ [⟨.upsert o, .ok ()⟩]) s =
        if s = o.key then some o else lastObject history s := lastObject_accepted history (.upsert o)
    refine ⟨_, h.settled.upsert o, hrenewed.lists, fun s a ha => ?_, fun s => ?_, fun s => ?_,
      fun kind b hb => ?_, hrenewed.enabled⟩
    · rw [hlast] at ha
      split at ha
      · cases ha
        exact hvalid
      · exact h.valid s a ha
    · rw [hrenewed.splits, Dict.get?_put, hlast, h.splits]
      split <;> rfl
    · rw [hrenewed.backends, Backends.register, Dict.get?_insert, hlast, h.backends]
      split <;> rfl
    · rw [hlast]
      rcases mem_renew hb with hc | ⟨hold, hne⟩
      · -- what the source has in force is the first of its claims, rivals of others apart
        have hsource : b.source = o.key := (mem_turn hc).1
        have hleft : Apart (withoutSource o.key (L kind)) :=
          (h.lists.apart kind).sublist List.filter_sublist
        rw [if_pos hsource]
        refine ⟨o, rfl, (mem_settleAll_or hleft turn_even hb).resolve_right fun hx => ?_⟩
        exact (mem_withoutSource.1 hx).2 hsource
      · have hother : b.source ≠ o.key := hne
        rw [if_neg hother]
        exact h.standing kind b hold

theorem Remembers.delete (h : Remembers enabled history g L) (namespaceName name : String) :
    Remembers enabled
      (history ++ [⟨.delete namespaceName name, (g.delete namespaceName name).answer⟩])
      (g.delete namespaceName name).state
      fun kind => withoutSource (sourceKey namespaceName name) (L kind) := by
  obtain ⟨hanswer, henabled, hlists, hsplits, hbackends⟩ := delete_lists h.lists namespaceName name
  have hlast : ∀ s, lastObject (history ++ [⟨.delete namespaceName name, .ok ()⟩]) s =
      if s = sourceKey namespaceName name then none else lastObject history s :=
    lastObject_accepted history (.delete namespaceName name)
  rw [hanswer]
  refine ⟨h.settled.delete namespaceName name, hlists, fun s a ha => ?_, fun s => ?_, fun s => ?_,
    fun kind b hb => ?_, henabled.trans h.enabled⟩
  · rw [hlast] at ha
    split at ha
    · cases ha
    · exact h.valid s a ha
  · rw [hsplits, Dict.get?_erase, hlast, h.splits]
    split <;> rfl
  · rw [hbackends, Dict.get?_erase, hlast, h.backends]
    split <;> rfl
  · obtain ⟨hold, hne⟩ := mem_withoutSource.1 hb
    rw [hlast, if_neg hne]
    exact h.standing kind b hold

theorem Remembers.inForce (h : Remembers enabled history g L) : Remembers enabled history g g.inForce :=
  ⟨h.settled, h.lists.inForce, h.valid, h.splits, h.backends,
    fun kind b hb => h.standing kind b ((h.lists.inForce.mem_congr h.lists kind b).1 hb), h.enabled⟩

/-- **What every run remembers.** -/
theorem Ran.remembers (h : Ran enabled history g) : Remembers enabled history g g.inForce := by
  refine h.invariant (I := fun history g => Remembers enabled history g g.inForce)
    (remembers_empty enabled).inForce ?_
  intro history g e hr
  cases e with
  | upsert o =>
    obtain ⟨_, hnew⟩ := hr.upsert o
    exact hnew.inForce
  | delete namespaceName name => exact (hr.delete namespaceName name).inForce

/-! ## Nothing is orphaned -/

/-- Nothing is in force, split, registered or published. -/
structure Bare (g : Gateway) : Prop where
  route : g.route.roster.Bare
  redirect : ∀ book, g.redirect = some book → book.roster.Bare
  splits : g.splits = ∅
  backends : g.backends = ∅
  routeTable : g.routeEdition.table = .empty
  redirectTable : g.redirectEdition.table = .empty

theorem bare_of_lists (h : Reachable enabled g) (hl : g.books.Lists fun _ => []) (hsplits : g.splits = ∅)
    (hbackends : g.backends = ∅) : g.Bare := by
  have hnone : Rules.ofSites (Roster.sitesOf []) = .ok ⟨[], []⟩ := by
    rw [← Roster.lists_empty.rules_eq Roster.sound_empty, Roster.rules_empty]
  obtain ⟨rules, hrules, htable⟩ := route_table_eq h.settled_inStep.2 hl
  obtain ⟨more, hmore, hrows⟩ := redirect_table_eq h hl
  obtain rfl : (⟨[], []⟩ : Rules) = rules := Except.ok.inj (hnone.symm.trans hrules)
  obtain rfl : (⟨[], []⟩ : Rules) = more := Except.ok.inj (hnone.symm.trans hmore)
  refine ⟨hl.route.lists.bare hl.route.sound.roster, fun book hbook => ?_, hsplits, hbackends, ?_, hrows⟩
  · exact (hl.redirect book hbook).lists.bare (hl.redirect book hbook).sound.roster
  · rw [htable, hsplits]
    rfl

/-- The deletions of objects, given by namespace and name. -/
def deletions (names : List (String × String)) : List Event := names.map fun n => .delete n.1 n.2

/-- **Deleting every registered source leaves nothing.** -/
theorem Reachable.deletions_bare (h : Reachable enabled g) {names : List (String × String)}
    (hnames : ∀ s, g.backends.contains s = true → ∃ n ∈ names, sourceKey n.1 n.2 = s) :
    (∀ x ∈ (g.apply (deletions names)).answer, x.isOk = true) ∧ (g.apply (deletions names)).state.Bare := by
  have hr := h.registered
  have hdeletes : ∀ e ∈ deletions names, ∃ namespaceName name, e = .delete namespaceName name := by
    intro e he
    obtain ⟨n, _, rfl⟩ := List.mem_map.1 he
    exact ⟨_, _, rfl⟩
  obtain ⟨hanswer, hdeleted⟩ := apply_deletes hr.lists hdeletes
  have hall : ∀ s, g.backends.contains s = true → s ∈ (deletions names).map Event.source := by
    intro s hs
    obtain ⟨n, hn, rfl⟩ := hnames s hs
    exact List.mem_map.2 ⟨_, List.mem_map_of_mem hn, rfl⟩
  have herased : ∀ {α : Type} (d : Dict α), (∀ s, d.contains s = true → g.backends.contains s = true) →
      ((deletions names).map Event.source).foldl Dict.erase d = ∅ := by
    intro α d hd
    refine Dict.ext_get? fun s => ?_
    rw [Dict.get?_foldl_erase, Dict.get?_emptyCollection]
    split
    · rfl
    · next hs =>
      by_contra hsome
      exact hs (hall s (hd s (Option.isSome_iff_ne_none.2 hsome)))
  refine ⟨fun x hx => ?_, bare_of_lists (h.apply _) ?_ ?_ ?_⟩
  · rw [hanswer] at hx
    obtain ⟨s, _, rfl⟩ := List.mem_map.1 hx
    rfl
  · have hnone : ∀ kind, (g.inForce kind).filter (·.source ∉ (deletions names).map Event.source) = [] :=
      fun kind => List.filter_eq_nil_iff.2 fun b hb => by simpa using hall _ (hr.owners kind b hb)
    have hlists := hdeleted.lists
    simp only [hnone] at hlists
    exact hlists
  · rw [hdeleted.splits]
    exact herased _ hr.splits
  · rw [hdeleted.backends]
    exact herased _ fun s hs => hs

/-- Registered are the sources with a last object, and nothing is left of any other. -/
structure Unorphaned (history : List LoggedEvent) (g : Gateway) : Prop where
  /-- Each registered source has the services of its last object. -/
  registry : ∀ s, g.backends.get? s =
    (lastObject history s).map fun o => StringSet.ofList o.services
  containsSource : ∀ namespaceName name, g.containsSource namespaceName name =
    (lastObject history (sourceKey namespaceName name)).isSome
  isServiceReferenced : ∀ namespaceName service, g.isServiceReferenced namespaceName service = true ↔
    ∃ s o, lastObject history s = some o ∧ sourceKey namespaceName service ∈ o.services
  /-- Who owns a binding of either kind is registered. -/
  owners : ∀ kind, ∀ b ∈ g.inForce kind, g.backends.contains b.source = true
  /-- There is no other source to be known. -/
  known : ∀ s, s ∈ g.knownSources ↔ g.backends.contains s = true
  splits : ∀ s, g.splits.contains s = true → g.backends.contains s = true
  /-- Deleting every registered source, in whatever order, leaves nothing. -/
  deletions : ∀ names, (∀ s, g.backends.contains s = true → ∃ n ∈ names, sourceKey n.1 n.2 = s) →
    (∀ x ∈ (g.apply (deletions names)).answer, x.isOk = true) ∧ (g.apply (deletions names)).state.Bare

theorem Remembers.isServiceReferenced (h : Remembers enabled history g L) (namespaceName service : String) :
    g.isServiceReferenced namespaceName service = true ↔
      ∃ s o, lastObject history s = some o ∧ sourceKey namespaceName service ∈ o.services := by
  rw [Gateway.isServiceReferenced, Backends.isReferenced, List.any_eq_true]
  constructor
  · rintro ⟨services, hmem, hcontains⟩
    obtain ⟨s, hs⟩ := Dict.mem_values_iff.1 hmem
    rw [h.backends, Option.map_eq_some_iff] at hs
    obtain ⟨o, ho, rfl⟩ := hs
    exact ⟨s, o, ho, StringSet.contains_ofList.1 hcontains⟩
  · rintro ⟨s, o, ho, hservice⟩
    refine ⟨_, Dict.mem_values_iff.2 ⟨s, ?_⟩, StringSet.contains_ofList.2 hservice⟩
    rw [h.backends, ho]
    rfl

/-- **Nothing is orphaned.** After any run, the registry holds the sources whose last accepted
event was an upsert, with the services of that object, whatever has been refused since and
whatever other sources have taken over. Who owns a binding or a split is registered, so
deleting every registered source leaves nothing in force and nothing published. -/
theorem Ran.unorphaned (h : Ran enabled history g) : Unorphaned history g := by
  have hr := h.remembers
  have hregistered := h.reachable.registered
  refine ⟨hr.backends, fun namespaceName name => ?_, hr.isServiceReferenced, hregistered.owners,
    fun _ => hregistered.mem_knownSources, hregistered.splits, fun _ => h.reachable.deletions_bare⟩
  rw [Gateway.containsSource, Dict.contains, hr.backends, Option.isSome_map]

/-- An object that holds its place, one that is refused, and one that is deleted. -/
theorem unorphaned_refused :
    let first := ((Gateway.empty true).upsert (plainObject "a" 1)).state
    let second := (first.upsert (plainObject "b" 2)).state
    let third := (second.delete "ns" "c").state
    let history : List LoggedEvent := [⟨.upsert (plainObject "a" 1), .ok ()⟩,
      ⟨.upsert (plainObject "b" 2), .error (.conflict ⟨"ns/b", "ns/a", "example.com", "/foo"⟩)⟩,
      ⟨.delete "ns" "c", .ok ()⟩]
    Ran true history third ∧ Unorphaned history third ∧ third.containsSource "ns" "a" = true ∧
      third.containsSource "ns" "b" = false := by
  intro first second third history
  have hran : Ran true history third := by
    have h := Ran.delete (.upsert (.upsert (@Ran.empty true) (plainObject "a" 1)) (plainObject "b" 2)) "ns" "c"
    have hfirst : ((Gateway.empty true).upsert (plainObject "a" 1)).answer = .ok () := by decide +kernel
    have hsecond : (((Gateway.empty true).upsert (plainObject "a" 1)).state.upsert (plainObject "b" 2)).answer =
        .error (.conflict ⟨"ns/b", "ns/a", "example.com", "/foo"⟩) := by decide +kernel
    have hthird : ((((Gateway.empty true).upsert (plainObject "a" 1)).state.upsert
        (plainObject "b" 2)).state.delete "ns" "c").answer = .ok () := by decide +kernel
    rw [hfirst, hsecond, hthird] at h
    exact h
  have hu : Unorphaned history third := Ran.unorphaned hran
  refine ⟨hran, hu, ?_, ?_⟩
  · rw [hu.containsSource]
    decide
  · rw [hu.containsSource]
    decide

end Gateway

end IngressRouting
