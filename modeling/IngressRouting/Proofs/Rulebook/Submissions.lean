/-
Submissions to a rulebook, in any order. The order decides which of them are
refused, which replace another and where the bindings are listed, and yet the
tables are the same (`Rulebook.submitAll_perm`), as long as those for one host and
path are of different ages.

Two things make it so. What is left are the oldest of the bindings, whatever the
order (`Oldest.perm`). And tables forget the order of the bindings of a place: a
placeholder does not say for whom it stands (`Rule.Heads.rows_eq`), and precedence
ends with the age, then the sort keeps the order of the places
(`Roster.Sound.advanced_tried`).
-/
import IngressRouting.Proofs.Gateway.Claims
import IngressRouting.Proofs.Holders
import IngressRouting.Proofs.Rulebook.MatchOrder

namespace IngressRouting

/-- At one place, bindings of one age are the same. -/
def Dated (bs : List Binding) : Prop :=
  ∀ b ∈ bs, ∀ c ∈ bs, b.host = c.host → b.path = c.path → b.since = c.since → b = c

/-! ## The basic tier -/

/-- One place with the same bindings, in whatever order. -/
structure Site.Alike (s t : Site) : Prop where
  host : s.host = t.host
  path : s.path = t.path
  bindings : s.bindings.Perm t.bindings

theorem Divided.congr {bs cs : List Binding} (h : bs.Perm cs) : Divided bs ↔ Divided cs := by
  simp only [Divided, h.length_eq, h.mem_iff]

theorem Rule.Renders.unique {a a' : Rule} {b : Binding} (h : a.Renders b) (h' : a'.Renders b) :
    a = a' := by
  have hcondition : a.condition = a'.condition := Except.ok.inj (h.condition.symm.trans h'.condition)
  have hhost := h.host.trans h'.host.symm
  have hpath := h.path.trans h'.path.symm
  have hsource := h.source.trans h'.source.symm
  have haction := h.action.trans h'.action.symm
  cases a
  cases a'
  simp_all

/-- **A placeholder does not say for whom it stands.** Rules at alike sites have the
same rows. -/
theorem Rule.Heads.rows_eq {a a' : Rule} {s t : Site} (h : a.Heads s) (h' : a'.Heads t)
    (hst : s.Alike t) :
    RouteTable.basicRow? a = RouteTable.basicRow? a' ∧ RedirectTable.row? a = RedirectTable.row? a' := by
  have hhost : a.host = a'.host := by rw [h.host, h'.host, hst.host]
  have hpath : a.path = a'.path := by rw [h.path, h'.path, hst.path]
  have hboth : a.isPlaceholder = a'.isPlaceholder := by
    rw [Bool.eq_iff_iff, h.placeholder, h'.placeholder, Divided.congr hst.bindings]
  cases hp : a.isPlaceholder with
  | true =>
    have hdefer : a.action = .defer := by simpa [Rule.isPlaceholder] using hp
    have hp' : a'.isPlaceholder = true := hboth.symm.trans hp
    have hdefer' : a'.action = .defer := by simpa [Rule.isPlaceholder] using hp'
    simp [RouteTable.basicRow?, RedirectTable.row?, hdefer, hdefer', hhost, hpath]
  | false =>
    obtain ⟨b, hb, hr⟩ := h.renders hp
    obtain ⟨c, hc, hr'⟩ := h'.renders (hboth.symm.trans hp)
    have hperm := hst.bindings
    rw [hb, hc, List.perm_singleton] at hperm
    cases hperm
    rw [hr.unique hr']
    exact ⟨rfl, rfl⟩

theorem filterMap_heads {α : Type} {f : Rule → Option α} {as as' : List Rule} {ss ts : List Site}
    (hf : ∀ a a' s t, a.Heads s → a'.Heads t → s.Alike t → f a = f a')
    (h : List.Forall₂ Rule.Heads as ss) (h' : List.Forall₂ Rule.Heads as' ts)
    (hst : List.Forall₂ Site.Alike ss ts) : as.filterMap f = as'.filterMap f := by
  induction hst generalizing as as' with
  | nil =>
    cases h
    cases h'
    rfl
  | cons halike _ ih =>
    cases h with
    | cons hhead hrest =>
      cases h' with
      | cons hhead' hrest' =>
        rw [List.filterMap_cons, List.filterMap_cons, hf _ _ _ _ hhead hhead' halike, ih hrest hrest']

namespace Roster

variable {r r' : Roster} {bs bs' : List Binding}

theorem hostsOf_perm (h : bs.Perm bs') : hostsOf bs = hostsOf bs' := by
  refine Dict.keys_ext fun host => Bool.eq_iff_iff.2 ?_
  rw [StringSet.contains_ofList, StringSet.contains_ofList, (h.map _).mem_iff]

theorem pathsOf_perm (h : bs.Perm bs') (host : String) : pathsOf bs host = pathsOf bs' host := by
  refine Dict.keys_ext fun path => Bool.eq_iff_iff.2 ?_
  rw [StringSet.contains_ofList, StringSet.contains_ofList, ((h.filter _).map _).mem_iff]

theorem sitesOf_perm (h : bs.Perm bs') : List.Forall₂ Site.Alike (sitesOf bs) (sitesOf bs') := by
  have hhosts : List.Forall₂ (· = ·) (hostsOf bs) (hostsOf bs') := by
    rw [hostsOf_perm h]
    exact List.forall₂_refl _
  refine List.rel_flatMap hhosts fun host host' he => ?_
  subst he
  rw [pathsOf_perm h, List.forall₂_map_left_iff, List.forall₂_map_right_iff, List.forall₂_same]
  exact fun path _ => ⟨rfl, rfl, h.filter _⟩

end Roster

/-! ## The advanced tier -/

namespace Binding

variable {a b : Binding}

/-- The one comes before the other by precedence, or by its place where precedence does
not decide. -/
def TriedBefore (a b : Binding) : Prop :=
  Precedence.order a b = .lt ∨
    Precedence.order a b = .eq ∧ (a.Before b ∨ a.host = b.host ∧ a.path = b.path)

theorem since_eq_of_order (h : Precedence.order a b = .eq) : a.since = b.since := by
  unfold Precedence.order at h
  simp only [Ordering.then_eq_eq] at h
  exact Std.LawfulEqOrd.eq_of_compare h.2.2.2

theorem TriedBefore.tied (h : a.TriedBefore b) (h' : b.TriedBefore a) :
    a.host = b.host ∧ a.path = b.path ∧ a.since = b.since := by
  have hswap : Precedence.order b a = (Precedence.order a b).swap := Std.OrientedCmp.eq_swap
  unfold TriedBefore at h'
  rw [hswap] at h'
  rcases h with h | ⟨h, hplace⟩ <;> simp only [h, Ordering.swap] at h'
  · simp at h'
  · have hsince := since_eq_of_order h
    have hplace' : b.Before a ∨ b.host = a.host ∧ b.path = a.path := by simpa using h'
    rcases hplace with hbefore | ⟨hhost, hpath⟩
    · rcases hplace' with hbefore' | ⟨hhost, hpath⟩
      · exact absurd hbefore' hbefore.asymm
      · exact ⟨hhost.symm, hpath.symm, hsince⟩
    · exact ⟨hhost, hpath, hsince⟩

end Binding

namespace Roster

variable {r r' : Roster} {bs bs' : List Binding}

/-- **Advanced bindings are tried by precedence, then by place.** -/
theorem Sound.advanced_tried (h : r.Sound) : r.tiers.advanced.Pairwise Binding.TriedBefore := by
  refine Precedence.pairwise_sort_stable ?_
  rw [List.pairwise_flatMap]
  have hplace : ∀ s ∈ r.toSites.filter Site.deferred, ∀ b ∈ s.bindings,
      b.host = s.host ∧ b.path = s.path := fun s hs => (h.site_place (List.mem_filter.1 hs).1).2
  refine ⟨fun s hs => ?_, (r.toSites_ascending.filter _).imp_of_mem fun {s t} hs ht hst a ha b hb => ?_⟩
  · refine List.pairwise_of_forall_mem_list fun a ha b hb => .inr ?_
    obtain ⟨hhost, hpath⟩ := hplace s hs a ha
    obtain ⟨hhost', hpath'⟩ := hplace s hs b hb
    exact ⟨hhost.trans hhost'.symm, hpath.trans hpath'.symm⟩
  · obtain ⟨hhost, hpath⟩ := hplace s hs a ha
    obtain ⟨hhost', hpath'⟩ := hplace t ht b hb
    refine .inl ?_
    rw [Binding.Before, hhost, hpath, hhost', hpath']
    exact hst

theorem Lists.live_perm (hl : r.Lists bs) (hl' : r'.Lists bs') (h : r.Sound) (h' : r'.Sound)
    (hperm : bs.Perm bs') : r.live.Perm r'.live := by
  refine (List.perm_ext_iff_of_nodup h.nodup_live h'.nodup_live).2 fun b => ?_
  rw [mem_live, mem_live, ← hl.mem_iff h, ← hl'.mem_iff h', hperm.mem_iff]

theorem Lists.advanced_perm (hl : r.Lists bs) (hl' : r'.Lists bs') (h : r.Sound) (h' : r'.Sound)
    (hperm : bs.Perm bs') : r.tiers.advanced.Perm r'.tiers.advanced := by
  have hdivided : (r'.live.filter (r.DividedAt ·)) = r'.live.filter (r'.DividedAt ·) := by
    refine List.filter_congr fun b _ => ?_
    have hplace : (r.listing b.host b.path).Perm (r'.listing b.host b.path) := by
      rw [hl, hl']
      exact hperm.filter _
    rw [decide_eq_decide, DividedAt, DividedAt, Divided.congr hplace]
  refine h.advanced_perm.trans (.trans ?_ h'.advanced_perm.symm)
  rw [← hdivided]
  exact (hl.live_perm hl' h h' hperm).filter _

theorem Lists.mem_advanced (hl : r.Lists bs) (h : r.Sound) {b : Binding} (hb : b ∈ r.tiers.advanced) :
    b ∈ bs :=
  (hl.mem_iff h).2 (mem_live.1 (h.mem_advanced.1 hb).1)

/-- **The advanced tier does not depend on the order of dated bindings.** -/
theorem Lists.advanced_eq (hl : r.Lists bs) (hl' : r'.Lists bs') (h : r.Sound) (h' : r'.Sound)
    (hperm : bs.Perm bs') (hdated : Dated bs) : r.tiers.advanced = r'.tiers.advanced := by
  have hp := hl.advanced_perm hl' h h' hperm
  refine hp.eq_of_pairwise (fun a b ha hb hab hba => ?_) h.advanced_tried h'.advanced_tried
  obtain ⟨hhost, hpath, hsince⟩ := hab.tied hba
  exact hdated a (hl.mem_advanced h ha) b (hl.mem_advanced h (hp.mem_iff.2 hb)) hhost hpath hsince

end Roster

namespace Rulebook

variable {k k' : Rulebook} {kind : TableKind} {bs bs' : List Binding}

/-- **The basic rows do not depend on the order of the bindings.** -/
theorem Lists.basic_eq {rules rules' : Rules} (hl : k.Lists kind bs) (hl' : k'.Lists kind bs')
    (hperm : bs.Perm bs') (hr : k.compile.1 = .ok rules) (hr' : k'.compile.1 = .ok rules') :
    rules.basic.filterMap RouteTable.basicRow? = rules'.basic.filterMap RouteTable.basicRow? ∧
      rules.basic.filterMap RedirectTable.row? = rules'.basic.filterMap RedirectTable.row? := by
  have h := hl.sound.roster
  have h' := hl'.sound.roster
  obtain ⟨hheads, _⟩ := h.tiers_of_rules (compile_eq_ok_iff.1 hr)
  obtain ⟨hheads', _⟩ := h'.tiers_of_rules (compile_eq_ok_iff.1 hr')
  rw [hl.lists.toSites_eq h] at hheads
  rw [hl'.lists.toSites_eq h'] at hheads'
  have hsites := Roster.sitesOf_perm hperm
  exact ⟨filterMap_heads (fun _ _ _ _ ha ha' hst => (ha.rows_eq ha' hst).1) hheads hheads' hsites,
    filterMap_heads (fun _ _ _ _ ha ha' hst => (ha.rows_eq ha' hst).2) hheads hheads' hsites⟩

/-- **The tables do not depend on the order of dated bindings.** -/
theorem Lists.tables_eq {rules rules' : Rules} (hl : k.Lists kind bs) (hl' : k'.Lists kind bs')
    (hperm : bs.Perm bs') (hdated : Dated bs) (hr : k.compile.1 = .ok rules)
    (hr' : k'.compile.1 = .ok rules') :
    (∀ balance, RouteTable.ofRules rules balance = RouteTable.ofRules rules' balance) ∧
      RedirectTable.ofRules rules = RedirectTable.ofRules rules' := by
  have h := hl.sound.roster
  have h' := hl'.sound.roster
  obtain ⟨_, hrenders⟩ := h.tiers_of_rules (compile_eq_ok_iff.1 hr)
  obtain ⟨_, hrenders'⟩ := h'.tiers_of_rules (compile_eq_ok_iff.1 hr')
  obtain ⟨hbasic, hrows⟩ := hl.basic_eq hl' hperm hr hr'
  have hadvanced : rules.advanced = rules'.advanced := by
    rw [hl.lists.advanced_eq hl'.lists h h' hperm hdated] at hrenders
    exact List.left_unique_forall₂' (fun _ _ _ ha ha' => ha.unique ha') hrenders hrenders'
  simp only [RouteTable.ofRules, RedirectTable.ofRules, List.filterMap_append, hbasic, hrows, hadvanced,
    implies_true, and_self]

end Rulebook

/-! ## Submissions -/

/-- What a source asks a rulebook to put. -/
structure Submission where
  source : String
  host : String
  path : String
  annotations : Annotations
  target : String
  since : UInt64

namespace Submission

/-- The host as a rulebook keeps it, with `*` for an empty one. -/
def keptHost (s : Submission) : String := if s.host = "" then HostPattern.anyText else s.host

/-- The binding of a submission as a rulebook of a kind keeps it; none where something
is wrong with it by itself. -/
def binding? (kind : TableKind) (s : Submission) : Option Binding :=
  let binding := do
    let effect ← Rulebook.effect kind s.annotations s.target
    (Rulebook.check kind ⟨s.source, s.host, s.path, s.annotations, s.since, effect⟩).mapError
      Rejection.fault
  binding.toOption

theorem place_of_binding? {kind : TableKind} {s : Submission} {b : Binding} (h : s.binding? kind = some b) :
    b.host = s.keptHost ∧ b.path = s.path ∧ b.since = s.since := by
  obtain ⟨effect, _, hc⟩ := bind_eq_ok.1 (toOption_eq_some.1 h)
  obtain ⟨rfl, _⟩ := Rulebook.check_eq_ok_iff.1 (mapError_eq_ok.1 hc)
  unfold Binding.kept keptHost
  split <;> simp

end Submission

/-- Submissions for one host and path are of different ages. -/
def Submission.Staggered (ss : List Submission) : Prop :=
  ss.Pairwise fun s t => s.keptHost = t.keptHost → s.path = t.path → s.since ≠ t.since

instance (ss : List Submission) : Decidable (Submission.Staggered ss) :=
  inferInstanceAs (Decidable (List.Pairwise _ _))

namespace Rulebook

variable {k : Rulebook} {kind : TableKind} {bs : List Binding}

/-- Puts what is submitted, whatever the answer. -/
def submit (k : Rulebook) (s : Submission) : Rulebook :=
  (k.bind s.source s.host s.path s.annotations s.target s.since).state

/-- Submits bindings one after the other. -/
def submitAll (k : Rulebook) (ss : List Submission) : Rulebook := ss.foldl submit k

theorem Lists.submit (hl : k.Lists kind bs) (s : Submission) :
    (k.submit s).Lists kind (settleAll (s.binding? kind).toList bs) := by
  let p : Plan := ⟨s.source, s.annotations, s.since, [], false, none⟩
  let r : PathRule := ⟨s.host, s.path, "", s.target⟩
  have hbinding : s.binding? kind = (p.binding kind r).toOption := rfl
  rw [hbinding]
  cases hb : p.binding kind r with
  | error e =>
    have hc := bind_cases (p := p) (r := r) hl.kind rfl
    rw [hb] at hc
    have hsame : k.submit s = k := hc.2
    rw [hsame]
    exact hl
  | ok b => exact hl.bind (p := p) (r := r) s.target rfl hb

theorem Lists.submitAll (hl : k.Lists kind bs) (ss : List Submission) :
    (k.submitAll ss).Lists kind (settleAll (ss.filterMap (·.binding? kind)) bs) := by
  induction ss generalizing k bs with
  | nil => exact hl
  | cons s ss ih =>
    have hrest := ih (hl.submit s)
    rw [← settleAll_settleAll] at hrest
    have hclaims : (s :: ss).filterMap (·.binding? kind) =
        (s.binding? kind).toList ++ ss.filterMap (·.binding? kind) := by
      cases hb : s.binding? kind <;> simp [hb]
    rw [hclaims]
    exact hrest

end Rulebook

theorem Submission.Staggered.dated {ss : List Submission} (h : Submission.Staggered ss) (kind : TableKind) :
    Dated (ss.filterMap (·.binding? kind)) := by
  have happart : (ss.filterMap (·.binding? kind)).Pairwise fun b c =>
      b.host = c.host → b.path = c.path → b.since ≠ c.since := by
    refine List.pairwise_filterMap.2 (h.imp fun {s t} hst b hb c hc => ?_)
    obtain ⟨hhost, hpath, hsince⟩ := place_of_binding? hb
    obtain ⟨hhost', hpath', hsince'⟩ := place_of_binding? hc
    simpa only [hhost, hpath, hsince, hhost', hpath', hsince'] using hst
  intro b hb c hc hhost hpath hsince
  have hsymm : Std.Symm fun b c : Binding => b.host = c.host → b.path = c.path → b.since ≠ c.since :=
    ⟨fun b c hn hhost hpath => (hn hhost.symm hpath.symm).symm⟩
  by_contra hne
  exact happart.forall hb hc hne hhost hpath hsince

/-- **The order of submissions does not count.** From an empty rulebook of either kind,
submissions that are of different ages where they are for one host and path come to the
same tables in any order, whatever became of each. -/
theorem Rulebook.submitAll_perm (kind : TableKind) {ss ss' : List Submission} (hperm : ss.Perm ss')
    (hages : Submission.Staggered ss) :
    ∃ rules rules', ((empty kind).submitAll ss).compile.1 = .ok rules ∧
      ((empty kind).submitAll ss').compile.1 = .ok rules' ∧
      (∀ balance, RouteTable.ofRules rules balance = RouteTable.ofRules rules' balance) ∧
      RedirectTable.ofRules rules = RedirectTable.ofRules rules' := by
  have hl := (lists_empty kind).submitAll ss
  have hl' := (lists_empty kind).submitAll ss'
  have hclaims := hperm.filterMap (·.binding? kind)
  have hdated := hages.dated kind
  have hfirst := oldest_settleAll (ss.filterMap (·.binding? kind))
  have hsecond := oldest_settleAll (ss'.filterMap (·.binding? kind))
  have hleft := hfirst.perm hsecond hclaims fun c hc d hd hr hsince =>
    hdated c hc d hd hr.1 hr.2.1 hsince
  have hdatedLeft : Dated (settleAll (ss.filterMap (·.binding? kind)) []) := by
    intro b hb c hc
    exact hdated b (hfirst.claims b hb) c (hfirst.claims c hc)
  obtain ⟨rules, hr⟩ := hl.sound.compile
  obtain ⟨rules', hr'⟩ := hl'.sound.compile
  exact ⟨rules, rules', hr, hr', hl.tables_eq hl' hleft hdatedLeft hr hr'⟩

/-- One source that asks for a header, two that contend for what is left, and one that is
wrong by itself. Backwards the bindings are listed in another order. -/
theorem Rulebook.submitAll_perm_contended :
    let header : Annotations := Dict.ofList [(Annotations.headerKey, "X-A: 1")]
    let ss : List Submission := [⟨"ns/b", "*", "/foo", header, "ns_b", 3⟩,
      ⟨"ns/a", "", "/foo", ∅, "ns_a", 2⟩, ⟨"ns/c", "*", "/foo", ∅, "ns_c", 1⟩,
      ⟨"ns/d", "", "", ∅, "ns_d", 1⟩]
    ss.Perm ss.reverse ∧ Submission.Staggered ss ∧
      ((empty .route).submitAll ss).roster.toList ≠ ((empty .route).submitAll ss.reverse).roster.toList ∧
      ∃ rules rules', ((empty .route).submitAll ss).compile.1 = .ok rules ∧
        ((empty .route).submitAll ss.reverse).compile.1 = .ok rules' ∧
        (∀ balance, RouteTable.ofRules rules balance = RouteTable.ofRules rules' balance) ∧
        RedirectTable.ofRules rules = RedirectTable.ofRules rules' := by
  intro header ss
  have hperm : ss.Perm ss.reverse := (List.reverse_perm ss).symm
  have hages : Submission.Staggered ss := by decide +kernel
  exact ⟨hperm, hages, by decide +kernel, Rulebook.submitAll_perm .route hperm hages⟩

end IngressRouting
