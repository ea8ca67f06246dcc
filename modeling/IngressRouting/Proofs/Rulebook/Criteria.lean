/-
Rules with one condition. A newcomer contends with the binding in force that has its host,
its path and its annotations, all of them and as they are written. A condition says less: of
the annotations it has only the traits, with the blanks around them gone. So bindings whose
annotations differ in anything else are both in force on one condition
(`conditions_repeated`), and nothing but this repeats a condition in the advanced tier
(`Reachable.exclusive`).
-/
import IngressRouting.Proofs.Condition.Distinct
import IngressRouting.Proofs.Rulebook.MatchOrder

namespace IngressRouting

/-- Both match the same requests: at one host and path they ask for the same traits. -/
structure Binding.Doubles (a b : Binding) : Prop where
  host : a.host = b.host
  path : a.path = b.path
  traits : a.traits = b.traits

/-- The text of a binding's condition. -/
def Binding.condition (b : Binding) : Except Fault String := Condition.build b.host b.path b.annotations

/-- **Bindings have one condition exactly when they match the same requests.** -/
theorem Binding.Compiles.condition_eq_iff {a b : Binding} (ha : a.Compiles) (hb : b.Compiles)
    (hhost : a.host ≠ "") (hhost' : b.host ≠ "") : a.condition = b.condition ↔ a.Doubles b := by
  have htraits : a.annotations.traits = b.annotations.traits ↔ a.traits = b.traits := by
    rw [ha.traits_eq, hb.traits_eq, Except.ok.injEq]
  obtain ⟨text, ht⟩ := ha
  obtain ⟨text', ht'⟩ := hb
  rw [condition, condition, ht, ht', Except.ok.injEq, Condition.build_eq_iff ht ht', htraits]
  constructor
  · rintro ⟨hparse, hparse', hsame⟩
    obtain ⟨p, q, _, hp, hq, _⟩ := Condition.build_eq_ok ht
    exact ⟨HostPattern.eq_of_parse hhost hhost' hp (hparse ▸ hp),
      PathPattern.eq_of_parse hq (hparse' ▸ hq), hsame⟩
  · rintro ⟨hhost, hpath, hsame⟩
    rw [hhost, hpath]
    exact ⟨rfl, rfl, hsame⟩

theorem Rule.Renders.map_condition {rules : List Rule} {bs : List Binding}
    (h : List.Forall₂ Rule.Renders rules bs) :
    (rules.map Rule.condition).map Except.ok = bs.map Binding.condition := by
  induction h with
  | nil => rfl
  | cons hrender _ ih =>
    rw [List.map_cons, List.map_cons, List.map_cons, ih, Binding.condition, hrender.condition]

namespace Roster

variable {r : Roster} {a b : Binding}

theorem Sound.eq_of_rivals (h : r.Sound) (ha : a ∈ r.live) (hb : b ∈ r.live) (hr : a.Rivals b) :
    a = b := by
  obtain ⟨s, hs⟩ := mem_live.1 ha
  obtain ⟨t, ht⟩ := mem_live.1 hb
  rw [h.distinct s t a b hs ht hr.1 hr.2.1 hr.2.2, ht] at hs
  exact (Option.some.inj hs).symm

theorem Sound.dividedAt (h : r.Sound) (ha : a ∈ r.live) (hb : b ∈ r.live) (hhost : a.host = b.host)
    (hpath : a.path = b.path) (hne : a ≠ b) : r.DividedAt a := by
  have hlisted : [a, b] ⊆ r.listing a.host a.path := by
    intro c hc
    rcases List.mem_cons.1 hc with rfl | hc
    · exact h.mem_listing.2 ⟨mem_live.1 ha, rfl, rfl⟩
    · rw [List.mem_singleton.1 hc]
      exact h.mem_listing.2 ⟨mem_live.1 hb, hhost.symm, hpath.symm⟩
  have hnodup : [a, b].Nodup := by simpa using hne
  exact .inl (List.subperm_of_subset hnodup hlisted).length_le

/-- Whoever is displaced is in force no more, and its rival is. -/
theorem Sound.mem_live_displace (h : r.Sound) {slot : Nat} (rival : r.Rival b slot a) {c : Binding} :
    c ∈ (r.displace slot a b).live ↔ c = b ∨ c ∈ r.live ∧ c ≠ a := by
  simp only [mem_live, get?_displace rival.held]
  constructor
  · rintro ⟨x, hx⟩
    split at hx
    · exact .inl (Option.some.inj hx).symm
    · next hne =>
      refine .inr ⟨⟨x, hx⟩, fun he => hne ?_⟩
      exact h.slot_unique hx (he ▸ rival.held)
  · rintro (rfl | ⟨⟨x, hx⟩, hne⟩)
    · exact ⟨slot, if_pos rfl⟩
    · refine ⟨x, ?_⟩
      rw [if_neg, hx]
      rintro rfl
      exact hne (Option.some.inj (hx.symm.trans rival.held))

end Roster

namespace Rulebook

variable {kind : TableKind} {k : Rulebook} {a b c : Binding}

theorem Passes.host_ne (h : Passes kind b) : b.host ≠ "" := by
  obtain ⟨c, hc⟩ := h
  obtain ⟨rfl, _⟩ := check_eq_ok_iff.1 hc
  rw [Binding.kept]
  split
  · exact of_decide_eq_true rfl
  · next hne => exact hne

theorem Checked.passes (h : k.Checked kind) (hb : b ∈ k.roster.live) : Passes k.kind b := by
  obtain ⟨slot, hs⟩ := Roster.mem_live.1 hb
  exact h.holds.live slot b hs

/-- What becomes of a newcomer `b`, as `c` once it is checked, whose rival `a` is in force. -/
structure Contested (k : Rulebook) (b c a : Binding) : Prop where
  merged : c.since = a.since → (k.put b).answer = .ok .unchanged ∧ (k.put b).state = k
  replaced : c.since < a.since → (k.put b).answer = .ok (.replaced a.source) ∧
    ∀ d, d ∈ (k.put b).state.roster.live ↔ d = c ∨ d ∈ k.roster.live ∧ d ≠ a
  refused : a.since < c.since →
    (k.put b).answer = .error (.conflict ⟨c.source, a.source, a.host, a.path⟩) ∧ (k.put b).state = k

theorem put_admitted {v : Admission} {r : Roster} (hc : check k.kind b = .ok c)
    (h : k.roster.put c = (.ok v, r)) :
    (k.put b).answer = .ok v ∧ (k.put b).state = { k with roster := r } := by
  rw [Rulebook.put, hc]
  simp only [h, and_self]

theorem put_conflict {e : Conflict} {r : Roster} (hc : check k.kind b = .ok c)
    (h : k.roster.put c = (.error e, r)) :
    (k.put b).answer = .error (.conflict e) ∧ (k.put b).state = { k with roster := r } := by
  rw [Rulebook.put, hc]
  simp only [h, and_self]

/-- **Who has its host, path and annotations in force already is merged, replaces the holder
or is refused.** -/
theorem Sound.contested (h : k.Sound) (hc : check k.kind b = .ok c) (ha : a ∈ k.roster.live)
    (hr : c.Rivals a) : Contested k b c a := by
  have hholder : ∀ slot old, k.roster.Rival c slot old → old = a := fun slot old rival =>
    h.roster.eq_of_rivals (Roster.mem_live.2 ⟨slot, rival.held⟩) ha (rival.rivals.symm.trans hr)
  have hput := h.roster.put c
  rcases hp : k.roster.put c with ⟨answer, roster⟩
  rw [hp] at hput
  cases hput with
  | inserted free =>
    obtain ⟨slot, hs⟩ := Roster.mem_live.1 ha
    exact absurd ⟨hs, hr.1, hr.2.1, hr.2.2⟩ (free slot a)
  | replaced slot old rival older =>
    obtain rfl := hholder slot old rival
    obtain ⟨hanswer, hstate⟩ := put_admitted hc hp
    refine ⟨fun hsame => ?_, fun _ => ⟨hanswer, fun d => ?_⟩, fun hlt => ?_⟩
    · exact absurd (hsame ▸ older) (UInt64.lt_irrefl _)
    · rw [hstate]
      exact h.roster.mem_live_displace rival
    · exact absurd hlt (UInt64.lt_asymm older)
  | unchanged slot old rival same =>
    obtain rfl := hholder slot old rival
    refine ⟨fun _ => put_admitted hc hp, fun hlt => ?_, fun hlt => ?_⟩
    · exact absurd (same ▸ hlt) (UInt64.lt_irrefl _)
    · exact absurd (same ▸ hlt) (UInt64.lt_irrefl _)
  | refused slot old rival newer =>
    obtain rfl := hholder slot old rival
    refine ⟨fun hsame => ?_, fun hlt => ?_, fun _ => ?_⟩
    · exact absurd (hsame ▸ newer) (UInt64.lt_irrefl _)
    · exact absurd hlt (UInt64.lt_asymm newer)
    · rw [← hr.1, ← hr.2.1]
      exact put_conflict hc hp

/-- How conditions repeat in the advanced tier. -/
structure Exclusive (k : Rulebook) (rules : Rules) : Prop where
  /-- The advanced rules are those of the bindings at divided places, one for one. -/
  renders : ∃ bs, bs.Perm (k.roster.live.filter (k.roster.DividedAt ·)) ∧
    List.Forall₂ Rule.Renders rules.advanced bs
  /-- A condition is there twice only where annotations that differ ask for the same traits. -/
  distinct_iff : (rules.advanced.map Rule.condition).Nodup ↔
    ∀ a ∈ k.roster.live, ∀ b ∈ k.roster.live, a.Doubles b → a.annotations = b.annotations
  /-- Annotations that are the same are in force once at a place. -/
  once : ∀ a ∈ k.roster.live, ∀ b ∈ k.roster.live, a.Rivals b → a = b
  contested : ∀ a ∈ k.roster.live, ∀ b c, check k.kind b = .ok c → c.Rivals a → Contested k b c a

theorem Checked.distinct_iff (h : k.Checked kind) {rules : Rules} (hr : k.roster.rules = .ok rules) :
    (rules.advanced.map Rule.condition).Nodup ↔
      ∀ a ∈ k.roster.live, ∀ b ∈ k.roster.live, a.Doubles b → a.annotations = b.annotations := by
  have hsound := h.holds.consistent.sound
  have hdoubles : ∀ a ∈ k.roster.live, ∀ b ∈ k.roster.live, a.condition = b.condition ↔ a.Doubles b :=
    fun a ha b hb => (h.passes ha).compiles.condition_eq_iff (h.passes hb).compiles
      (h.passes ha).host_ne (h.passes hb).host_ne
  have hnodup : k.roster.tiers.advanced.Nodup :=
    hsound.advanced_perm.nodup_iff.2 (hsound.nodup_live.filter _)
  rw [← List.nodup_map_iff (f := (Except.ok : String → Except Fault String)) fun _ _ => Except.ok.inj,
    Rule.Renders.map_condition (hsound.renders hr).2, List.nodup_map_iff_inj_on hnodup]
  simp only [hsound.mem_advanced]
  constructor
  · intro hinj a ha b hb hd
    by_contra hne
    have hab : a ≠ b := fun he => hne (by rw [he])
    have hdivided := hsound.dividedAt ha hb hd.host hd.path hab
    have hdivided' := hsound.dividedAt hb ha hd.host.symm hd.path.symm hab.symm
    exact hab (hinj a ⟨ha, hdivided⟩ b ⟨hb, hdivided'⟩ ((hdoubles a ha b hb).2 hd))
  · rintro hsame a ⟨ha, _⟩ b ⟨hb, _⟩ he
    have hd := (hdoubles a ha b hb).1 he
    exact hsound.eq_of_rivals ha hb ⟨hd.host, hd.path, hsame a ha b hb hd⟩

/-- **When conditions repeat.** Whatever the run, the rulebook compiles. The conditions in its
advanced tier are distinct exactly when no two bindings of a place ask for the same traits with
annotations that differ. Annotations that do not differ are in force once: whoever comes with
them again is merged, replaces the holder or is refused. -/
theorem Reachable.exclusive (h : Reachable kind k) :
    ∃ rules, k.compile.1 = .ok rules ∧ Exclusive k rules := by
  have hchecked := h.checked
  have hsound := hchecked.sound
  obtain ⟨rules, hr⟩ := Roster.rules_ok hsound.compiles
  exact ⟨rules, compile_eq_ok_iff.2 hr, ⟨_, hsound.roster.advanced_perm, (hsound.roster.renders hr).2⟩,
    hchecked.distinct_iff hr, fun a ha b hb => hsound.roster.eq_of_rivals ha hb,
    fun a ha b c hc => hsound.contested hc ha⟩

/-- One place with two conditions, and a third source that asks for one of them. -/
theorem exclusive_header :
    let header : Annotations := Dict.ofList [(Annotations.headerKey, "X-A: 1")]
    let k := ((((((Rulebook.empty .route).bind "ns/a" "" "/foo" ∅ "ns_a" 1).state).bind "ns/b" ""
      "/foo" header "ns_b" 2).state).bind "ns/c" "" "/foo" header "ns_c" 3).state
    Reachable .route k ∧ ∃ rules, k.compile.1 = .ok rules ∧ Exclusive k rules := by
  intro header k
  have h : Reachable .route k := .bind (.bind (.bind .empty ..) ..) ..
  exact ⟨h, h.exclusive⟩

/-- An annotation that is no trait makes a claim another one, on the same condition. -/
theorem conditions_repeated :
    let team : Annotations := Dict.ofList [("team", "x")]
    let k := ((((Rulebook.empty .route).bind "ns/a" "example.com" "/foo" ∅ "ns_a" 1).state).bind "ns/b"
      "example.com" "/foo" team "ns_b" 2).state
    let condition := "req_host_in(\"example.com\")&&req_path_in(\"/foo\", false)"
    Reachable .route k ∧ ∃ rules, k.compile.1 = .ok rules ∧
      rules.advanced.map Rule.source = ["ns/a", "ns/b"] ∧
      rules.advanced.map Rule.condition = [condition, condition] ∧
      ¬ (rules.advanced.map Rule.condition).Nodup := by
  intro team k condition
  have h : Reachable .route k := .bind (.bind .empty ..) ..
  have hsound := h.checked.sound
  let a : Binding := ⟨"ns/a", "example.com", "/foo", ∅, 1, .forward "ns_a"⟩
  let b : Binding := ⟨"ns/b", "example.com", "/foo", team, 2, .forward "ns_b"⟩
  have hlisted : (k.roster.toSites.filter Site.deferred).flatMap Site.bindings = [a, b] := by
    decide +kernel
  have hadvanced : k.roster.tiers.advanced = [a, b] := by
    rw [Roster.tiers, hlisted, Precedence.sort]
    exact List.mergeSort_of_pairwise (by decide +kernel)
  have ha : Condition.build a.host a.path a.annotations = .ok condition := by decide +kernel
  have hb : Condition.build b.host b.path b.annotations = .ok condition := by decide +kernel
  obtain ⟨rules, hr⟩ := Roster.rules_ok hsound.compiles
  have hrenders := (hsound.roster.renders hr).2
  rw [hadvanced] at hrenders
  obtain ⟨first, rest, hfirst, hrest, hrules⟩ := List.forall₂_cons_right_iff.1 hrenders
  obtain ⟨second, rest, hsecond, hnil, rfl⟩ := List.forall₂_cons_right_iff.1 hrest
  obtain rfl := List.forall₂_nil_right_iff.1 hnil
  have hconditions : rules.advanced.map Rule.condition = [condition, condition] := by
    rw [hrules, List.map_cons, List.map_singleton, Except.ok.inj (hfirst.condition.symm.trans ha),
      Except.ok.inj (hsecond.condition.symm.trans hb)]
  refine ⟨h, rules, compile_eq_ok_iff.2 hr, ?_, hconditions, ?_⟩
  · rw [hrules, List.map_cons, List.map_singleton, hfirst.source, hsecond.source]
  · rw [hconditions]
    simp

end Rulebook

end IngressRouting
