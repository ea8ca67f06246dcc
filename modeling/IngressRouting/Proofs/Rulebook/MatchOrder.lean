/-
The order in which the rules of a rulebook are tried.

The advanced tier is sorted by precedence, so none of its rules is shadowed by
one that covers it strictly and comes first (`Reachable.advanced_unshadowed`).

A redirect table puts the basic rules before the advanced ones, and the basic
rules come by host and then by path, as texts. In that order the text for every
host comes before every name, and so does a marker with a suffix: a basic rule
can keep a more special one from ever being tried (`redirect_everyHost_first`).
`Reachable.redirect_inOrder_iff` says exactly when none does.
-/
import IngressRouting.Proofs.Coverage
import IngressRouting.Proofs.Rulebook.Accounting
import IngressRouting.Table

namespace IngressRouting

/-- The row answers as the binding says, on the condition of the binding. -/
structure RedirectRow.Renders (row : RedirectRow) (b : Binding) : Prop where
  condition : Condition.build b.host b.path b.annotations = .ok row.condition
  effect : ∃ action, row.actions = [action] ∧ b.effect = .redirect action row.status

/-- The place of the one binding comes before that of the other as a text: by host,
then by path. -/
def Binding.Before (a b : Binding) : Prop := a.host < b.host ∨ a.host = b.host ∧ a.path < b.path

namespace Binding.Before

variable {a b : Binding}

theorem asymm (h : a.Before b) : ¬ b.Before a :=
  Site.Before.asymm (show Site.Before ⟨a.host, a.path, []⟩ ⟨b.host, b.path, []⟩ from h)

theorem of_not (hplace : ¬ (a.host = b.host ∧ a.path = b.path)) (h : ¬ b.Before a) : a.Before b :=
  show Site.Before ⟨a.host, a.path, []⟩ ⟨b.host, b.path, []⟩ from Site.Before.of_not hplace h

end Binding.Before

/-- In an ascending list, what holds of no element and a later one holds of no two
that ascend. -/
theorem pairwise_iff_of_ascending {α : Type} {S R : α → α → Prop} {l : List α}
    (asymm : ∀ a b, S a b → ¬ S b a) (h : l.Pairwise S) :
    l.Pairwise R ↔ ∀ a ∈ l, ∀ b ∈ l, S a b → R a b := by
  induction l with
  | nil => simp
  | cons x l ih =>
    obtain ⟨hx, h⟩ := List.pairwise_cons.1 h
    rw [List.pairwise_cons, ih h]
    constructor
    · rintro ⟨hhead, hrest⟩ a ha b hb hs
      rcases List.mem_cons.1 ha with rfl | hal <;> rcases List.mem_cons.1 hb with rfl | hbl
      · exact absurd hs (asymm _ _ hs)
      · exact hhead b hbl
      · exact absurd hs (asymm _ _ (hx a hal))
      · exact hrest a hal b hbl hs
    · intro hall
      exact ⟨fun b hb => hall x List.mem_cons_self b (List.mem_cons_of_mem _ hb) (hx b hb),
        fun a ha b hb => hall a (List.mem_cons_of_mem _ ha) b (List.mem_cons_of_mem _ hb)⟩

namespace Roster

variable {r : Roster} {b : Binding}

/-- Conditions decide at the place of the binding. -/
def DividedAt (r : Roster) (b : Binding) : Prop := Divided (r.listing b.host b.path)

instance (r : Roster) (b : Binding) : Decidable (r.DividedAt b) := inferInstanceAs (Decidable (Divided _))

theorem Sound.mem_sites_filter (h : r.Sound) {p : Site → Bool} {P : List Binding → Prop}
    (hp : ∀ s ∈ r.toSites, p s = true ↔ P s.bindings) :
    b ∈ (r.toSites.filter p).flatMap Site.bindings ↔ b ∈ r.live ∧ P (r.listing b.host b.path) := by
  simp only [List.mem_flatMap, List.mem_filter, mem_live]
  constructor
  · rintro ⟨s, ⟨hs, hsp⟩, hb⟩
    obtain ⟨hne, hplace⟩ := h.site_place hs
    obtain ⟨_, hlisting⟩ := h.mem_toSites.1 hs
    obtain ⟨hslot, _⟩ := h.mem_listing.1 (hlisting ▸ hb)
    rw [(hplace b hb).1, (hplace b hb).2, ← hlisting]
    exact ⟨hslot, (hp s hs).1 hsp⟩
  · rintro ⟨hslot, hP⟩
    have hb : b ∈ r.listing b.host b.path := h.mem_listing.2 ⟨hslot, rfl, rfl⟩
    have hs : (⟨b.host, b.path, r.listing b.host b.path⟩ : Site) ∈ r.toSites :=
      h.mem_toSites.2 ⟨List.ne_nil_of_mem hb, rfl⟩
    exact ⟨_, ⟨hs, (hp _ hs).2 hP⟩, hb⟩

theorem Sound.mem_advanced (h : r.Sound) : b ∈ r.tiers.advanced ↔ b ∈ r.live ∧ r.DividedAt b := by
  rw [tiers, Precedence.sort, List.mem_mergeSort]
  exact h.mem_sites_filter fun s hs => Site.deferred_iff (h.site_place hs).1

theorem Sound.mem_plain (h : r.Sound) : b ∈ r.plain ↔ b ∈ r.live ∧ ¬ r.DividedAt b := by
  refine h.mem_sites_filter (P := fun bs => ¬ Divided bs) fun s hs => ?_
  rw [Bool.not_eq_true', ← Bool.not_eq_true, Site.deferred_iff (h.site_place hs).1]

theorem Sound.advanced_perm (h : r.Sound) : r.tiers.advanced.Perm (r.live.filter (r.DividedAt ·)) := by
  have hn : (r.plain ++ r.tiers.advanced).Nodup := h.plain_advanced_perm.nodup_iff.2 h.nodup_live
  refine (List.perm_ext_iff_of_nodup (List.nodup_append.1 hn).2.1 (h.nodup_live.filter _)).2 fun b => ?_
  rw [h.mem_advanced, List.mem_filter, decide_eq_true_iff]

/-- The plain bindings ascend, since there is one of them at each of their sites. -/
theorem Sound.plain_ascending (h : r.Sound) : r.plain.Pairwise Binding.Before := by
  rw [plain, List.pairwise_flatMap]
  refine ⟨fun s hs => ?_, ?_⟩
  · obtain ⟨hs, hd⟩ := List.mem_filter.1 hs
    have hone : s.bindings.length ≤ 1 := by
      by_contra hlen
      have hdeferred := (Site.deferred_iff (h.site_place hs).1).2 (.inl (by omega))
      rw [hdeferred] at hd
      cases hd
    exact List.pairwise_iff_getElem.2 fun i j hi hj hij => by omega
  · refine (r.toSites_ascending.filter _).imp_of_mem fun {s t} hs ht hst a ha b hb => ?_
    obtain ⟨hhost, hpath⟩ := (h.site_place (List.mem_filter.1 hs).1).2 a ha
    obtain ⟨hhost', hpath'⟩ := (h.site_place (List.mem_filter.1 ht).1).2 b hb
    rw [Binding.Before, hhost, hpath, hhost', hpath']
    exact hst

/-- **In the advanced tier nothing comes behind what covers it strictly.** -/
theorem Sound.advanced_pairwise (h : r.Sound) (hc : ∀ b ∈ r.live, b.Compiles) :
    r.tiers.advanced.Pairwise fun a b => ¬ a.StrictlyCovers b := by
  refine (Precedence.pairwise_sort _).imp_of_mem fun {a b} ha hb hle hcovers => hle ?_
  have hlive : ∀ c ∈ r.tiers.advanced, c.Compiles := fun c hm => hc c (h.mem_advanced.1 hm).1
  exact Precedence.order_eq_gt_of_strictlyCovers (hlive a ha).traits_eq (hlive b hb).traits_eq hcovers

/-- **When nothing comes behind what overshadows it**, the plain bindings first:
whatever a plain binding overshadows is plain too, and comes before it as a text. -/
theorem Sound.unshadowed_iff (h : r.Sound) (hc : ∀ b ∈ r.live, b.Compiles) :
    (r.plain ++ r.tiers.advanced).Pairwise (fun a b => ¬ a.Overshadows b) ↔
      ∀ a ∈ r.live, ∀ b ∈ r.live, a.Overshadows b → ¬ r.DividedAt a →
        ¬ r.DividedAt b ∧ b.Before a := by
  have hadvanced : r.tiers.advanced.Pairwise fun a b => ¬ a.Overshadows b :=
    (h.advanced_pairwise hc).imp fun hn ho => hn ho.strictly
  rw [List.pairwise_append, and_iff_right hadvanced,
    pairwise_iff_of_ascending (fun _ _ => Binding.Before.asymm) h.plain_ascending]
  simp only [h.mem_plain, h.mem_advanced]
  constructor
  · rintro ⟨hplain, hacross⟩ a ha b hb ho hda
    have hdb : ¬ r.DividedAt b := fun hdb => hacross a ⟨ha, hda⟩ b ⟨hb, hdb⟩ ho
    refine ⟨hdb, .of_not (fun he => ho.2 ⟨he.1.symm, he.2.symm⟩) fun hbefore => ?_⟩
    exact hplain a ⟨ha, hda⟩ b ⟨hb, hdb⟩ hbefore ho
  · intro hall
    refine ⟨fun a ha b hb hbefore ho => ?_, fun a ha b hb ho => ?_⟩
    · exact hbefore.asymm (hall a ha.1 b hb.1 ho ha.2).2
    · exact (hall a ha.1 b hb.1 ho ha.2).1 hb.2

end Roster

theorem RedirectTable.forall₂_row {as : List Rule} {bs : List Binding}
    (h : List.Forall₂ Rule.Renders as bs) (hkind : ∀ b ∈ bs, b.kind = .redirect) :
    List.Forall₂ RedirectRow.Renders (as.filterMap RedirectTable.row?) bs := by
  induction h with
  | nil => exact .nil
  | @cons a b as bs hrender _ ih =>
    obtain ⟨action, status, heffect⟩ : ∃ action status, b.effect = .redirect action status := by
      have hk := hkind b List.mem_cons_self
      rw [Binding.kind] at hk
      cases he : b.effect with
      | forward target => rw [he] at hk; cases hk
      | redirect action status => exact ⟨action, status, rfl⟩
    have hact : a.action = .redirect action status := by rw [hrender.action, heffect]; rfl
    have hrow : RedirectTable.row? a = some ⟨a.condition, [action], status⟩ := by
      rw [RedirectTable.row?, hact]
    rw [List.filterMap_cons_some hrow]
    exact .cons ⟨hrender.condition, action, rfl, heffect⟩
      (ih fun c hc => hkind c (List.mem_cons_of_mem _ hc))

namespace Rulebook

variable {kind : TableKind} {k : Rulebook}

theorem Checked.compiles (h : k.Checked kind) : ∀ b ∈ k.roster.live, b.Compiles := fun b hb => by
  obtain ⟨slot, hs⟩ := Roster.mem_live.1 hb
  exact (h.holds.live slot b hs).compiles

theorem Checked.kind_eq (h : k.Checked kind) : ∀ b ∈ k.roster.live, b.kind = kind := fun b hb => by
  obtain ⟨slot, hs⟩ := Roster.mem_live.1 hb
  exact (h.holds.live slot b hs).kind_eq.trans h.kind

/-- **No advanced rule is shadowed.** Whatever the run, the rulebook compiles, its
advanced rules are those of the bindings at divided places, one for one, and none
of them comes behind one whose binding covers its own strictly. -/
theorem Reachable.advanced_unshadowed (h : Reachable kind k) :
    ∃ rules, k.compile.1 = .ok rules ∧ ∃ bs, bs.Perm (k.roster.live.filter (k.roster.DividedAt ·)) ∧
      List.Forall₂ Rule.Renders rules.advanced bs ∧ bs.Pairwise fun a b => ¬ a.StrictlyCovers b := by
  have hchecked := h.checked
  have hsound := hchecked.holds.consistent.sound
  obtain ⟨rules, hr⟩ := Roster.rules_ok fun slot b hb => (hchecked.holds.live slot b hb).compiles
  exact ⟨rules, compile_eq_ok_iff.2 hr, _, hsound.advanced_perm, (hsound.renders hr).2,
    hsound.advanced_pairwise hchecked.compiles⟩

/-- Two bindings at divided places, the one that covers the other put first. -/
theorem advanced_unshadowed_suffix :
    let header : Annotations := Dict.ofList [(Annotations.headerKey, "X-A: 1")]
    let both := header.insert Annotations.cookieKey "c: 2"
    let wide : Binding := ⟨"ns/a", "*.example.com", "/foo*", header, 1, .forward "ns_a"⟩
    let narrow : Binding := ⟨"ns/b", "www.example.com", "/foo/bar*", both, 2, .forward "ns_b"⟩
    let k := (((Rulebook.empty .route).put wide).state.put narrow).state
    Reachable .route k ∧ wide.StrictlyCovers narrow ∧
      k.roster.live.filter (k.roster.DividedAt ·) = [wide, narrow] ∧
      ∃ rules, k.compile.1 = .ok rules ∧ ∃ bs,
        bs.Perm (k.roster.live.filter (k.roster.DividedAt ·)) ∧
        List.Forall₂ Rule.Renders rules.advanced bs ∧ bs.Pairwise fun a b => ¬ a.StrictlyCovers b := by
  intro header both wide narrow k
  have h : Reachable .route k := .put (.put .empty wide) narrow
  exact ⟨h, by decide +kernel, by decide +kernel, Reachable.advanced_unshadowed h⟩

/-- The rows of a redirect rulebook are those of the bindings in force, the plain
ones first. -/
theorem Reachable.redirect_rows (h : Reachable .redirect k) : ∃ rules, k.compile.1 = .ok rules ∧
    List.Forall₂ Rule.Renders (rules.basic.filter (!·.isPlaceholder) ++ rules.advanced)
      (k.roster.plain ++ k.roster.tiers.advanced) ∧
    List.Forall₂ RedirectRow.Renders (RedirectTable.ofRules rules).rows
      (k.roster.plain ++ k.roster.tiers.advanced) := by
  have hchecked := h.checked
  have hsound := hchecked.holds.consistent.sound
  obtain ⟨rules, hr⟩ := Roster.rules_ok fun slot b hb => (hchecked.holds.live slot b hb).compiles
  obtain ⟨hplain, hadvanced⟩ := hsound.renders hr
  have hrenders := List.rel_append hplain hadvanced
  refine ⟨rules, compile_eq_ok_iff.2 hr, hrenders, ?_⟩
  rw [RedirectTable.rows_ofRules]
  exact RedirectTable.forall₂_row hrenders fun b hb =>
    hchecked.kind_eq b (hsound.plain_advanced_perm.mem_iff.1 hb)

/-- **When a redirect table is in match order.** Its rows are those of the bindings
in force, one for one. No row overshadows a later one exactly when whatever is
overshadowed by a binding at an undivided place is at an undivided place too, and
one that comes before as a text. -/
theorem Reachable.redirect_inOrder_iff (h : Reachable .redirect k) :
    ∃ rules, k.compile.1 = .ok rules ∧ ∃ bs, bs.Perm k.roster.live ∧
      List.Forall₂ Rule.Renders (rules.basic.filter (!·.isPlaceholder) ++ rules.advanced) bs ∧
      List.Forall₂ RedirectRow.Renders (RedirectTable.ofRules rules).rows bs ∧
      (bs.Pairwise (fun a b => ¬ a.Overshadows b) ↔
        ∀ a ∈ k.roster.live, ∀ b ∈ k.roster.live, a.Overshadows b → ¬ k.roster.DividedAt a →
          ¬ k.roster.DividedAt b ∧ b.Before a) := by
  have hchecked := h.checked
  have hsound := hchecked.holds.consistent.sound
  obtain ⟨rules, hr, hrenders, hrows⟩ := h.redirect_rows
  exact ⟨rules, hr, _, hsound.plain_advanced_perm, hrenders, hrows,
    hsound.unshadowed_iff hchecked.compiles⟩

/-- Annotations that ask for a redirect to `https`. -/
def toHttps : Annotations := Dict.ofList [(Annotations.schemeSetKey, "https")]

/-- What a source that asks for `toHttps` at a place comes to. -/
def toHttpsAt (source host path : String) (since : UInt64) : Binding :=
  ⟨source, host, path, toHttps, since, .redirect ⟨.schemeSet, ["https"]⟩ 302⟩

/-- A path before the paths below it. -/
theorem redirect_inOrder_path :
    let k := ((((Rulebook.empty .redirect).bind "ns/a" "" "/foo*" toHttps "" 1).state).bind "ns/b" ""
      "/foo" toHttps "" 2).state
    Reachable .redirect k ∧
      k.roster.live = [toHttpsAt "ns/a" "*" "/foo*" 1, toHttpsAt "ns/b" "*" "/foo" 2] ∧
      ∃ rules, k.compile.1 = .ok rules ∧ ∃ bs, bs.Perm k.roster.live ∧
        List.Forall₂ Rule.Renders (rules.basic.filter (!·.isPlaceholder) ++ rules.advanced) bs ∧
        List.Forall₂ RedirectRow.Renders (RedirectTable.ofRules rules).rows bs ∧
        (bs.Pairwise (fun a b => ¬ a.Overshadows b) ↔
          ∀ a ∈ k.roster.live, ∀ b ∈ k.roster.live, a.Overshadows b → ¬ k.roster.DividedAt a →
            ¬ k.roster.DividedAt b ∧ b.Before a) := by
  intro k
  have h : Reachable .redirect k := .bind (.bind .empty ..) ..
  exact ⟨h, by decide +kernel, Reachable.redirect_inOrder_iff h⟩

/-- A redirect for every host comes before that of one host, and is tried first. -/
theorem redirect_everyHost_first :
    let k := ((((Rulebook.empty .redirect).bind "ns/a" "*" "/foo" toHttps "" 1).state).bind "ns/b"
      "example.com" "/foo" toHttps "" 2).state
    let wide := toHttpsAt "ns/a" "*" "/foo" 1
    let narrow := toHttpsAt "ns/b" "example.com" "/foo" 2
    Reachable .redirect k ∧ wide.Overshadows narrow ∧ ∃ rules, k.compile.1 = .ok rules ∧
      List.Forall₂ Rule.Renders (rules.basic.filter (!·.isPlaceholder) ++ rules.advanced) [wide, narrow] ∧
      List.Forall₂ RedirectRow.Renders (RedirectTable.ofRules rules).rows [wide, narrow] := by
  intro k wide narrow
  have h : Reachable .redirect k := .bind (.bind .empty ..) ..
  have hlisted : k.roster.plain ++ k.roster.tiers.advanced = [wide, narrow] := by decide +kernel
  obtain ⟨rules, hr, hrenders, hrows⟩ := h.redirect_rows
  rw [hlisted] at hrenders hrows
  exact ⟨h, by decide +kernel, rules, hr, hrenders, hrows⟩

end Rulebook

end IngressRouting
