/-
Bindings put one after the other into an empty roster, whatever comes of each
(`Roster.putAll`). Of those that rival each other one is in force in the end: the oldest,
and the first to come where several are of that age. It stands where the first of its
rivals came in, so a host and path lists its annotations in the order in which they first
occurred (`Roster.putAll_inForce`).

Neither depends on what happens elsewhere: a binding settles among the rivals of another
as it does among all, and so it does at one host and path (`filter_settle_of_rivals`).
-/
import IngressRouting.Proofs.Roster.Calls
import Mathlib.Data.List.MinMax

namespace IngressRouting

variable {b c : Binding} {bs : List Binding}

/-! ## Who holds a place -/

/-- **Of the rivals of a binding the first among the oldest is left**, and nobody where
there are none. -/
theorem filter_rivals_settleAll (c : Binding) (bs : List Binding) :
    (settleAll bs []).filter (·.Rivals c) =
      ((bs.filter (·.Rivals c)).argmin (·.since.toNat)).toList := by
  induction bs using List.reverseRecOn with
  | nil => rfl
  | append_singleton bs b ih =>
    have hsettle : settleAll (bs ++ [b]) [] = settle b (settleAll bs []) := settleAll_settleAll bs [b] []
    have hrivals : ∀ x y : Binding, x.Rivals y → decide (x.Rivals c) = decide (y.Rivals c) :=
      fun x y h => decide_eq_decide.2 ⟨h.symm.trans, h.trans⟩
    rw [hsettle, filter_settle_of_rivals hrivals, ih, List.filter_append]
    by_cases hb : b.Rivals c
    · have hself : [b].filter (·.Rivals c) = [b] := by simp [hb]
      rw [if_pos (decide_eq_true hb), hself, List.argmin_concat]
      cases hm : (bs.filter (·.Rivals c)).argmin (·.since.toNat) with
      | none => rfl
      | some x =>
        have hx : x.Rivals c := by simpa using (List.mem_filter.1 (List.argmin_mem hm)).2
        simp only [Option.toList_some, settle, if_pos (hb.trans hx.symm), UInt64.lt_iff_toNat_lt]
        split <;> rfl
    · rw [if_neg (by simpa using hb)]
      simp [hb]

/-! ## In which order -/

/-- A newcomer adds its annotations behind those at its host and path, where they are not
there yet. -/
theorem map_annotations_settle (hplace : ∀ x ∈ bs, x.host = b.host ∧ x.path = b.path) :
    (settle b bs).map (·.annotations) =
      if b.annotations ∈ bs.map (·.annotations) then bs.map (·.annotations)
      else bs.map (·.annotations) ++ [b.annotations] := by
  induction bs with
  | nil => rfl
  | cons x bs ih =>
    obtain ⟨hx, hrest⟩ := List.forall_mem_cons.1 hplace
    rw [settle, List.map_cons]
    by_cases ha : b.annotations = x.annotations
    · have hmem : b.annotations ∈ x.annotations :: bs.map (·.annotations) := ha ▸ List.mem_cons_self
      rw [if_pos ⟨hx.1.symm, hx.2.symm, ha⟩, if_pos hmem]
      split
      · rw [List.map_cons, ha]
      · rfl
    · rw [if_neg fun hr => ha hr.2.2, List.map_cons, ih hrest]
      simp only [List.mem_cons, ha, false_or]
      split <;> rfl

theorem eraseDups_concat {α : Type} [DecidableEq α] (l : List α) (a : α) :
    (l ++ [a]).eraseDups = if a ∈ l then l.eraseDups else l.eraseDups ++ [a] := by
  rw [List.eraseDups_append]
  by_cases ha : a ∈ l <;> simp [List.removeAll, ha, List.eraseDups_cons]

/-- **Annotations stand in the order in which they first occurred.** -/
theorem map_annotations_settleAll {host path : String}
    (hplace : ∀ x ∈ bs, x.host = host ∧ x.path = path) :
    (settleAll bs []).map (·.annotations) = (bs.map (·.annotations)).eraseDups := by
  induction bs using List.reverseRecOn with
  | nil => rfl
  | append_singleton bs b ih =>
    have hsettle : settleAll (bs ++ [b]) [] = settle b (settleAll bs []) := settleAll_settleAll bs [b] []
    obtain ⟨hbs, hb⟩ := List.forall_mem_append.1 hplace
    obtain ⟨rfl, rfl⟩ := hb b List.mem_cons_self
    have hsettled : ∀ x ∈ settleAll bs [], x.host = b.host ∧ x.path = b.path := fun x hx =>
      hbs x ((mem_settleAll hx).resolve_right List.not_mem_nil)
    rw [hsettle, map_annotations_settle hsettled, ih hbs, List.map_append, List.map_singleton,
      eraseDups_concat]
    simp only [List.mem_eraseDups]

namespace Roster

/-- Puts bindings one after the other into an empty roster. One that is refused changes
nothing. -/
def putAll (bs : List Binding) : Roster := bs.foldl (fun r b => (r.put b).2) empty

theorem lists_putAll (bs : List Binding) : (putAll bs).Sound ∧ (putAll bs).Lists (settleAll bs []) := by
  induction bs using List.reverseRecOn with
  | nil => exact ⟨sound_empty, lists_empty⟩
  | append_singleton bs b ih =>
    obtain ⟨hsound, hl⟩ := ih
    have hput : putAll (bs ++ [b]) = ((putAll bs).put b).2 := by simp [putAll]
    rw [hput, settleAll_settleAll]
    exact ⟨hsound.call (.put b), hl.put hsound b⟩

/-- **The oldest is in force, and the first writer among those of one age.** Whatever is
put into an empty roster, for each host, path and annotations one binding is in force, the
first of those that are the oldest; and each site lists annotations in the order in which
they first came. -/
theorem putAll_inForce (bs : List Binding) :
    (∀ c ∈ bs, ∃ b, (bs.filter (·.Rivals c)).argmin (·.since.toNat) = some b ∧
      (putAll bs).toList.filter (·.Rivals c) = [b]) ∧
    ∀ s ∈ (putAll bs).toSites, s.bindings.map (·.annotations) =
      ((bs.filter (·.isAt s.host s.path)).map (·.annotations)).eraseDups := by
  obtain ⟨hsound, hl⟩ := lists_putAll bs
  refine ⟨fun c hc => ?_, fun s hs => ?_⟩
  · have hplace : ∀ cs : List Binding, cs.filter (·.Rivals c) =
        (cs.filter (·.isAt c.host c.path)).filter (·.Rivals c) := fun cs => by
      rw [List.filter_filter]
      refine List.filter_congr fun x _ => ?_
      have hat : x.Rivals c → x.isAt c.host c.path = true := fun hr => Binding.isAt_iff.2 ⟨hr.1, hr.2.1⟩
      by_cases hr : x.Rivals c <;> simp [hr, hat]
    have hheld : (putAll bs).toList.filter (·.Rivals c) =
        ((bs.filter (·.Rivals c)).argmin (·.since.toNat)).toList := by
      rw [hplace, ← hsound.lists_toList, hl, ← hplace, filter_rivals_settleAll]
    have hsome : bs.filter (·.Rivals c) ≠ [] :=
      List.ne_nil_of_mem (List.mem_filter.2 ⟨hc, decide_eq_true (.refl c)⟩)
    cases hb : (bs.filter (·.Rivals c)).argmin (·.since.toNat) with
    | none => exact absurd (List.argmin_eq_none.1 hb) hsome
    | some b => exact ⟨b, rfl, by rw [hheld, hb, Option.toList_some]⟩
  · rw [(hsound.mem_toSites.1 hs).2, hl, filter_settleAll, List.filter_nil]
    exact map_annotations_settleAll fun x hx => Binding.isAt_iff.1 (List.mem_filter.1 hx).2

/-- A binding is overwritten by an older one and stays in front of one that came between
them; the writers that follow are refused or of the same age. -/
theorem putAll_inForce_contended :
    let header : Annotations := Dict.ofList [(Annotations.headerKey, "X-A: 1")]
    let a : Binding := ⟨"ns/a", "example.com", "/foo", ∅, 7, .forward "ns_a"⟩
    let b : Binding := ⟨"ns/b", "example.com", "/foo", header, 5, .forward "ns_b"⟩
    let c : Binding := ⟨"ns/c", "example.com", "/foo", ∅, 3, .forward "ns_c"⟩
    let d : Binding := ⟨"ns/d", "example.com", "/foo", ∅, 3, .forward "ns_d"⟩
    let bs := [a, b, c, { a with source := "ns/e" }, d]
    a ∈ bs ∧ (bs.filter (·.Rivals a)).argmin (·.since.toNat) = some c ∧
      (∃ e, (bs.filter (·.Rivals a)).argmin (·.since.toNat) = some e ∧
        (putAll bs).toList.filter (·.Rivals a) = [e]) ∧
      ⟨"example.com", "/foo", [c, b]⟩ ∈ (putAll bs).toSites ∧
      [c, b].map (·.annotations) = ((bs.filter (·.isAt "example.com" "/foo")).map (·.annotations)).eraseDups := by
  intro header a b c d bs
  have ha : a ∈ bs := List.mem_cons_self
  have hlisted : [c, b] = (putAll bs).listing "example.com" "/foo" := by decide +kernel
  have hsite : (⟨"example.com", "/foo", [c, b]⟩ : Site) ∈ (putAll bs).toSites :=
    (lists_putAll bs).1.mem_toSites.2 ⟨List.cons_ne_nil _ _, hlisted⟩
  exact ⟨ha, by decide +kernel, (putAll_inForce bs).1 a ha, hsite, (putAll_inForce bs).2 _ hsite⟩

end Roster

end IngressRouting
