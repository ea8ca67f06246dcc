/-
However conditions are nested, their text is that of their leaves: the texts of those leaves that
have one, from left to right, with one connective between each two (`render_flat`).

A part that every request passes has no text, so it must leave no connective behind, at any depth.
That is why a join is taken apart by `conjoin`, which knows texts that are not there. Two
conditions of the same leaves, up to such parts, are regroupings of each other (`Regrouped`), and
have the same text.
-/
import IngressRouting.Proofs.Condition.Rendering

namespace IngressRouting.Condition

variable {c d : Condition} {t : String} {ts us : List String}

/-! ## Leaves -/

mutual

/-- The tests that a condition is put together from, from left to right. -/
def leaves : Condition → List Condition
  | .host p => [.host p]
  | .path p => [.path p]
  | .traits ts => [.traits ts]
  | .all cs => leavesEach cs

/-- The leaves of several conditions, in order. -/
def leavesEach : List Condition → List Condition
  | [] => []
  | c :: cs => c.leaves ++ leavesEach cs

end

/-- The texts of those leaves that have one. -/
def terms (c : Condition) : List String := c.leaves.filterMap render

theorem leavesEach_append (cs ds : List Condition) :
    leavesEach (cs ++ ds) = leavesEach cs ++ leavesEach ds := by
  induction cs with
  | nil => rfl
  | cons c cs ih => simp only [List.cons_append, leavesEach, ih, List.append_assoc]

mutual

/-- **The text of a condition is that of its leaves.** -/
theorem render_eq_join : ∀ c : Condition, c.render = join c.terms
  | host p => by
    unfold terms leaves
    cases h : (host p).render <;> simp [h, join]
  | path p => by
    unfold terms leaves
    cases h : (path p).render <;> simp [h, join]
  | traits ts => by
    unfold terms leaves
    cases h : (traits ts).render <;> simp [h, join]
  | all cs => by
    unfold render terms leaves
    exact join_renderEach_leaves cs

theorem join_renderEach_leaves :
    ∀ cs : List Condition, join (renderEach cs) = join ((leavesEach cs).filterMap render)
  | [] => rfl
  | c :: cs => by
    rw [join_renderEach_cons, render_eq_join c, join_renderEach_leaves cs, leavesEach,
      List.filterMap_append, join_append]
    rfl

end

theorem render_eq_none_iff : c.render = none ↔ ∀ l ∈ c.leaves, l.render = none := by
  rw [render_eq_join, join_eq_none_iff, terms, List.filterMap_eq_nil_iff]

/-! ## Regrouping -/

/-- Conditions that differ only in how their parts are nested, and in parts that every request
passes. -/
inductive Regrouped : Condition → Condition → Prop
  | refl (c : Condition) : Regrouped c c
  | symm {c d : Condition} (h : Regrouped c d) : Regrouped d c
  | trans {c d e : Condition} (h : Regrouped c d) (h' : Regrouped d e) : Regrouped c e
  | alone (c : Condition) : Regrouped (.all [c]) c
  | nested (before inner after : List Condition) :
    Regrouped (.all (before ++ .all inner :: after)) (.all (before ++ (inner ++ after)))
  | vacuous (before after : List Condition) {c : Condition} (h : c.render = none) :
    Regrouped (.all (before ++ c :: after)) (.all (before ++ after))
  | within (before after : List Condition) {c d : Condition} (h : Regrouped c d) :
    Regrouped (.all (before ++ c :: after)) (.all (before ++ d :: after))

theorem terms_all_append (before after : List Condition) (c : Condition) :
    (all (before ++ c :: after)).terms = (all before).terms ++ (c.terms ++ (all after).terms) := by
  simp only [terms, leaves, leavesEach_append, leavesEach, List.filterMap_append]

theorem terms_eq_nil (h : c.render = none) : c.terms = [] :=
  List.filterMap_eq_nil_iff.2 (render_eq_none_iff.1 h)

theorem Regrouped.terms_eq (h : Regrouped c d) : c.terms = d.terms := by
  induction h with
  | refl c => rfl
  | symm _ ih => exact ih.symm
  | trans _ _ ih ih' => exact ih.trans ih'
  | alone c => simp only [terms, leaves, leavesEach, List.append_nil]
  | nested before inner after =>
    simp only [terms, leaves, leavesEach_append, leavesEach, List.filterMap_append]
  | @vacuous before after c hc =>
    rw [terms_all_append, terms_eq_nil hc]
    simp only [terms, leaves, leavesEach_append, List.filterMap_append, List.nil_append]
  | within before after _ ih => rw [terms_all_append, terms_all_append, ih]

mutual

/-- Any nesting can be undone, so conditions of the same leaves are regroupings of each other. -/
theorem regrouped_leaves : ∀ c : Condition, Regrouped c (.all c.leaves)
  | host p => .symm (.alone (host p))
  | path p => .symm (.alone (path p))
  | traits ts => .symm (.alone (traits ts))
  | all cs => regrouped_leavesEach [] cs

theorem regrouped_leavesEach : ∀ before cs : List Condition,
    Regrouped (.all (before ++ cs)) (.all (before ++ leavesEach cs))
  | before, [] => .refl _
  | before, c :: cs => by
    have hopen : Regrouped (.all (before ++ c :: cs)) (.all (before ++ (c.leaves ++ cs))) :=
      .trans (.within before cs (regrouped_leaves c)) (.nested before c.leaves cs)
    have hrest := regrouped_leavesEach (before ++ c.leaves) cs
    rw [List.append_assoc, List.append_assoc] at hrest
    exact hopen.trans hrest

end

/-! ## Connectives -/

/-- A text that says something, and neither begins nor ends with a connective. -/
structure IsTerm (t : String) : Prop where
  ne_empty : t ≠ ""
  head : t.toList.head? ≠ some '&'
  last : t.toList.getLast? ≠ some '&'

instance (t : String) : Decidable (IsTerm t) :=
  decidable_of_iff (t ≠ "" ∧ t.toList.head? ≠ some '&' ∧ t.toList.getLast? ≠ some '&')
    ⟨fun ⟨hne, hhead, hlast⟩ => ⟨hne, hhead, hlast⟩, fun h => ⟨h.ne_empty, h.head, h.last⟩⟩

theorem IsTerm.toList_ne_nil (h : IsTerm t) : t.toList ≠ [] := by
  intro hnil
  exact h.ne_empty (String.toList_eq_nil_iff.1 hnil)

/-- What stands between two terms does not show at the ends. -/
theorem IsTerm.append {u : String} (ht : IsTerm t) (hu : IsTerm u) (s : String) :
    IsTerm (t ++ s ++ u) := by
  refine ⟨?_, ?_, ?_⟩
  · intro he
    apply ht.toList_ne_nil
    have hnil := congrArg String.toList he
    simp at hnil
    simp [hnil]
  · rw [String.toList_append, String.toList_append, List.append_assoc,
      List.head?_append_of_ne_nil _ ht.toList_ne_nil]
    exact ht.head
  · rw [String.toList_append, List.getLast?_append_of_ne_nil _ hu.toList_ne_nil]
    exact hu.last

theorem isTerm_join (h : ∀ t ∈ ts, IsTerm t) (hj : join ts = some t) : IsTerm t := by
  induction ts generalizing t with
  | nil => cases hj
  | cons u ts ih =>
    obtain ⟨hu, hts⟩ := List.forall_mem_cons.1 h
    rw [join_cons] at hj
    cases hrest : join ts with
    | none =>
      rw [hrest] at hj
      cases hj
      exact hu
    | some v =>
      rw [hrest] at hj
      cases hj
      exact hu.append (ih hts hrest) connective

theorem isTerm_host {p : HostPattern} (h : p.render = some t) : IsTerm t := by
  cases p with
  | any => cases h
  | wildcard suffix =>
    cases h
    exact IsTerm.append (by decide) (by decide) _
  | exact name =>
    cases h
    exact IsTerm.append (by decide) (by decide) _

theorem isTerm_path {p : PathPattern} (h : p.render = some t) : IsTerm t := by
  cases p with
  | any => cases h
  | below path =>
    cases h
    exact IsTerm.append (by decide) (by decide) _
  | exact path =>
    cases h
    exact IsTerm.append (by decide) (by decide) _

theorem isTerm_trait (t : Trait) : IsTerm t.render := by
  have hfunction : IsTerm t.place.function := by cases t.place <;> decide
  have hsplit : t.render = t.place.function ++
      ("(" ++ Quoted.literal t.name ++ ", " ++ Quoted.literal t.value) ++ ", false)" := by
    simp only [Trait.render, String.append_assoc]
  rw [hsplit]
  exact hfunction.append (by decide) _

theorem isTerm_traits {ts : List Trait} (h : (traits ts).render = some t) : IsTerm t := by
  unfold render at h
  refine isTerm_join (fun u hu => ?_) h
  obtain ⟨x, _, rfl⟩ := List.mem_map.1 hu
  exact isTerm_trait x

mutual

/-- The texts of leaves are terms. -/
theorem isTerm_of_mem_terms : ∀ (c : Condition) (t : String), t ∈ c.terms → IsTerm t
  | host p, t, h => by
    obtain ⟨l, hl, ht⟩ := List.mem_filterMap.1 h
    obtain rfl := List.mem_singleton.1 hl
    exact isTerm_host ht
  | path p, t, h => by
    obtain ⟨l, hl, ht⟩ := List.mem_filterMap.1 h
    obtain rfl := List.mem_singleton.1 hl
    exact isTerm_path ht
  | traits ts, t, h => by
    obtain ⟨l, hl, ht⟩ := List.mem_filterMap.1 h
    obtain rfl := List.mem_singleton.1 hl
    exact isTerm_traits ht
  | all cs, t, h => isTerm_of_mem_leavesEach cs t h

theorem isTerm_of_mem_leavesEach :
    ∀ (cs : List Condition) (t : String), t ∈ (leavesEach cs).filterMap render → IsTerm t
  | [], t, h => nomatch h
  | c :: cs, t, h => by
    unfold leavesEach at h
    rw [List.filterMap_append] at h
    rcases List.mem_append.1 h with h | h
    · exact isTerm_of_mem_terms c t h
    · exact isTerm_of_mem_leavesEach cs t h

end

/-- Two connectives with nothing between them. -/
def doubledConnective : List Char := (connective ++ connective).toList

/-- Two connectives in a row take up all their signs within one term. -/
theorem doubled_infix_append {a b : List Char} (ha : a.getLast? ≠ some '&') (hb : b ≠ [])
    (hb' : b.head? ≠ some '&') (h : doubledConnective <:+: a ++ (connective.toList ++ b)) :
    doubledConnective <:+: a ∨ doubledConnective <:+: b := by
  have hdoubled : doubledConnective = List.replicate 4 '&' := rfl
  rcases List.infix_append_iff_ne_nil.1 h with h | h | ⟨x, y, hx, _, hxy, hsuffix, _⟩
  · exact .inl h
  · -- the two signs of one connective are no two connectives
    obtain ⟨c, b, rfl⟩ := List.exists_cons_of_ne_nil hb
    have hc : '&' ≠ c := fun he => hb' (by rw [he]; rfl)
    have hconnective : connective.toList ++ c :: b = '&' :: '&' :: c :: b := rfl
    rw [hconnective, List.infix_cons_iff, List.infix_cons_iff, hdoubled] at h
    rcases h with h | h | h
    · simp [List.replicate, hc] at h
    · simp [List.replicate, hc] at h
    · exact .inr h
  · -- a part of it at the end of a term would end the term
    have hall : ∀ c ∈ x, c = '&' := fun c hm =>
      List.eq_of_mem_replicate (hdoubled ▸ hxy ▸ List.mem_append_left y hm)
    refine absurd ?_ ha
    obtain ⟨z, rfl⟩ := hsuffix
    rw [List.getLast?_append_of_ne_nil z hx, List.getLast?_eq_some_getLast hx]
    exact congrArg some (hall _ (List.getLast_mem hx))

/-- **A join doubles no connective**: where there are two in a row, they are inside a term. -/
theorem doubled_of_join (h : ∀ t ∈ ts, IsTerm t) (hj : join ts = some t)
    (hd : doubledConnective <:+: t.toList) :
    ∃ u ∈ ts, doubledConnective <:+: u.toList := by
  induction ts generalizing t with
  | nil => cases hj
  | cons u ts ih =>
    obtain ⟨hu, hts⟩ := List.forall_mem_cons.1 h
    rw [join_cons] at hj
    cases hrest : join ts with
    | none =>
      rw [hrest] at hj
      cases hj
      exact ⟨u, List.mem_cons_self, hd⟩
    | some v =>
      rw [hrest] at hj
      cases hj
      have hv := isTerm_join hts hrest
      rw [String.toList_append, String.toList_append, List.append_assoc] at hd
      rcases doubled_infix_append hu.last hv.toList_ne_nil hv.head hd with hd | hd
      · exact ⟨u, List.mem_cons_self, hd⟩
      · obtain ⟨w, hw, hd⟩ := ih hts hrest hd
        exact ⟨w, List.mem_cons_of_mem u hw, hd⟩

/-! ## Flat texts -/

/-- What the text of a condition comes to. -/
structure Flat (c : Condition) : Prop where
  none_iff : c.render = none ↔ ∀ l ∈ c.leaves, l.render = none
  some_iff : ∀ t, c.render = some t ↔ c.terms ≠ [] ∧ t = connective.intercalate c.terms
  regrouped : ∀ d, Regrouped c d → d.render = c.render
  /-- No term is empty, and none brings a connective along at its ends. -/
  terms : ∀ t ∈ c.terms, IsTerm t
  ends : ∀ t, c.render = some t → IsTerm t
  doubled : ∀ t, c.render = some t → doubledConnective <:+: t.toList →
    ∃ u ∈ c.terms, doubledConnective <:+: u.toList

theorem join_eq_some_iff : join ts = some t ↔ ts ≠ [] ∧ t = connective.intercalate ts := by
  cases ts with
  | nil => simp [join]
  | cons u us =>
    unfold join
    constructor
    · intro h
      exact ⟨List.cons_ne_nil u us, (Option.some.inj h).symm⟩
    · intro h
      rw [h.2]

/-- **The text of a condition is flat.** However tests are nested, there is no text exactly where no
leaf has one, and otherwise the texts of the leaves are joined from left to right. So regrouping
changes nothing, nor do parts that every request passes, and these leave no empty term, and no
connective at an end or beside another. -/
theorem render_flat (c : Condition) : c.Flat where
  none_iff := render_eq_none_iff
  some_iff t := by rw [render_eq_join, join_eq_some_iff]
  regrouped d h := by rw [render_eq_join, render_eq_join c, h.terms_eq]
  terms := isTerm_of_mem_terms c
  ends t h := by
    rw [render_eq_join] at h
    exact isTerm_join (isTerm_of_mem_terms c) h
  doubled t h hd := by
    rw [render_eq_join] at h
    exact doubled_of_join (isTerm_of_mem_terms c) h hd

/-- Nothing, nothing within nothing, a path within brackets of its own, and traits that are none:
the path alone is left. A path may hold two connectives itself. -/
theorem render_flat_brackets :
    let path := Condition.path (.exact "/a&&&&b")
    let c := all [.host .any, .all [.all []], .all [.all [path], .traits []], .path .any]
    Regrouped c (.all c.leaves) ∧ (Condition.all c.leaves).render = c.render ∧
      c.render = some "req_path_in(\"/a&&&&b\", false)" := by
  intro path c
  have hregrouped : Regrouped c (.all c.leaves) := regrouped_leaves c
  have htext : c.render = some "req_path_in(\"/a&&&&b\", false)" := by decide +kernel
  exact ⟨hregrouped, (render_flat c).regrouped _ hregrouped, htext⟩

end IngressRouting.Condition
