/-
Dictionaries seen through their lookups. Entries are in key order, so a
dictionary is determined by what each key looks up (`Dict.ext_get?`); every law
of insertion and removal below follows from that.
-/
import IngressRouting.Gateway

namespace IngressRouting

namespace Entries

variable {α : Type}

theorem get?_eq_none_of_lt {k : String} {es : List (String × α)} (h : ∀ e ∈ es, k < e.1) :
    get? k es = none := by
  induction es with
  | nil => rfl
  | cons e es ih =>
    obtain ⟨k', v⟩ := e
    have hne : k ≠ k' := fun he => String.lt_irrefl k' (he ▸ h (k', v) List.mem_cons_self)
    rw [get?, if_neg hne]
    exact ih fun e he => h e (List.mem_cons_of_mem _ he)

theorem get?_eq_some_iff {k : String} {v : α} {es : List (String × α)} (ha : Ascending es) :
    get? k es = some v ↔ (k, v) ∈ es := by
  induction es with
  | nil => simp [get?]
  | cons e es ih =>
    obtain ⟨k', v'⟩ := e
    have ha' := List.pairwise_cons.1 ha
    rw [get?, List.mem_cons, Prod.mk.injEq]
    by_cases hk : k = k'
    · subst hk
      have hnot : (k, v) ∉ es := fun hm => String.lt_irrefl k (ha'.1 _ hm)
      simp [hnot, eq_comm]
    · simp [hk, ih ha'.2]

/-- The keys of two ascending lists start with the same one when they look up
the same. -/
theorem head_le_of_get? {k k' : String} {v v' : α} {es es' : List (String × α)}
    (ha : Ascending ((k', v') :: es'))
    (h : get? k ((k, v) :: es) = get? k ((k', v') :: es')) : ¬ k < k' := by
  intro hlt
  have hnone : get? k ((k', v') :: es') = none := by
    refine get?_eq_none_of_lt fun e he => ?_
    rcases List.mem_cons.1 he with rfl | he
    · exact hlt
    · exact String.lt_trans hlt ((List.pairwise_cons.1 ha).1 e he)
  rw [hnone] at h
  simp [get?] at h

theorem eq_of_get? : ∀ {es es' : List (String × α)}, Ascending es → Ascending es' →
    (∀ k, get? k es = get? k es') → es = es'
  | [], [], _, _, _ => rfl
  | [], (k, v) :: es', _, _, h => by have := h k; simp [get?] at this
  | (k, v) :: es, [], _, _, h => by have := h k; simp [get?] at this
  | (k, v) :: es, (k', v') :: es', ha, ha', h => by
    have hk : k = k' := by
      refine String.le_antisymm (String.not_lt.1 ?_) (String.not_lt.1 ?_)
      · exact head_le_of_get? ha (h k').symm
      · exact head_le_of_get? ha' (h k)
    subst hk
    have hv : v = v' := by simpa [get?] using h k
    subst hv
    have hp := List.pairwise_cons.1 ha
    have hp' := List.pairwise_cons.1 ha'
    have htail : es = es' := by
      refine eq_of_get? hp.2 hp'.2 fun j => ?_
      by_cases hj : j = k
      · subst hj
        rw [get?_eq_none_of_lt hp.1, get?_eq_none_of_lt hp'.1]
      · simpa [get?, hj] using h j
    rw [htail]

end Entries

namespace Dict

variable {α β : Type}

/-- **A dictionary is what it looks up.** -/
theorem ext_get? {d e : Dict α} (h : ∀ k, d.get? k = e.get? k) : d = e :=
  ext (Entries.eq_of_get? d.ascending e.ascending h)

theorem get?_eq_some_iff {d : Dict α} {k : String} {v : α} : d.get? k = some v ↔ (k, v) ∈ d.entries :=
  Entries.get?_eq_some_iff d.ascending

@[simp] theorem get?_emptyCollection (k : String) : (∅ : Dict α).get? k = none := rfl

theorem isEmpty_iff {d : Dict α} : d.isEmpty = true ↔ ∀ k, d.get? k = none := by
  constructor
  · intro h k
    rw [isEmpty, List.isEmpty_iff] at h
    rw [get?, h]
    rfl
  · intro h
    have : d = ∅ := ext_get? h
    subst this
    rfl

theorem mem_keys_iff {d : Dict α} {k : String} : k ∈ d.keys ↔ d.contains k = true := by
  simp only [keys, List.mem_map, contains, Option.isSome_iff_exists, get?_eq_some_iff]
  constructor
  · rintro ⟨e, he, rfl⟩
    exact ⟨e.2, he⟩
  · rintro ⟨v, hv⟩
    exact ⟨(k, v), hv, rfl⟩

theorem mem_values_iff {d : Dict α} {v : α} : v ∈ d.values ↔ ∃ k, d.get? k = some v := by
  simp only [values, List.mem_map, get?_eq_some_iff]
  constructor
  · rintro ⟨e, he, rfl⟩
    exact ⟨e.1, he⟩
  · rintro ⟨k, hk⟩
    exact ⟨(k, v), hk, rfl⟩

theorem keys_ascending (d : Dict α) : d.keys.Pairwise (· < ·) := List.pairwise_map.2 d.ascending

theorem keys_nodup (d : Dict α) : d.keys.Nodup := by
  refine d.keys_ascending.imp ?_
  intro a b hlt he
  exact String.lt_irrefl b (he ▸ hlt)

/-- The keys are determined by which there are. -/
theorem keys_ext {d : Dict α} {e : Dict β} (h : ∀ k, d.contains k = e.contains k) :
    d.keys = e.keys := by
  refine List.Perm.eq_of_pairwise (fun a b _ _ hab hba => absurd hba (String.lt_asymm hab))
    d.keys_ascending e.keys_ascending ?_
  refine (List.perm_ext_iff_of_nodup d.keys_nodup e.keys_nodup).2 fun k => ?_
  rw [mem_keys_iff, mem_keys_iff, h]

theorem map_entries {d : Dict α} {f : String × α → β} {g : String → β}
    (h : ∀ k v, d.get? k = some v → f (k, v) = g k) : d.entries.map f = d.keys.map g := by
  rw [keys, List.map_map]
  exact List.map_congr_left fun e he => h e.1 e.2 (get?_eq_some_iff.2 he)

theorem erase_eq_self {d : Dict α} {k : String} (h : d.get? k = none) : d.erase k = d :=
  ext_get? fun k' => by
    rw [get?_erase]
    split
    · next he => rw [he, h]
    · rfl

theorem get?_put (d : Dict α) (k k' : String) (v : Option α) :
    (d.put k v).get? k' = if k' = k then v else d.get? k' := by
  cases v <;> simp [put]

theorem put_put (d : Dict α) (k : String) (v w : Option α) : (d.put k v).put k w = d.put k w := by
  refine ext_get? fun k' => ?_
  rw [get?_put, get?_put, get?_put]
  by_cases hk : k' = k <;> simp [hk]

theorem put_get? (d : Dict α) (k : String) : d.put k (d.get? k) = d := by
  refine ext_get? fun k' => ?_
  rw [get?_put]
  split
  · next hk => rw [hk]
  · rfl

theorem contains_erase {d : Dict α} {k k' : String} :
    (d.erase k).contains k' = true ↔ k' ≠ k ∧ d.contains k' = true := by
  rw [contains, get?_erase, contains]
  by_cases hk : k' = k <;> simp [hk]

theorem get?_foldl_erase (ks : List String) (d : Dict α) (k : String) :
    (ks.foldl erase d).get? k = if k ∈ ks then none else d.get? k := by
  induction ks generalizing d with
  | nil => simp
  | cons k' ks ih =>
    rw [List.foldl_cons, ih, get?_erase]
    by_cases hk : k = k' <;> simp [hk]

theorem contains_foldl_erase {ks : List String} {d : Dict α} {k : String} :
    (ks.foldl erase d).contains k = true ↔ k ∉ ks ∧ d.contains k = true := by
  rw [contains, get?_foldl_erase, contains]
  by_cases hk : k ∈ ks <;> simp [hk]

/-- Of a key that is set, only what it is set to counts. -/
theorem get?_foldl_put {ι : Type} (key : ι → String) (f : ι → Option α) (is : List ι) (d : Dict α)
    (k : String) :
    (is.foldl (fun (d : Dict α) i => d.put (key i) (f i)) d).get? k =
      if k ∈ is.map key then (is.foldl (fun (d : Dict α) i => d.put (key i) (f i)) ∅).get? k
      else d.get? k := by
  induction is generalizing d with
  | nil => simp
  | cons i is ih =>
    rw [List.foldl_cons, List.foldl_cons, ih, ih (put ∅ (key i) (f i)), get?_put, get?_put]
    by_cases hm : k ∈ is.map key <;> by_cases hk : k = key i <;> simp [hm, hk]

theorem contains_foldl_insert {es : List (String × α)} {d : Dict α} {k : String} :
    (es.foldl (fun d e => d.insert e.1 e.2) d).contains k = true ↔
      d.contains k = true ∨ k ∈ es.map (·.1) := by
  induction es generalizing d with
  | nil => simp
  | cons e es ih =>
    rw [List.foldl_cons, ih, contains, get?_insert, List.map_cons, List.mem_cons, contains]
    by_cases hk : k = e.1 <;> simp [hk]

end Dict

theorem StringSet.contains_ofList {ss : List String} {k : String} :
    (StringSet.ofList ss).contains k = true ↔ k ∈ ss := by
  have hnone : (Dict.empty : Dict Unit).contains k = false := rfl
  rw [StringSet.ofList, Dict.ofList, Dict.contains_foldl_insert, hnone]
  simp

end IngressRouting
