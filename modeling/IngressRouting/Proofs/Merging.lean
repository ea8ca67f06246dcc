/-
Dictionaries merged in the order of keys. At each key of the result the last part counts that
says something there (`Dict.get?_foldl_merge`), and where the parts are entries that ascend,
that is the one of the greatest key (`Entries.findSome?_reverse_eq_some_iff`).
-/
import IngressRouting.Proofs.Lookup

namespace IngressRouting

variable {α β ι : Type}

/-- **Of ascending entries, the greatest that has a value is the last.** -/
theorem Entries.findSome?_reverse_eq_some_iff {es : List (String × β)} (ha : Ascending es)
    {f : String × β → Option α} {x : α} :
    es.reverse.findSome? f = some x ↔
      ∃ e ∈ es, f e = some x ∧ ∀ e' ∈ es, e.1 < e'.1 → f e' = none := by
  rw [List.findSome?_eq_some_iff]
  constructor
  · rintro ⟨later, e, earlier, hsplit, hx, hnone⟩
    have hes : es = earlier.reverse ++ e :: later.reverse := by
      rw [← List.reverse_reverse es, hsplit]
      simp
    rw [hes] at ha ⊢
    obtain ⟨_, _, hcross⟩ := List.pairwise_append.1 ha
    refine ⟨e, by simp, hx, fun e' he' hlt => ?_⟩
    rcases List.mem_append.1 he' with hearlier | hlater
    · exact absurd hlt (String.lt_asymm (hcross e' hearlier e List.mem_cons_self))
    · rcases List.mem_cons.1 hlater with rfl | hlater
      · exact absurd hlt (String.lt_irrefl _)
      · exact hnone e' (List.mem_reverse.1 hlater)
  · rintro ⟨e, he, hx, hnone⟩
    obtain ⟨earlier, later, rfl⟩ := List.append_of_mem he
    obtain ⟨_, hrest, _⟩ := List.pairwise_append.1 ha
    refine ⟨later.reverse, e, earlier.reverse, by simp, hx, fun e' he' => ?_⟩
    have hlater := List.mem_reverse.1 he'
    exact hnone e' (by simp [hlater]) ((List.pairwise_cons.1 hrest).1 e' hlater)

namespace Dict

/-- **What is merged last counts**: where each step sets what it has to say about a key. -/
theorem get?_foldl_merge {k : String} {f : ι → Option α} {step : Dict α → ι → Dict α}
    (hstep : ∀ d i, (step d i).get? k = (f i).or (d.get? k)) (is : List ι) (d : Dict α) :
    (is.foldl step d).get? k = (is.reverse.findSome? f).or (d.get? k) := by
  induction is generalizing d with
  | nil => rfl
  | cons i is ih =>
    rw [List.foldl_cons, ih, hstep, List.reverse_cons, List.findSome?_append, Option.or_assoc]
    simp

theorem get?_override (d e : Dict α) (k : String) :
    (d.override e).get? k = (e.get? k).or (d.get? k) := by
  have hentry : ∀ (d : Dict α) (i : String × α),
      (d.insert i.1 i.2).get? k = (if k = i.1 then some i.2 else none).or (d.get? k) := fun d i => by
    rw [get?_insert]
    split <;> rfl
  rw [override, get?_foldl_merge hentry]
  congr 1
  -- the entry of a key is the only one that says something there
  refine Option.ext fun x => ?_
  rw [Entries.findSome?_reverse_eq_some_iff e.ascending, get?_eq_some_iff]
  constructor
  · rintro ⟨i, hi, hx, _⟩
    obtain ⟨rfl, rfl⟩ : k = i.1 ∧ i.2 = x := by simpa using hx
    exact hi
  · intro hx
    refine ⟨(k, x), hx, by simp, fun i _ hlt => if_neg fun he => ?_⟩
    exact String.lt_irrefl _ (he ▸ hlt)

theorem get?_foldl_insert_same (ks : List String) (x : α) (d : Dict α) (k : String) :
    (ks.foldl (fun (d : Dict α) k => d.insert k x) d).get? k = if k ∈ ks then some x else d.get? k := by
  induction ks generalizing d with
  | nil => simp
  | cons k' ks ih =>
    rw [List.foldl_cons, ih, get?_insert]
    by_cases hk : k = k' <;> simp [hk]

end Dict

end IngressRouting
