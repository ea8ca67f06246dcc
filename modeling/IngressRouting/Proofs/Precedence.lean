/-
The order of precedence is a total preorder: it chains comparisons of two flags,
three sizes and a time, each of which is one (`Precedence.order_eq`). So sorting
by it leaves no binding behind one that it comes before (`pairwise_sort`).

Bindings that tie keep their order (`filter_sort`), and a sorted list is told by its ties
(`eq_of_sorted`): sorting has no other outcome (`order_consistent`).
-/
import IngressRouting.Rules
import Mathlib.Data.List.Basic

namespace IngressRouting.Precedence

open Std

variable {standsForMany : String → Bool} {a b : String}

/-! ## Texts -/

/-- Texts compare by whether they stand for many, then by length, the longer one
first. -/
theorem bySpecificity_eq (standsForMany : String → Bool) :
    bySpecificity standsForMany =
      compareLex (compareOn standsForMany) fun a b => compareOn String.utf8ByteSize b a := by
  funext a b
  rw [bySpecificity, compareLex, compareOn, compareOn]
  cases standsForMany a <;> cases standsForMany b <;> rfl

instance : TransCmp (bySpecificity standsForMany) := by
  rw [bySpecificity_eq]
  infer_instance

@[simp] theorem bySpecificity_self (a : String) : bySpecificity standsForMany a a = .eq :=
  ReflCmp.compare_self

theorem bySpecificity_eq_gt (ha : standsForMany a = true)
    (h : standsForMany b = true → a.utf8ByteSize < b.utf8ByteSize) :
    bySpecificity standsForMany a b = .gt := by
  rw [bySpecificity, ha]
  cases hb : standsForMany b with
  | false => rfl
  | true => exact Nat.compare_eq_gt.2 (h hb)

/-! ## Bindings -/

theorem order_eq : order =
    compareLex (fun a b => bySpecificity HostPattern.isWildcardText a.host b.host)
      (compareLex (fun a b => bySpecificity PathPattern.isMarkedText a.path b.path)
        (compareLex (fun a b => compareOn (fun c : Binding => c.annotations.traitClass.rank) b a)
          (compareOn Binding.since))) := rfl

/-- Comparing by a part of what is compared. -/
instance transCmp_part {α β : Type} {cmp : β → β → Ordering} [TransCmp cmp] (f : α → β) :
    TransCmp fun a b => cmp (f a) (f b) where
  eq_swap := OrientedCmp.eq_swap
  isLE_trans := TransCmp.isLE_trans

instance : TransCmp order := by
  rw [order_eq]
  infer_instance

theorem order_ne_gt_iff {a b : Binding} : (order a b != .gt) = (order a b).isLE := by
  cases order a b <;> rfl

theorem order_trans (a b c : Binding) (hab : (order a b != .gt) = true)
    (hbc : (order b c != .gt) = true) : (order a c != .gt) = true := by
  rw [order_ne_gt_iff] at *
  exact TransCmp.isLE_trans hab hbc

theorem order_total (a b : Binding) : (order a b != .gt || order b a != .gt) = true := by
  have hswap : order b a = (order a b).swap := OrientedCmp.eq_swap
  rw [hswap]
  cases order a b <;> rfl

/-- **Sorted bindings are in the order of precedence.** -/
theorem pairwise_sort (bs : List Binding) : (sort bs).Pairwise fun a b => order a b ≠ .gt :=
  (List.pairwise_mergeSort order_trans order_total bs).imp fun h => by simpa using h

/-- Bindings that compare equal to one of them keep their order. -/
theorem filter_sort (a : Binding) (bs : List Binding) :
    (sort bs).filter (fun b => order a b = .eq) = bs.filter fun b => order a b = .eq := by
  have hties : (bs.filter fun b => order a b = .eq).Pairwise fun b c => (order b c != .gt) = true := by
    refine List.pairwise_of_forall_mem_list fun b hb c hc => ?_
    have hab : order a b = .eq := by simpa using (List.mem_filter.1 hb).2
    have hac : order a c = .eq := by simpa using (List.mem_filter.1 hc).2
    have hba : order b a = .eq := OrientedCmp.eq_symm hab
    have hbc : order b c = .eq := TransCmp.eq_trans hba hac
    rw [hbc]
    rfl
  have hkept := (List.sublist_mergeSort order_trans order_total hties List.filter_sublist).filter
    fun b => order a b = .eq
  rw [List.filter_filter] at hkept
  simp only [Bool.and_self] at hkept
  exact (hkept.eq_of_length ((List.mergeSort_perm bs _).filter _).length_eq.symm).symm

/-- **Sorting is stable.** What holds of bindings in their order still holds of those
that compare equal. -/
theorem pairwise_sort_stable {bs : List Binding} {S : Binding → Binding → Prop} (h : bs.Pairwise S) :
    (sort bs).Pairwise fun a b => order a b = .lt ∨ order a b = .eq ∧ S a b := by
  rw [List.pairwise_iff_forall_sublist]
  intro a b hsub
  have hle := List.pairwise_iff_forall_sublist.1 (pairwise_sort bs) hsub
  cases hab : order a b with
  | lt => exact .inl rfl
  | gt => exact absurd hab hle
  | eq =>
    have hties := hsub.filter fun c => order a c = .eq
    rw [filter_sort] at hties
    have hself : order a a = .eq := ReflCmp.compare_self
    have hkept : [a, b].Sublist bs := by
      simpa [hself, hab] using hties.trans List.filter_sublist
    exact .inr ⟨rfl, List.pairwise_iff_forall_sublist.1 h hkept⟩

/-! ## Sorted lists -/

section Sorted

variable {α : Type} {cmp : α → α → Ordering} [TransCmp cmp] {a b : α} {l l' : List α}

theorem head_ne_gt (h : (a :: l).Pairwise fun a b => cmp a b ≠ .gt) (hb : b ∈ a :: l) :
    cmp a b ≠ .gt := by
  rcases List.mem_cons.1 hb with rfl | hb
  · have hself : cmp b b = .eq := ReflCmp.compare_self
    rw [hself]
    exact nofun
  · exact List.rel_of_pairwise_cons h hb

theorem mem_iff_of_ties
    (hties : ∀ a, l.filter (fun b => cmp a b = .eq) = l'.filter fun b => cmp a b = .eq) :
    a ∈ l ↔ a ∈ l' := by
  have hself : cmp a a = .eq := ReflCmp.compare_self
  have h : a ∈ l.filter (fun b => cmp a b = .eq) ↔ a ∈ l'.filter fun b => cmp a b = .eq := by
    rw [hties]
  simpa [hself] using h

/-- **A sorted list is told by its ties.** The heads of two that have the same are the least
of either, so they tie, and each is the first of those that do. -/
theorem eq_of_sorted (hl : l.Pairwise fun a b => cmp a b ≠ .gt)
    (hl' : l'.Pairwise fun a b => cmp a b ≠ .gt)
    (hties : ∀ a, l.filter (fun b => cmp a b = .eq) = l'.filter fun b => cmp a b = .eq) :
    l = l' := by
  induction l generalizing l' with
  | nil =>
    cases l' with
    | nil => rfl
    | cons b l' => exact absurd ((mem_iff_of_ties hties).2 List.mem_cons_self) List.not_mem_nil
  | cons a l ih =>
    cases l' with
    | nil => exact absurd ((mem_iff_of_ties hties).1 List.mem_cons_self) List.not_mem_nil
    | cons b l' =>
      have hab : cmp a b ≠ .gt := head_ne_gt hl ((mem_iff_of_ties hties).2 List.mem_cons_self)
      have hba : cmp b a ≠ .gt := head_ne_gt hl' ((mem_iff_of_ties hties).1 List.mem_cons_self)
      have htie : cmp a b = .eq := by
        have hswap : cmp b a = (cmp a b).swap := OrientedCmp.eq_swap
        rw [hswap] at hba
        cases hcmp : cmp a b with
        | eq => rfl
        | lt => simp [hcmp] at hba
        | gt => exact absurd hcmp hab
      have hself : cmp a a = .eq := ReflCmp.compare_self
      have hfirst := hties a
      rw [List.filter_cons_of_pos (by simpa using hself),
        List.filter_cons_of_pos (by simpa using htie)] at hfirst
      obtain ⟨rfl, -⟩ := List.cons.inj hfirst
      have hrest : ∀ c, l.filter (fun b => cmp c b = .eq) = l'.filter fun b => cmp c b = .eq := by
        intro c
        have hc := hties c
        rw [List.filter_cons, List.filter_cons] at hc
        split at hc
        · exact (List.cons.inj hc).2
        · exact hc
      exact congrArg (a :: ·) (ih hl.tail hl'.tail hrest)

end Sorted

/-- **The order of precedence is consistent, and there is one way to sort by it.** Every
binding ties with itself; two compare the other way round when they are swapped; what comes
no later than something that comes no later than a third comes no later than that, and
earlier if either comes earlier; and those that tie compare alike with all others. So a list
of bindings has one rearrangement in which none comes behind one that it comes before and
ties stay in order, and this is what sorting gives. -/
theorem order_consistent :
    (∀ a, order a a = .eq) ∧ (∀ a b, order a b = (order b a).swap) ∧
    (∀ a b c, order a b ≠ .gt → order b c ≠ .gt →
      order a c ≠ .gt ∧ (order a b = .lt ∨ order b c = .lt → order a c = .lt)) ∧
    (∀ a b c, order a b = .eq → order a c = order b c) ∧
    ∀ bs l, l = sort bs ↔ l.Perm bs ∧ (l.Pairwise fun a b => order a b ≠ .gt) ∧
      ∀ a, l.filter (fun b => order a b = .eq) = bs.filter fun b => order a b = .eq := by
  refine ⟨fun a => ReflCmp.compare_self, fun a b => OrientedCmp.eq_swap, ?_, ?_, ?_⟩
  · intro a b c hab hbc
    have hab := Ordering.isLE_iff_ne_gt.2 hab
    have hbc := Ordering.isLE_iff_ne_gt.2 hbc
    refine ⟨Ordering.isLE_iff_ne_gt.1 (TransCmp.isLE_trans hab hbc), ?_⟩
    rintro (hlt | hlt)
    · exact TransCmp.lt_of_lt_of_isLE hlt hbc
    · exact TransCmp.lt_of_isLE_of_lt hab hlt
  · exact fun a b c hab => TransCmp.congr_left hab
  · intro bs l
    constructor
    · rintro rfl
      exact ⟨List.mergeSort_perm bs _, pairwise_sort bs, fun a => filter_sort a bs⟩
    · rintro ⟨-, hsorted, hties⟩
      exact eq_of_sorted hsorted (pairwise_sort bs) fun a => (hties a).trans (filter_sort a bs).symm

end IngressRouting.Precedence
