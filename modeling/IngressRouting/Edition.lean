/-
Editions: a table and its version, a word that goes up by one with each change of the
table. Publishing a table equal to the current one changes nothing.

There are as many versions as words. After so many changes the first version comes back
(`Edition.After.version_eq_iff`), so a version tells its table only as long as there were fewer.
-/
namespace IngressRouting

/-- A table as it is published. -/
structure Edition (α : Type) where
  /-- How often the table has changed, as far as a word goes. -/
  version : UInt64
  table : α
  deriving DecidableEq

/-- A word stands for a number where one is due. -/
instance wordNumber : CoeOut UInt64 Nat := ⟨UInt64.toNat⟩

namespace Edition

variable {α : Type}

/-- How many versions there are. -/
def versions : Nat := UInt64.size

/-- The table that is there before any other is published. -/
def first (table : α) : Edition α := ⟨0, table⟩

variable [DecidableEq α]

/-- Puts a table in the place of the current one. A version follows the greatest one as zero. -/
def publish (e : Edition α) (table : α) : Edition α :=
  if e.table = table then e else ⟨e.version + 1, table⟩

/-- The new version that publishing a table gives, if any. -/
def newVersion? (e : Edition α) (table : α) : Option UInt64 :=
  if e.table = table then none else some (e.version + 1)

variable {e : Edition α} {t : α}

/-! ## Publishing -/

theorem table_publish (e : Edition α) (t : α) : (e.publish t).table = t := by
  rw [publish]
  split
  · next h => exact h
  · rfl

theorem publish_self : e.publish e.table = e := if_pos rfl

theorem publish_table (t : α) : e.publish (e.publish t).table = e.publish t := by
  rw [table_publish]

theorem publish_eq_self_iff : e.publish t = e ↔ t = e.table := by
  constructor
  · intro h
    rw [← table_publish e t, h]
  · rintro rfl
    exact publish_self

theorem publish_changed (h : e.publish t ≠ e) :
    t ≠ e.table ∧ (e.publish t).version = e.version + 1 := by
  have hne : t ≠ e.table := mt publish_eq_self_iff.2 h
  exact ⟨hne, by rw [publish, if_neg hne.symm]⟩

end Edition

/-! ## Later editions -/

namespace Edition

variable {α : Type} {e e' e'' : Edition α} {m n : Nat}

/-- So many changes of the table lead from one edition to another. -/
inductive After : Edition α → Nat → Edition α → Prop
  | refl (e : Edition α) : After e 0 e
  | publish {e e' : Edition α} {n : Nat} {t : α} (h : After e n e') (ht : t ≠ e'.table) :
    After e (n + 1) ⟨e'.version + 1, t⟩

theorem After.trans (h : After e m e') (h' : After e' n e'') : After e (m + n) e'' := by
  induction h' with
  | refl => exact h
  | publish _ ht ih => exact ih.publish ht

theorem After.eq_of_zero (h : After e 0 e') : e' = e := by
  cases h
  rfl

theorem after_publish [DecidableEq α] (e : Edition α) (t : α) :
    e.After (if (e.publish t).version = e.version then 0 else 1) (e.publish t) := by
  by_cases hsame : e.publish t = e
  · rw [hsame, if_pos rfl]
    exact .refl e
  · obtain ⟨hne, hversion⟩ := publish_changed hsame
    have hother : (e.publish t).version ≠ e.version := by
      rw [hversion]
      simp
    have hnext : e.publish t = ⟨e.version + 1, t⟩ := if_neg hne.symm
    rw [if_neg hother, hnext]
    exact (After.refl e).publish hne

/-- The version counts the changes as far as a word goes. -/
theorem After.version (h : After e n e') : e'.version = e.version + UInt64.ofNat n := by
  induction h with
  | refl => exact (UInt64.add_zero _).symm
  | publish _ _ ih =>
    rw [ih, UInt64.add_assoc, UInt64.ofNat_add]
    rfl

/-- **When a version comes back**: after as many changes as there are versions, or after a
multiple of that. -/
theorem add_ofNat_eq_iff {v : UInt64} : v + UInt64.ofNat n = v ↔ versions ∣ n := by
  have hlt : v.toNat < versions := v.toNat_lt_size
  rw [← UInt64.toNat_inj, UInt64.toNat_add, UInt64.toNat_ofNat', Nat.dvd_iff_mod_eq_zero]
  unfold versions UInt64.size at *
  omega

theorem After.version_eq_iff (h : After e n e') : e'.version = e.version ↔ versions ∣ n := by
  rw [h.version, add_ofNat_eq_iff]

end Edition

end IngressRouting
