/-
Dictionaries from strings to values, held as a list of entries in strictly
ascending order of their keys. Strings compare code point by code point,
which is also the order of their UTF-8 bytes.

The order is part of the type, so two dictionaries with the same entries are
equal and every printed form is in key order. `get?_insert` and `get?_erase`
say what a lookup sees after a change.
-/
namespace IngressRouting

namespace Entries

variable {α : Type}

/-- The value of a key, if there is one. -/
def get? (k : String) : List (String × α) → Option α
  | [] => none
  | (k', v) :: es => if k = k' then some v else get? k es

/-- The keys ascend strictly, so none occurs twice. -/
def Ascending (es : List (String × α)) : Prop :=
  es.Pairwise fun a b => a.1 < b.1

/-- Puts a value in its place among the keys, or in place of an earlier one. -/
def insert (k : String) (v : α) : List (String × α) → List (String × α)
  | [] => [(k, v)]
  | (k', v') :: es =>
    if k < k' then (k, v) :: (k', v') :: es
    else if k = k' then (k, v) :: es
    else (k', v') :: insert k v es

/-- Leaves out the entry of a key. -/
def erase (k : String) (es : List (String × α)) : List (String × α) :=
  es.filter fun e => e.1 != k

theorem lt_of_not_lt_of_ne {a b : String} (h : ¬ a < b) (hne : a ≠ b) : b < a := by
  rcases String.le_total a b with hab | hba
  · exact absurd (String.le_antisymm hab (String.not_lt.1 h)) hne
  · exact Decidable.byContradiction fun hn => hne (String.le_antisymm (String.not_lt.1 hn) hba)

theorem mem_insert {k : String} {v : α} {e : String × α} {es : List (String × α)}
    (h : e ∈ insert k v es) : e = (k, v) ∨ e ∈ es := by
  induction es with
  | nil => simpa [insert] using h
  | cons p es ih =>
    obtain ⟨k', v'⟩ := p
    rw [insert] at h
    split at h
    · simpa using h
    · split at h
      · rcases List.mem_cons.1 h with h | h
        · exact .inl h
        · exact .inr (List.mem_cons_of_mem _ h)
      · rcases List.mem_cons.1 h with h | h
        · exact .inr (h ▸ List.mem_cons_self)
        · exact (ih h).imp id (List.mem_cons_of_mem _)

theorem Ascending.insert {k : String} {v : α} {es : List (String × α)} (h : Ascending es) :
    Ascending (insert k v es) := by
  induction es with
  | nil => simp [Entries.insert, Ascending]
  | cons p es ih =>
    obtain ⟨k', v'⟩ := p
    have hp := List.pairwise_cons.1 h
    rw [Entries.insert]
    split
    · rename_i hlt
      refine List.pairwise_cons.2 ⟨fun e he => ?_, h⟩
      rcases List.mem_cons.1 he with rfl | he
      · exact hlt
      · exact String.lt_trans hlt (hp.1 e he)
    · split
      · rename_i heq
        subst heq
        exact List.pairwise_cons.2 ⟨hp.1, hp.2⟩
      · rename_i hlt hne
        refine List.pairwise_cons.2 ⟨fun e he => ?_, ih hp.2⟩
        rcases mem_insert he with rfl | he
        · exact lt_of_not_lt_of_ne hlt hne
        · exact hp.1 e he

theorem Ascending.erase {k : String} {es : List (String × α)} (h : Ascending es) :
    Ascending (erase k es) :=
  h.sublist List.filter_sublist

theorem get?_insert (k k' : String) (v : α) (es : List (String × α)) :
    get? k' (insert k v es) = if k' = k then some v else get? k' es := by
  induction es with
  | nil => simp [insert, get?]
  | cons p es ih =>
    obtain ⟨a, b⟩ := p
    rw [insert]
    split
    · simp [get?]
    · split
      · rename_i h; subst h
        by_cases hk : k' = k <;> simp [get?, hk]
      · rename_i hne
        by_cases ha : k' = a
        · subst ha; simp [get?, Ne.symm hne]
        · simp [get?, ha, ih]

theorem get?_erase (k k' : String) (es : List (String × α)) :
    get? k' (erase k es) = if k' = k then none else get? k' es := by
  induction es with
  | nil => simp [erase, get?]
  | cons p es ih =>
    obtain ⟨a, b⟩ := p
    by_cases ha : a = k
    · subst ha
      by_cases hk : k' = a
      · simp_all [erase]
      · simp_all [erase, get?]
    · by_cases hk : k' = a
      · subst hk; simp [erase, ha, get?]
      · simp_all [erase, get?]

end Entries

/-- A dictionary from strings to values. -/
structure Dict (α : Type) where
  entries : List (String × α)
  ascending : Entries.Ascending entries

namespace Dict

variable {α β : Type}

theorem ext {d e : Dict α} (h : d.entries = e.entries) : d = e := by
  cases d; cases e; simp_all

instance [DecidableEq α] : DecidableEq (Dict α) := fun d e =>
  if h : d.entries = e.entries then isTrue (ext h) else isFalse fun he => h (he ▸ rfl)

/-- The dictionary without entries. -/
def empty : Dict α := ⟨[], List.Pairwise.nil⟩

instance : EmptyCollection (Dict α) := ⟨empty⟩
instance : Inhabited (Dict α) := ⟨empty⟩

/-- What a key looks up. -/
def get? (d : Dict α) (k : String) : Option α := Entries.get? k d.entries

/-- Whether a key looks up anything. -/
def contains (d : Dict α) (k : String) : Bool := (d.get? k).isSome

/-- Sets the value of `k`, replacing an earlier one. -/
def insert (d : Dict α) (k : String) (v : α) : Dict α :=
  ⟨Entries.insert k v d.entries, d.ascending.insert⟩

/-- Removes a key, if it is there. -/
def erase (d : Dict α) (k : String) : Dict α :=
  ⟨Entries.erase k d.entries, d.ascending.erase⟩

/-- The number of entries. -/
def size (d : Dict α) : Nat := d.entries.length

/-- Whether there are no entries. -/
def isEmpty (d : Dict α) : Bool := d.entries.isEmpty

/-- The keys in ascending order. -/
def keys (d : Dict α) : List String := d.entries.map (·.1)

/-- The values in the order of their keys. -/
def values (d : Dict α) : List α := d.entries.map (·.2)

/-- A later entry replaces an earlier one with the same key. -/
def ofList (es : List (String × α)) : Dict α :=
  es.foldl (fun d e => d.insert e.1 e.2) empty

/-- The entries of both; where both have a key, the value of `e`. -/
def override (d e : Dict α) : Dict α :=
  e.entries.foldl (fun d e => d.insert e.1 e.2) d

/-- Sets the value of `k` when there is one, and removes `k` otherwise. -/
def put (d : Dict α) (k : String) : Option α → Dict α
  | some v => d.insert k v
  | none => d.erase k

@[simp] theorem get?_insert (d : Dict α) (k k' : String) (v : α) :
    (d.insert k v).get? k' = if k' = k then some v else d.get? k' :=
  Entries.get?_insert k k' v d.entries

@[simp] theorem get?_erase (d : Dict α) (k k' : String) :
    (d.erase k).get? k' = if k' = k then none else d.get? k' :=
  Entries.get?_erase k k' d.entries

@[simp] theorem get?_empty (k : String) : (empty : Dict α).get? k = none := rfl

end Dict

/-- A set of strings. -/
abbrev StringSet := Dict Unit

/-- The set of the strings in a list. -/
def StringSet.ofList (ss : List String) : StringSet := Dict.ofList (ss.map fun s => (s, ()))

end IngressRouting
