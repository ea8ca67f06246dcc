/-
The two ways into a roster, seen through their lookups: which slots a host and
path lists, and which slots a source owns. Lists that run empty are dropped
(`Sites.Pruned`, `Owners.Pruned`), so sites and owners are determined by these
lookups (`Sites.ext_slots`, `Owners.ext_slots`), and a change undone leaves
them as they were (`Sites.restore_detach`, `Owners.add_remove`).
-/
import IngressRouting.Proofs.Lookup
import IngressRouting.Roster
import Mathlib.Data.List.InsertIdx
import Mathlib.Tactic.Tauto

namespace IngressRouting

namespace Sites

/-- No host without paths, and no path without slots. -/
structure Pruned (s : Sites) : Prop where
  hosts : ∀ host paths, s.get? host = some paths → ∃ path, paths.get? path ≠ none
  paths : ∀ host paths path slots, s.get? host = some paths → paths.get? path = some slots →
    slots ≠ []

theorem pruned_empty : Pruned ∅ where
  hosts _ _ h := by cases h
  paths _ _ _ _ h := by cases h

theorem slots_empty (host path : String) : slots ∅ host path = [] := rfl

/-- The paths of a host once its slots at a path are set. -/
def pathsWith (s : Sites) (host path : String) (l : List Nat) : Dict (List Nat) :=
  if l.isEmpty then ((s.get? host).getD ∅).erase path else ((s.get? host).getD ∅).insert path l

theorem setSlots_eq (s : Sites) (host path : String) (l : List Nat) :
    s.setSlots host path l =
      if (s.pathsWith host path l).isEmpty then s.erase host
      else s.insert host (s.pathsWith host path l) := rfl

theorem get?_pathsWith (s : Sites) (host path path' : String) (l : List Nat) :
    (s.pathsWith host path l).get? path' =
      if path' = path then (if l = [] then none else some l)
      else ((s.get? host).getD ∅).get? path' := by
  cases l with
  | nil => simp [pathsWith]
  | cons a l => simp [pathsWith]

theorem get?_setSlots (s : Sites) (host path host' : String) (l : List Nat) :
    (s.setSlots host path l).get? host' =
      if host' = host then
        (if (s.pathsWith host path l).isEmpty then none else some (s.pathsWith host path l))
      else s.get? host' := by
  rw [setSlots_eq]
  by_cases he : (s.pathsWith host path l).isEmpty = true
  · simp only [he, if_true, Dict.get?_erase]
  · simp only [he, if_false, Dict.get?_insert, Bool.false_eq_true]

theorem slots_setSlots (s : Sites) (host path host' path' : String) (l : List Nat) :
    (s.setSlots host path l).slots host' path' =
      if host' = host ∧ path' = path then l else s.slots host' path' := by
  rw [slots, get?_setSlots]
  by_cases hh : host' = host
  · subst hh
    have hold : (((s.get? host').getD ∅).get? path').getD [] = s.slots host' path' := by
      cases h : s.get? host' <;> simp [slots, h]
    have hnew : ((s.pathsWith host' path l).get? path').getD [] =
        if path' = path then l else s.slots host' path' := by
      rw [get?_pathsWith, ← hold]
      split
      · split <;> simp_all
      · rfl
    simp only [true_and, if_true, ← hnew]
    split
    · next he =>
      rw [Dict.isEmpty_iff] at he
      rw [he path']
      rfl
    · rfl
  · simp [hh, slots]

theorem Pruned.setSlots {s : Sites} (h : s.Pruned) (host path : String) (l : List Nat) :
    (s.setSlots host path l).Pruned := by
  constructor
  · intro host' paths' hs
    rw [get?_setSlots] at hs
    split at hs
    · split at hs
      · cases hs
      · next hne =>
        cases hs
        rw [Dict.isEmpty_iff] at hne
        simpa using hne
    · exact h.hosts _ _ hs
  · intro host' paths' path' slots hs hp
    rw [get?_setSlots] at hs
    split at hs
    · split at hs
      · cases hs
      · cases hs
        rw [get?_pathsWith] at hp
        split at hp
        · split at hp
          · cases hp
          · next hl => cases hp; exact hl
        · cases hh : s.get? host with
          | none => rw [hh] at hp; cases hp
          | some paths => rw [hh] at hp; exact h.paths _ _ _ _ hh hp
    · exact h.paths _ _ _ _ hs hp

theorem Pruned.get?_eq {s : Sites} (h : s.Pruned) {host : String} {paths : Dict (List Nat)}
    (hs : s.get? host = some paths) (path : String) :
    paths.get? path = if s.slots host path = [] then none else some (s.slots host path) := by
  have heq : s.slots host path = (paths.get? path).getD [] := by simp [slots, hs]
  rw [heq]
  cases hp : paths.get? path with
  | none => rfl
  | some l => simp [h.paths _ _ _ _ hs hp]

theorem Pruned.get?_eq_none_iff {s : Sites} (h : s.Pruned) (host : String) :
    s.get? host = none ↔ ∀ path, s.slots host path = [] := by
  constructor
  · intro hn path
    simp [slots, hn]
  · intro hn
    cases hs : s.get? host with
    | none => rfl
    | some paths =>
      obtain ⟨path, hp⟩ := h.hosts _ _ hs
      rw [h.get?_eq hs, if_pos (hn path)] at hp
      exact absurd rfl hp

/-- **Sites are what they list.** -/
theorem ext_slots {s t : Sites} (hs : s.Pruned) (ht : t.Pruned)
    (h : ∀ host path, s.slots host path = t.slots host path) : s = t := by
  refine Dict.ext_get? fun host => ?_
  cases hsh : s.get? host with
  | none =>
    have hn := (hs.get?_eq_none_iff host).1 hsh
    exact ((ht.get?_eq_none_iff host).2 fun path => (h host path) ▸ hn path).symm
  | some paths =>
    cases hth : t.get? host with
    | none =>
      have hn := (ht.get?_eq_none_iff host).1 hth
      rw [(hs.get?_eq_none_iff host).2 fun path => (h host path).symm ▸ hn path] at hsh
      cases hsh
    | some paths' =>
      have : paths = paths' := Dict.ext_get? fun path => by
        rw [hs.get?_eq hsh, ht.get?_eq hth, h]
      rw [this]

theorem setSlots_slots {s : Sites} (h : s.Pruned) (host path : String) :
    s.setSlots host path (s.slots host path) = s := by
  refine ext_slots (h.setSlots _ _ _) h fun host' path' => ?_
  rw [slots_setSlots]
  split
  · next he => rw [he.1, he.2]
  · rfl

theorem setSlots_setSlots {s : Sites} (h : s.Pruned) (host path : String) (l l' : List Nat) :
    (s.setSlots host path l).setSlots host path l' = s.setSlots host path l' := by
  refine ext_slots ((h.setSlots _ _ _).setSlots _ _ _) (h.setSlots _ _ _) fun host' path' => ?_
  simp only [slots_setSlots]
  split <;> rfl

theorem slots_append (s : Sites) (host path host' path' : String) (slot : Nat) :
    (s.append host path slot).slots host' path' =
      if host' = host ∧ path' = path then s.slots host path ++ [slot] else s.slots host' path' :=
  slots_setSlots ..

theorem detach_eq {s : Sites} (h : s.Pruned) (host path : String) (slot : Nat) :
    s.detach host path slot =
      ((s.slots host path).idxOf? slot, s.setSlots host path ((s.slots host path).erase slot)) := by
  rw [detach]
  cases hi : (s.slots host path).idxOf? slot with
  | none =>
    rw [List.idxOf?_eq_none_iff] at hi
    simp only [List.erase_of_not_mem hi, setSlots_slots h]
  | some i => simp only [List.erase_eq_eraseIdx, hi]

theorem detach_append {s : Sites} (h : s.Pruned) {host path : String} {slot : Nat}
    (hn : slot ∉ s.slots host path) : ((s.append host path slot).detach host path slot).2 = s := by
  have hp : (s.append host path slot).Pruned := h.setSlots _ _ _
  rw [detach_eq hp, slots_append, if_pos ⟨rfl, rfl⟩, List.erase_append_right _ hn]
  rw [append, setSlots_setSlots h]
  simpa using setSlots_slots h host path

theorem restore_detach {s : Sites} (h : s.Pruned) {host path : String} {slot : Nat}
    (hm : slot ∈ s.slots host path) :
    (s.detach host path slot).2.restore host path slot (s.detach host path slot).1 = s := by
  obtain ⟨i, hi⟩ : ∃ i, (s.slots host path).idxOf? slot = some i := by
    cases hi : (s.slots host path).idxOf? slot with
    | none => exact absurd hm (List.idxOf?_eq_none_iff.1 hi)
    | some i => exact ⟨i, rfl⟩
  obtain ⟨hlt, hget⟩ : ∃ hlt : i < (s.slots host path).length, (s.slots host path)[i] = slot := by
    rw [List.idxOf?, List.findIdx?_eq_some_iff_getElem] at hi
    exact ⟨hi.1, by simpa using hi.2.1⟩
  have hback : ((s.slots host path).eraseIdx i).insertIdx i slot = s.slots host path := by
    rw [← hget]
    exact List.insertIdx_eraseIdx_getElem hlt
  have hlen : ((s.slots host path).eraseIdx i).length = (s.slots host path).length - 1 :=
    List.length_eraseIdx_of_lt hlt
  have hmin : min i ((s.slots host path).eraseIdx i).length = i := by omega
  rw [detach, hi]
  simp only [restore, slots_setSlots, and_self, if_true, Option.getD_some, hmin, hback]
  rw [setSlots_setSlots h, setSlots_slots h]

end Sites

/-! ## Ascending lists of slots -/

theorem mem_insertSlot {slot x : Nat} {l : List Nat} :
    x ∈ insertSlot slot l ↔ x = slot ∨ x ∈ l := by
  induction l with
  | nil => simp [insertSlot]
  | cons a l ih =>
    rw [insertSlot]
    split
    · simp
    · split
      · next he => simp [he]
      · simp only [List.mem_cons, ih]
        tauto

theorem insertSlot_ne_nil (slot : Nat) (l : List Nat) : insertSlot slot l ≠ [] :=
  List.ne_nil_of_mem (mem_insertSlot.2 (.inl rfl))

theorem pairwise_insertSlot {slot : Nat} {l : List Nat} (h : l.Pairwise (· < ·)) :
    (insertSlot slot l).Pairwise (· < ·) := by
  induction l with
  | nil => simp [insertSlot]
  | cons a l ih =>
    have hp := List.pairwise_cons.1 h
    rw [insertSlot]
    split
    · next hlt =>
      refine List.pairwise_cons.2 ⟨fun x hx => ?_, h⟩
      rcases List.mem_cons.1 hx with rfl | hx
      · exact hlt
      · exact Nat.lt_trans hlt (hp.1 x hx)
    · split
      · exact h
      · refine List.pairwise_cons.2 ⟨fun x hx => ?_, ih hp.2⟩
        rcases mem_insertSlot.1 hx with rfl | hx
        · omega
        · exact hp.1 x hx

theorem eq_of_mem_iff {l l' : List Nat} (h : l.Pairwise (· < ·)) (h' : l'.Pairwise (· < ·))
    (hm : ∀ x, x ∈ l ↔ x ∈ l') : l = l' :=
  List.Perm.eq_of_pairwise (fun _ _ _ _ hab hba => absurd hba (Nat.lt_asymm hab)) h h'
    ((List.perm_ext_iff_of_nodup (h.imp Nat.ne_of_lt) (h'.imp Nat.ne_of_lt)).2 hm)

theorem mem_erase_of_ascending {l : List Nat} (h : l.Pairwise (· < ·)) (slot x : Nat) :
    x ∈ l.erase slot ↔ x ≠ slot ∧ x ∈ l :=
  List.Nodup.mem_erase_iff (h.imp Nat.ne_of_lt)

namespace Owners

/-- The slots of a source; one that is not there has none. -/
def slots (o : Owners) (source : String) : List Nat := (o.get? source).getD []

/-- Each source has its slots in ascending order, and none is without slots. -/
structure Pruned (o : Owners) : Prop where
  sources : ∀ source slots, o.get? source = some slots → slots ≠ []
  ascending : ∀ source, (o.slots source).Pairwise (· < ·)

theorem pruned_empty : Pruned ∅ where
  sources _ _ h := by cases h
  ascending _ := List.Pairwise.nil

theorem Pruned.get?_eq {o : Owners} (h : o.Pruned) (source : String) :
    o.get? source = if o.slots source = [] then none else some (o.slots source) := by
  rw [slots]
  cases hs : o.get? source with
  | none => rfl
  | some l => simp [h.sources _ _ hs]

/-- **Owners are what they own.** -/
theorem ext_slots {o p : Owners} (ho : o.Pruned) (hp : p.Pruned)
    (h : ∀ source slot, slot ∈ o.slots source ↔ slot ∈ p.slots source) : o = p :=
  Dict.ext_get? fun source => by
    rw [ho.get?_eq, hp.get?_eq, eq_of_mem_iff (ho.ascending source) (hp.ascending source) (h source)]

theorem slots_add (o : Owners) (source source' : String) (slot : Nat) :
    (o.add source slot).slots source' =
      if source' = source then insertSlot slot (o.slots source) else o.slots source' := by
  simp only [slots, add, Dict.get?_insert]
  split <;> rfl

theorem slots_remove (o : Owners) (source source' : String) (slot : Nat) :
    (o.remove source slot).slots source' =
      if source' = source then (o.slots source).erase slot else o.slots source' := by
  by_cases hs : source' = source
  · subst hs
    rw [remove, if_pos rfl]
    cases hl : o.get? source' with
    | none => simp [slots, hl]
    | some l =>
      by_cases he : (l.erase slot).isEmpty = true
      · simp only [slots, he, if_true, Dict.get?_erase, hl, Option.getD_none, Option.getD_some]
        exact (List.isEmpty_iff.1 he).symm
      · simp [slots, he, hl]
  · rw [remove, if_neg hs]
    cases hl : o.get? source with
    | none => rfl
    | some l =>
      by_cases he : (l.erase slot).isEmpty = true <;> simp [slots, he, hs]

theorem slots_erase (o : Owners) (source source' : String) :
    Owners.slots (o.erase source) source' = if source' = source then [] else o.slots source' := by
  simp only [slots, Dict.get?_erase]
  split <;> rfl

theorem Pruned.add {o : Owners} (h : o.Pruned) (source : String) (slot : Nat) :
    (o.add source slot).Pruned where
  sources source' l hl := by
    rw [Owners.add, Dict.get?_insert] at hl
    split at hl
    · cases hl; exact insertSlot_ne_nil _ _
    · exact h.sources _ _ hl
  ascending source' := by
    rw [slots_add]
    split
    · exact pairwise_insertSlot (h.ascending source)
    · exact h.ascending source'

theorem Pruned.remove {o : Owners} (h : o.Pruned) (source : String) (slot : Nat) :
    (o.remove source slot).Pruned where
  sources source' l hl := by
    rw [Owners.remove] at hl
    split at hl
    · exact h.sources _ _ hl
    · dsimp only at hl
      split at hl
      · rw [Dict.get?_erase] at hl
        split at hl
        · cases hl
        · exact h.sources _ _ hl
      · next hne =>
        rw [Dict.get?_insert] at hl
        split at hl
        · cases hl
          simpa using hne
        · exact h.sources _ _ hl
  ascending source' := by
    rw [slots_remove]
    split
    · exact (h.ascending source).sublist List.erase_sublist
    · exact h.ascending source'

theorem Pruned.erase {o : Owners} (h : o.Pruned) (source : String) :
    Owners.Pruned (Dict.erase o source) where
  sources source' l hl := by
    rw [Dict.get?_erase] at hl
    split at hl
    · cases hl
    · exact h.sources _ _ hl
  ascending source' := by
    rw [slots_erase]
    split
    · exact List.Pairwise.nil
    · exact h.ascending source'

theorem mem_slots_add {o : Owners} {source source' : String} {slot x : Nat} :
    x ∈ (o.add source slot).slots source' ↔
      (source' = source ∧ x = slot) ∨ x ∈ o.slots source' := by
  rw [slots_add]
  split
  · next he => simp [he, mem_insertSlot]
  · next he => simp [he]

theorem mem_slots_remove {o : Owners} (h : o.Pruned) {source source' : String} {slot x : Nat} :
    x ∈ (o.remove source slot).slots source' ↔
      ¬ (source' = source ∧ x = slot) ∧ x ∈ o.slots source' := by
  rw [slots_remove]
  split
  · next he => simp [he, mem_erase_of_ascending (h.ascending source)]
  · next he => simp [he]

theorem add_remove {o : Owners} (h : o.Pruned) {source : String} {slot : Nat}
    (hm : slot ∈ o.slots source) : (o.remove source slot).add source slot = o := by
  refine ext_slots ((h.remove _ _).add _ _) h fun source' x => ?_
  rw [mem_slots_add, mem_slots_remove h]
  by_cases he : source' = source ∧ x = slot
  · simp [he, hm]
  · simp [he]

theorem remove_add {o : Owners} (h : o.Pruned) {source : String} {slot : Nat}
    (hm : slot ∉ o.slots source) : (o.add source slot).remove source slot = o := by
  refine ext_slots ((h.add _ _).remove _ _) h fun source' x => ?_
  rw [mem_slots_remove (h.add _ _), mem_slots_add]
  by_cases he : source' = source ∧ x = slot
  · simp [he, hm]
  · simp [he]

theorem erase_remove {o : Owners} (h : o.Pruned) (source : String) (slot : Nat) :
    Dict.erase (o.remove source slot) source = Dict.erase o source := by
  refine ext_slots ((h.remove _ _).erase _) (h.erase _) fun source' x => ?_
  rw [slots_erase, slots_erase]
  split
  · rfl
  · next hne => rw [mem_slots_remove h]; simp [hne]

end Owners

end IngressRouting
