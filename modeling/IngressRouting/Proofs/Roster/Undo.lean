/-
Taking changes back. Each edit is undone exactly by what it records
(`Edit.undo`): cells, free slots, positions and owners. A chain of edits
(`Edits`) is undone newest first, so a rollback puts back the roster at which
the journal was opened (`Edits.rollback`).
-/
import IngressRouting.Proofs.Roster.Soundness

namespace IngressRouting.Roster

variable {r r' base : Roster} {b old : Binding} {slot : Nat} {u : Undo} {us : List Undo}

theorem eq_commit {s : Roster} (hcells : s.cells = r.cells) (hvacant : s.vacant = r.vacant)
    (hsites : s.sites = r.sites) (howners : s.owners = r.owners) (hjournal : s.journal = none) :
    s = r.commit := by
  obtain ⟨_, _, _, _, _⟩ := s
  cases hcells; cases hvacant; cases hsites; cases howners; cases hjournal
  rfl

theorem commit_eq_self (h : r.journal = none) : r.commit = r := (eq_commit rfl rfl rfl rfl h).symm

theorem Sound.setJournal (h : r.Sound) (journal : Option (List Undo)) :
    ({ r with journal := journal } : Roster).Sound :=
  ⟨h.listed_once, h.listed, h.owned, h.sites_pruned, h.owners_pruned, h.vacant_once, h.vacant,
    h.distinct⟩

theorem Sound.commit (h : r.Sound) : r.commit.Sound := h.setJournal none

theorem Sound.begin (h : r.Sound) : r.begin.Sound := h.setJournal (some [])

/-! ## One edit -/

/-- What undoing a joined binding does where it is still there. -/
theorem undo_joined (held : r.get? slot = some b) (fresh : Bool) :
    r.undo (.joined slot fresh) =
      { r with
        cells := if fresh && slot + 1 == r.cells.length then r.cells.dropLast
          else r.cells.set slot none
        vacant := if fresh && slot + 1 == r.cells.length then r.vacant else slot :: r.vacant
        sites := (r.sites.detach b.host b.path slot).2
        owners := r.owners.remove b.source slot } := by
  simp only [undo, held]

/-- What undoing a displacement does where the newer binding is still there. -/
theorem undo_displaced (held : r.get? slot = some b) (old : Binding) :
    r.undo (.displaced slot old) =
      { r with
        cells := r.cells.set slot (some old)
        owners := (r.owners.remove b.source slot).add old.source slot } := by
  simp only [undo, held]

theorem set_set_self {cells : List (Option Binding)} {v : Option Binding}
    (h : cells[slot]? = some v) (w : Option Binding) : (cells.set slot w).set slot v = cells := by
  rw [List.set_set]
  obtain ⟨hlt, hget⟩ := List.getElem?_eq_some_iff.1 h
  rw [← hget]
  exact List.set_getElem_self hlt

theorem Sound.deallocate (h : r.Sound) (b : Binding) :
    let slot := (r.allocate b).1
    let taken := (r.allocate b).2
    let last := r.vacant.isEmpty && slot + 1 == taken.cells.length
    (if last then taken.cells.dropLast else taken.cells.set slot none) = r.cells ∧
      (if last then taken.vacant else slot :: taken.vacant) = r.vacant := by
  rw [Roster.allocate]
  split
  · next slot rest hv =>
    obtain ⟨hlt, hnone⟩ := (h.vacant slot).1 (by simp [hv])
    have hcell : r.cells[slot]? = some none := by
      rw [List.getElem?_eq_getElem hlt]
      rw [get?, List.getElem?_eq_getElem hlt] at hnone
      exact congrArg some hnone
    simp only [hv, List.isEmpty_cons, Bool.false_and, Bool.false_eq_true, if_false, and_true]
    exact set_set_self hcell _
  · next hv => simp [hv]

theorem Sound.undo_join (h : r.Sound) (b : Binding) :
    (r.join b).commit.undo (.joined (r.allocate b).1 r.vacant.isEmpty) = r.commit := by
  have hget : (r.join b).commit.get? (r.allocate b).1 = some b := h.get?_join_self b
  have hfree := (h.allocate b).free
  have hlisted := h.not_listed hfree b.host b.path
  have howned := h.not_owned hfree b.source
  obtain ⟨hcells, hvacant⟩ := h.deallocate b
  rw [undo_joined hget]
  refine eq_commit hcells hvacant ?_ ?_ rfl
  · change ((r.join b).sites.detach b.host b.path _).2 = r.sites
    rw [join_sites]
    exact Sites.detach_append h.sites_pruned hlisted
  · change (r.join b).owners.remove b.source _ = r.owners
    rw [join_owners]
    exact Owners.remove_add h.owners_pruned howned

theorem Sound.undo_displace (h : r.Sound) (held : r.get? slot = some old) (b : Binding) :
    (r.displace slot old b).commit.undo (.displaced slot old) = r.commit := by
  have hget : (r.displace slot old b).commit.get? slot = some b := get?_displace_self held b
  have howned : slot ∈ r.owners.slots old.source := (h.owned _ _).2 ⟨old, held, rfl⟩
  have hnot : slot ∉ (r.owners.remove old.source slot).slots b.source := fun hm => by
    obtain ⟨hne, hm⟩ := (Owners.mem_slots_remove h.owners_pruned).1 hm
    obtain ⟨c, hc, hs⟩ := (h.owned _ _).1 hm
    rw [held] at hc
    cases hc
    exact hne ⟨hs.symm, rfl⟩
  rw [undo_displaced hget]
  refine eq_commit ?_ rfl rfl ?_ rfl
  · exact set_set_self (getElem?_of_get? held) _
  · change (((r.owners.remove old.source slot).add b.source slot).remove b.source slot).add
      old.source slot = r.owners
    rw [Owners.remove_add (h.owners_pruned.remove _ _) hnot, Owners.add_remove h.owners_pruned howned]

theorem Sound.undo_release (h : r.Sound) (held : r.get? slot = some b) :
    (r.release slot b).commit.undo (.removed slot (r.sites.detach b.host b.path slot).1 b) =
      r.commit := by
  have hlisted : slot ∈ r.sites.slots b.host b.path := (h.listed _ _ _).2 ⟨b, held, rfl, rfl⟩
  have howned : slot ∈ r.owners.slots b.source := (h.owned _ _).2 ⟨b, held, rfl⟩
  refine eq_commit ?_ ?_ ?_ ?_ rfl
  · exact set_set_self (getElem?_of_get? held) _
  · exact List.erase_cons_head slot r.vacant
  · exact Sites.restore_detach h.sites_pruned hlisted
  · exact Owners.add_remove h.owners_pruned howned

/-- **An edit is undone exactly by what it records.** -/
theorem Edit.undo (e : Edit r u r') (h : r.Sound) : r'.commit.undo u = r.commit := by
  cases e with
  | join b _ => exact h.undo_join b
  | displace b slot old rival => exact h.undo_displace rival.held b
  | release slot b held => exact h.undo_release held

/-! ## Chains of edits -/

/-- Edits one after the other; what takes them back is listed newest first. -/
inductive Edits (r : Roster) : List Undo → Roster → Prop
  | refl : Edits r [] r
  | tail {us u r' r''} (es : Edits r us r') (e : Edit r' u r'') : Edits r (u :: us) r''

theorem Edit.edits (e : Edit r u r') : Edits r [u] r' := .tail .refl e

theorem Edits.trans {r'' : Roster} {vs : List Undo} (es : Edits r us r') (fs : Edits r' vs r'') :
    Edits r (vs ++ us) r'' := by
  induction fs with
  | refl => exact es
  | tail _ e ih => exact .tail ih e

theorem Edits.sound (es : Edits r us r') (h : r.Sound) : r'.Sound := by
  induction es with
  | refl => exact h
  | tail _ e ih => exact e.sound ih

theorem Edits.journal (es : Edits r us r') : r'.journal = r.journal.map (us ++ ·) := by
  induction es with
  | refl => simp
  | tail _ e ih =>
    rw [e.journal, ih]
    cases r.journal <;> rfl

theorem Edits.undo (es : Edits r us r') (h : r.Sound) :
    us.foldl Roster.undo r'.commit = r.commit := by
  induction es with
  | refl => rfl
  | tail es e ih => rw [List.foldl_cons, e.undo (es.sound h), ih]

/-- **A rollback puts back the roster at which the journal was opened**, and
counts the edits since. -/
theorem Edits.rollback (es : Edits r us r') (h : r.Sound) (hopen : r.journal = some []) :
    r'.rollback = (us.length, r.commit) := by
  have hj : r'.journal = some us := by rw [es.journal, hopen]; simp
  have hundo := es.undo h
  rw [Roster.rollback, hj]
  exact congrArg (us.length, ·) hundo

end IngressRouting.Roster
