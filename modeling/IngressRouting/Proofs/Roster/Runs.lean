/-
What holds of a roster after any run of puts, removals, begins, commits and
rollbacks, in any order.

The invariant has to speak of an open journal (`Consistent`): its edits lead
from a sound roster to the present one, so a rollback ends in a sound roster,
and every slot that a rollback or another operation writes to is a place of the
arena (`InBounds`).
-/
import IngressRouting.Proofs.Roster.Changes

namespace IngressRouting

/-- The slot that an undo writes to. -/
def Undo.slot : Undo → Nat
  | .joined slot _ | .displaced slot _ | .removed slot _ _ => slot

namespace Roster

variable {r r' base : Roster} {u : Undo} {us : List Undo}

/-- Every roster that operations lead to. -/
inductive Reachable : Roster → Prop
  | empty : Reachable Roster.empty
  | put {r : Roster} (h : Reachable r) (b : Binding) : Reachable (r.put b).2
  | removeSource {r : Roster} (h : Reachable r) (source : String) :
    Reachable (r.removeSource source).2
  | begin {r : Roster} (h : Reachable r) : Reachable r.begin
  | commit {r : Roster} (h : Reachable r) : Reachable r.commit
  | rollback {r : Roster} (h : Reachable r) : Reachable r.rollback.2

/-- Sound, and where a journal is open its edits lead here from a sound roster. -/
structure Consistent (r : Roster) : Prop where
  sound : r.Sound
  journal : ∀ us, r.journal = some us →
    ∃ base : Roster, base.Sound ∧ base.journal = some [] ∧ Edits base us r

/-- Edits carry consistency along: the journal, if one is open, grows by them. -/
theorem Consistent.edits (h : r.Consistent) (es : Edits r us r') : r'.Consistent := by
  refine ⟨es.sound h.sound, fun vs hvs => ?_⟩
  cases hj : r.journal with
  | none => rw [es.journal, hj] at hvs; cases hvs
  | some ws =>
    obtain ⟨base, hbase, hopen, hes⟩ := h.journal ws hj
    rw [es.journal, hj] at hvs
    cases hvs
    exact ⟨base, hbase, hopen, hes.trans es⟩

theorem Consistent.rollback (h : r.Consistent) : r.rollback.2.Consistent := by
  cases hj : r.journal with
  | none =>
    rw [Roster.rollback, hj]
    exact h
  | some us =>
    obtain ⟨base, hbase, hopen, hes⟩ := h.journal us hj
    rw [hes.rollback hbase hopen]
    exact ⟨hbase.commit, fun _ hn => by cases hn⟩

theorem Reachable.consistent (h : Reachable r) : r.Consistent := by
  induction h with
  | empty => exact ⟨sound_empty, fun _ hn => by cases hn⟩
  | put _ b ih =>
    obtain ⟨us, hes, _⟩ := ih.sound.put_edits b
    exact ih.edits hes
  | removeSource _ source ih =>
    obtain ⟨us, hes, _⟩ := ih.sound.removeSource_edits source
    exact ih.edits hes
  | begin _ ih =>
    refine ⟨ih.sound.begin, fun us hus => ?_⟩
    cases hus
    exact ⟨_, ih.sound.begin, rfl, .refl⟩
  | commit _ ih => exact ⟨ih.sound.commit, fun _ hn => by cases hn⟩
  | rollback _ ih => exact ih.rollback

/-! ## Writing within the arena -/

/-- Each slot is a place of the arena when its turn comes to be vacated. -/
def VacatesInBounds (r : Roster) : List Nat → Prop
  | [] => True
  | slot :: slots => slot < r.cells.length ∧ (r.vacate slot).VacatesInBounds slots

/-- Each change writes to a place of the arena when its turn comes to be taken
back. -/
def UndoesInBounds (r : Roster) : List Undo → Prop
  | [] => True
  | u :: us => u.slot < r.cells.length ∧ (r.undo u).UndoesInBounds us

/-- Every slot that an operation writes to is a place of the arena. -/
structure InBounds (r : Roster) : Prop where
  /-- The slot that a put overwrites. -/
  displace : ∀ b slot old, contest b (r.occupants b.host b.path) = .ok (.displace slot old) →
    slot < r.cells.length
  /-- The free slot that a put fills. -/
  allocate : ∀ slot rest, r.vacant = slot :: rest → slot < r.cells.length
  removeSource : ∀ source slots, r.owners.get? source = some slots →
    ({ r with owners := r.owners.erase source } : Roster).VacatesInBounds slots
  rollback : ∀ us, r.journal = some us → ({ r with journal := none } : Roster).UndoesInBounds us

theorem cells_length_vacate (r : Roster) (slot : Nat) :
    (r.vacate slot).cells.length = r.cells.length := by
  rw [vacate]
  split
  · rfl
  · exact List.length_set

theorem vacatesInBounds {slots : List Nat} (h : ∀ slot ∈ slots, slot < r.cells.length) :
    r.VacatesInBounds slots := by
  induction slots generalizing r with
  | nil => trivial
  | cons slot slots ih =>
    refine ⟨h slot List.mem_cons_self, ih fun s hs => ?_⟩
    rw [cells_length_vacate]
    exact h s (List.mem_cons_of_mem _ hs)

theorem Edit.slot_lt (e : Edit r u r') (h : r.Sound) : u.slot < r'.cells.length := by
  cases e with
  | join b _ => exact lt_of_get? (h.get?_join_self b)
  | displace b slot old rival => exact lt_of_get? (get?_displace_self rival.held b)
  | release slot b held =>
    change slot < (r.cells.set slot none).length
    rw [List.length_set]
    exact lt_of_get? held

theorem Edits.undoesInBounds (es : Edits r us r') (h : r.Sound) : r'.commit.UndoesInBounds us := by
  induction es with
  | refl => trivial
  | tail es e ih =>
    refine ⟨e.slot_lt (es.sound h), ?_⟩
    rw [e.undo (es.sound h)]
    exact ih

theorem Consistent.inBounds (h : r.Consistent) : r.InBounds where
  displace b slot old hc := by
    rw [contest] at hc
    split at hc
    · cases hc
    · next slot' old' hf =>
      have rival := h.sound.rival_of_find? hf
      split at hc
      · cases hc
        exact lt_of_get? rival.held
      · split at hc <;> cases hc
  allocate slot rest hv := ((h.sound.vacant slot).1 (by simp [hv])).1
  removeSource source slots hs := by
    refine vacatesInBounds fun slot hm => ?_
    have hslots : r.owners.slots source = slots := by simp [Owners.slots, hs]
    obtain ⟨b, held, _⟩ := (h.sound.owned source slot).1 (hslots ▸ hm)
    exact lt_of_get? held
  rollback us hus := by
    obtain ⟨base, hbase, _, hes⟩ := h.journal us hus
    exact hes.undoesInBounds hbase

/-! ## Counting -/

theorem cells_eq_map (r : Roster) : r.cells = (List.range r.cells.length).map r.get? := by
  refine List.ext_getElem (by simp) fun i hi _ => ?_
  simp [get?, List.getElem?_eq_getElem hi]

theorem Sound.length_vacant (h : r.Sound) :
    r.vacant.length = r.cells.countP fun c => !c.isSome := by
  have hperm : r.vacant.Perm
      ((List.range r.cells.length).filter fun slot => !(r.get? slot).isSome) := by
    refine (List.perm_ext_iff_of_nodup h.vacant_once (List.nodup_range.filter _)).2 fun slot => ?_
    simp [h.vacant]
  rw [hperm.length_eq, ← List.countP_eq_length_filter]
  conv_rhs => rw [cells_eq_map]
  rw [List.countP_map]
  rfl

theorem Sound.length_cells (h : r.Sound) :
    r.cells.length = r.cells.countP Option.isSome + r.vacant.length := by
  have hfree : (fun c : Option Binding => !c.isSome) = fun c => decide ¬ c.isSome = true := by
    funext c
    cases c <;> rfl
  rw [h.length_vacant, hfree]
  exact List.length_eq_countP_add_countP Option.isSome

theorem Sound.size_eq (h : r.Sound) : r.size = r.cells.countP Option.isSome := by
  rw [size, h.length_cells]
  omega

/-- **The representation of a roster.** Whatever the run, the arena, the free
slots, the sites and the owners agree, what is free and what is taken add up,
and no operation writes outside of the arena. -/
theorem Reachable.representation (h : Reachable r) :
    r.Sound ∧ r.InBounds ∧ r.vacant.length ≤ r.cells.length ∧
      r.size = r.cells.countP Option.isSome := by
  have hc := h.consistent
  have hlen := hc.sound.length_cells
  exact ⟨hc.sound, hc.inBounds, by omega, hc.sound.size_eq⟩

/-- A binding that displaces a younger one, and a removal taken back. -/
theorem representation_of_run :
    let young : Binding := ⟨"ns/a", "example.com", "/foo", ∅, 7, .forward "ns_a"⟩
    let old : Binding := ⟨"ns/b", "example.com", "/foo", ∅, 3, .forward "ns_b"⟩
    let r := ((((Roster.empty.put young).2.put old).2.begin.removeSource "ns/b").2.rollback).2
    r.cells = [some old] ∧ r.Sound ∧ r.InBounds ∧ r.vacant.length ≤ r.cells.length ∧
      r.size = r.cells.countP Option.isSome :=
  ⟨by decide, Reachable.representation (.rollback (.removeSource (.begin (.put (.put .empty _) _)) _))⟩

end Roster

end IngressRouting
