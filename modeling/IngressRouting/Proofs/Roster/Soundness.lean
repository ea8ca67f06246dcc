/-
What holds of every roster (`Roster.Sound`): the slots that sites and owners
name are those of the bindings in force, each named once in either, and the
free slots are the rest.

All that a roster does comes down to three edits (`Roster.Edit`): a binding
joins, displaces another, or is released. Each keeps the roster sound
(`Edit.sound`).
-/
import IngressRouting.Proofs.Roster.Slots

namespace IngressRouting.Roster

variable {r r' : Roster} {b old : Binding} {slot : Nat} {u : Undo}

/-- The arena, the free slots, the sites and the owners agree. -/
structure Sound (r : Roster) : Prop where
  /-- A list has no slot twice. -/
  listed_once : ∀ host path, (r.sites.slots host path).Nodup
  /-- A host and path lists the slots of its own bindings and no others. -/
  listed : ∀ host path slot, slot ∈ r.sites.slots host path ↔
    ∃ b, r.get? slot = some b ∧ b.host = host ∧ b.path = path
  /-- A source owns the slots of its own bindings and no others. -/
  owned : ∀ source slot, slot ∈ r.owners.slots source ↔
    ∃ b, r.get? slot = some b ∧ b.source = source
  /-- No list and no host is empty. -/
  sites_pruned : r.sites.Pruned
  /-- No source without slots; each has its slots in order, none twice. -/
  owners_pruned : r.owners.Pruned
  vacant_once : r.vacant.Nodup
  /-- The free slots are the places of the arena without a binding. -/
  vacant : ∀ slot, slot ∈ r.vacant ↔ slot < r.cells.length ∧ r.get? slot = none
  /-- At one host and path no two bindings have the same annotations. -/
  distinct : ∀ s t b c, r.get? s = some b → r.get? t = some c → b.host = c.host →
    b.path = c.path → b.annotations = c.annotations → s = t

theorem sound_empty : Roster.empty.Sound where
  listed_once _ _ := List.nodup_nil
  listed _ _ slot := by simp [empty, Sites.slots_empty, get?]
  owned _ slot := by simp [empty, Owners.slots, get?]
  sites_pruned := Sites.pruned_empty
  owners_pruned := Owners.pruned_empty
  vacant_once := List.nodup_nil
  vacant slot := by simp [empty]
  distinct s _ _ _ hs := by simp [empty, get?] at hs

/-- The slot is held by a binding that a newcomer contests: both have the same
host, path and annotations. -/
structure Rival (r : Roster) (newcomer : Binding) (slot : Nat) (holder : Binding) : Prop where
  held : r.get? slot = some holder
  host : newcomer.host = holder.host
  path : newcomer.path = holder.path
  annotations : newcomer.annotations = holder.annotations

/-! ## The arena -/

theorem lt_of_get? (h : r.get? slot = some b) : slot < r.cells.length := by
  rw [get?] at h
  cases hc : r.cells[slot]? with
  | none => rw [hc] at h; cases h
  | some c => exact (List.getElem?_eq_some_iff.1 hc).1

theorem getElem?_of_get? (h : r.get? slot = some b) : r.cells[slot]? = some (some b) := by
  rw [get?] at h
  cases hc : r.cells[slot]? with
  | none => rw [hc] at h; cases h
  | some c => rw [hc] at h; exact congrArg some h

theorem join_getElem?_set {cells : List (Option Binding)} (hlt : slot < cells.length)
    (v : Option Binding) (x : Nat) :
    ((cells.set slot v)[x]?).join = if x = slot then v else (cells[x]?).join := by
  by_cases hx : x = slot
  · subst hx
    rw [List.getElem?_set_self hlt, if_pos rfl]
    rfl
  · rw [List.getElem?_set_ne (Ne.symm hx), if_neg hx]

theorem join_getElem?_append (cells : List (Option Binding)) (v : Option Binding) (x : Nat) :
    ((cells ++ [v])[x]?).join = if x = cells.length then v else (cells[x]?).join := by
  by_cases hx : x = cells.length
  · subst hx; simp
  · rw [if_neg hx]
    by_cases hlt : x < cells.length
    · rw [List.getElem?_append_left hlt]
    · rw [List.getElem?_eq_none (by simp; omega), List.getElem?_eq_none (by omega)]

/-! ## Changes by their fields -/

@[simp] theorem record_cells (r : Roster) (u : Undo) : (r.record u).cells = r.cells := rfl
@[simp] theorem record_vacant (r : Roster) (u : Undo) : (r.record u).vacant = r.vacant := rfl
@[simp] theorem record_sites (r : Roster) (u : Undo) : (r.record u).sites = r.sites := rfl
@[simp] theorem record_owners (r : Roster) (u : Undo) : (r.record u).owners = r.owners := rfl
@[simp] theorem record_journal (r : Roster) (u : Undo) :
    (r.record u).journal = r.journal.map (u :: ·) := rfl

@[simp] theorem allocate_sites (r : Roster) (b : Binding) : (r.allocate b).2.sites = r.sites := by
  rw [allocate]; split <;> rfl
@[simp] theorem allocate_owners (r : Roster) (b : Binding) :
    (r.allocate b).2.owners = r.owners := by
  rw [allocate]; split <;> rfl
@[simp] theorem allocate_journal (r : Roster) (b : Binding) :
    (r.allocate b).2.journal = r.journal := by
  rw [allocate]; split <;> rfl

@[simp] theorem join_cells (r : Roster) (b : Binding) :
    (r.join b).cells = (r.allocate b).2.cells := rfl
@[simp] theorem join_vacant (r : Roster) (b : Binding) :
    (r.join b).vacant = (r.allocate b).2.vacant := rfl
@[simp] theorem join_sites (r : Roster) (b : Binding) :
    (r.join b).sites = r.sites.append b.host b.path (r.allocate b).1 := by
  simp [join]
@[simp] theorem join_owners (r : Roster) (b : Binding) :
    (r.join b).owners = r.owners.add b.source (r.allocate b).1 := by
  simp [join]
@[simp] theorem join_journal (r : Roster) (b : Binding) :
    (r.join b).journal =
      r.journal.map (.joined (r.allocate b).1 r.vacant.isEmpty :: ·) := by
  simp [join]

/-- Takes the binding out of a slot and off both ways into the roster. -/
def release (r : Roster) (slot : Nat) (b : Binding) : Roster :=
  { r with
    cells := r.cells.set slot none
    vacant := slot :: r.vacant
    sites := (r.sites.detach b.host b.path slot).2
    owners := r.owners.remove b.source slot }.record
      (.removed slot (r.sites.detach b.host b.path slot).1 b)

/-- A change of one slot, with what takes it back. -/
inductive Edit (r : Roster) : Undo → Roster → Prop
  | join (b : Binding) (free : ∀ slot old, ¬ r.Rival b slot old) :
    Edit r (.joined (r.allocate b).1 r.vacant.isEmpty) (r.join b)
  | displace (b : Binding) (slot : Nat) (old : Binding) (rival : r.Rival b slot old) :
    Edit r (.displaced slot old) (r.displace slot old b)
  | release (slot : Nat) (b : Binding) (held : r.get? slot = some b) :
    Edit r (.removed slot (r.sites.detach b.host b.path slot).1 b) (r.release slot b)

theorem Edit.journal (e : Edit r u r') : r'.journal = r.journal.map (u :: ·) := by
  cases e with
  | join b _ => exact join_journal r b
  | displace b slot old _ => rfl
  | release slot b _ => rfl

theorem Sound.not_listed (h : r.Sound) (hn : r.get? slot = none) (host path : String) :
    slot ∉ r.sites.slots host path := fun hm => by
  obtain ⟨c, hc, _⟩ := (h.listed host path slot).1 hm
  rw [hn] at hc
  cases hc

theorem Sound.not_owned (h : r.Sound) (hn : r.get? slot = none) (source : String) :
    slot ∉ r.owners.slots source := fun hm => by
  obtain ⟨c, hc, _⟩ := (h.owned source slot).1 hm
  rw [hn] at hc
  cases hc

/-! ## Joining -/

/-- The next binding gets a free slot, and nothing else changes. -/
structure Allocated (r : Roster) (b : Binding) : Prop where
  free : r.get? (r.allocate b).1 = none
  get? : ∀ x, (r.allocate b).2.get? x = if x = (r.allocate b).1 then some b else r.get? x
  vacant_once : (r.allocate b).2.vacant.Nodup
  vacant : ∀ x, x ∈ (r.allocate b).2.vacant ↔ x ∈ r.vacant ∧ x ≠ (r.allocate b).1
  /-- The arena grows by that slot only. -/
  length : ∀ x, x ≠ (r.allocate b).1 → (x < (r.allocate b).2.cells.length ↔ x < r.cells.length)

/-- A free slot of the arena, which is used first. -/
theorem Sound.allocate_vacant (h : r.Sound) (b : Binding) {rest : List Nat}
    (hv : r.vacant = slot :: rest) : r.Allocated b := by
  have halloc : r.allocate b = (slot, { r with cells := r.cells.set slot (some b), vacant := rest }) := by
    rw [Roster.allocate, hv]
  obtain ⟨hlt, hnone⟩ := (h.vacant slot).1 (by simp [hv])
  obtain ⟨hn, hrest⟩ := List.nodup_cons.1 (hv ▸ h.vacant_once)
  constructor <;> rw [halloc]
  case free => exact hnone
  case get? => exact fun x => join_getElem?_set hlt _ x
  case vacant_once => exact hrest
  case vacant =>
    intro x
    rw [hv, List.mem_cons]
    constructor
    · intro hx
      exact ⟨.inr hx, fun (he : x = slot) => hn (he ▸ hx)⟩
    · rintro ⟨rfl | hx, hne⟩
      · exact absurd rfl hne
      · exact hx
  case length => simp

theorem allocate_fresh (b : Binding) (hv : r.vacant = []) : r.Allocated b := by
  have halloc : r.allocate b = (r.cells.length, { r with cells := r.cells ++ [some b] }) := by
    rw [Roster.allocate, hv]
  constructor <;> rw [halloc]
  case free => rw [get?, List.getElem?_eq_none (Nat.le_refl _)]; rfl
  case get? => exact fun x => join_getElem?_append _ _ x
  case vacant_once => simp [hv]
  case vacant => simp [hv]
  case length =>
    intro x hx
    simp only at hx
    simp only [List.length_append, List.length_singleton]
    omega

theorem Sound.allocate (h : r.Sound) (b : Binding) : r.Allocated b := by
  cases hv : r.vacant with
  | nil => exact allocate_fresh b hv
  | cons slot rest => exact h.allocate_vacant b hv

theorem Sound.get?_join (h : r.Sound) (b : Binding) (x : Nat) :
    (r.join b).get? x = if x = (r.allocate b).1 then some b else r.get? x :=
  (h.allocate b).get? x

theorem Sound.get?_join_self (h : r.Sound) (b : Binding) :
    (r.join b).get? (r.allocate b).1 = some b := by
  rw [h.get?_join, if_pos rfl]

theorem Sound.listed_once_join (h : r.Sound) (b : Binding) (host path : String) :
    ((r.join b).sites.slots host path).Nodup := by
  rw [join_sites, Sites.slots_append]
  split
  · rw [List.nodup_append]
    refine ⟨h.listed_once _ _, by simp, fun a ha c hc he => ?_⟩
    rw [List.mem_singleton] at hc
    exact h.not_listed (h.allocate b).free _ _ (hc ▸ he ▸ ha)
  · exact h.listed_once _ _

theorem Sound.listed_join (h : r.Sound) (b : Binding) (host path : String) (x : Nat) :
    x ∈ (r.join b).sites.slots host path ↔
      ∃ c, (r.join b).get? x = some c ∧ c.host = host ∧ c.path = path := by
  rw [join_sites, Sites.slots_append, h.get?_join]
  by_cases hx : x = (r.allocate b).1
  · rw [if_pos hx, hx]
    split
    · next he => simp [he]
    · next he =>
      refine iff_of_false (h.not_listed (h.allocate b).free _ _) ?_
      rintro ⟨c, hc, rfl, rfl⟩
      cases hc
      exact he ⟨rfl, rfl⟩
  · rw [if_neg hx, ← h.listed]
    split
    · next he => simp [he, hx]
    · rfl

theorem Sound.owned_join (h : r.Sound) (b : Binding) (source : String) (x : Nat) :
    x ∈ (r.join b).owners.slots source ↔ ∃ c, (r.join b).get? x = some c ∧ c.source = source := by
  rw [join_owners, Owners.mem_slots_add, h.get?_join]
  by_cases hx : x = (r.allocate b).1
  · subst hx
    simp [h.not_owned (h.allocate b).free, eq_comm]
  · simp [hx, h.owned]

theorem Sound.distinct_join (h : r.Sound) (free : ∀ slot old, ¬ r.Rival b slot old) (s t : Nat)
    (c d : Binding) (hs : (r.join b).get? s = some c) (ht : (r.join b).get? t = some d)
    (hhost : c.host = d.host) (hpath : c.path = d.path) (hann : c.annotations = d.annotations) :
    s = t := by
  rw [h.get?_join] at hs ht
  split at hs <;> split at ht
  · next hs' ht' => rw [hs', ht']
  · cases hs
    exact absurd ⟨ht, hhost, hpath, hann⟩ (free t d)
  · cases ht
    exact absurd ⟨hs, hhost.symm, hpath.symm, hann.symm⟩ (free s c)
  · exact h.distinct s t c d hs ht hhost hpath hann

theorem Sound.join (h : r.Sound) (free : ∀ slot old, ¬ r.Rival b slot old) :
    (r.join b).Sound where
  listed_once := h.listed_once_join b
  listed := h.listed_join b
  owned := h.owned_join b
  sites_pruned := by rw [join_sites]; exact h.sites_pruned.setSlots _ _ _
  owners_pruned := by rw [join_owners]; exact h.owners_pruned.add _ _
  vacant_once := (h.allocate b).vacant_once
  vacant x := by
    rw [join_vacant, (h.allocate b).vacant, h.vacant, h.get?_join, join_cells]
    by_cases hx : x = (r.allocate b).1
    · simp [hx]
    · simp [hx, (h.allocate b).length x hx]
  distinct := h.distinct_join free

/-! ## Displacing -/

theorem get?_displace (held : r.get? slot = some old) (b : Binding) (x : Nat) :
    (r.displace slot old b).get? x = if x = slot then some b else r.get? x :=
  join_getElem?_set (lt_of_get? held) _ x

theorem get?_displace_self (held : r.get? slot = some old) (b : Binding) :
    (r.displace slot old b).get? slot = some b := by
  rw [get?_displace held, if_pos rfl]

theorem Sound.listed_displace (h : r.Sound) (rival : r.Rival b slot old) (host path : String)
    (x : Nat) : x ∈ (r.displace slot old b).sites.slots host path ↔
      ∃ c, (r.displace slot old b).get? x = some c ∧ c.host = host ∧ c.path = path := by
  rw [get?_displace rival.held]
  by_cases hx : x = slot
  · subst hx
    rw [if_pos rfl]
    exact (h.listed host path x).trans (by simp [rival.held, rival.host, rival.path])
  · rw [if_neg hx]
    exact h.listed host path x

theorem Sound.owned_displace (h : r.Sound) (held : r.get? slot = some old) (b : Binding)
    (source : String) (x : Nat) : x ∈ (r.displace slot old b).owners.slots source ↔
      ∃ c, (r.displace slot old b).get? x = some c ∧ c.source = source := by
  change x ∈ ((r.owners.remove old.source slot).add b.source slot).slots source ↔ _
  rw [Owners.mem_slots_add, Owners.mem_slots_remove h.owners_pruned, h.owned, get?_displace held]
  by_cases hx : x = slot
  · subst hx
    simp only [if_true, held, Option.some.injEq, exists_eq_left', and_true]
    by_cases hs : source = b.source
    · simp [hs]
    · by_cases ho : source = old.source
      · simp [ho, eq_comm]
      · simp [ho, Ne.symm hs, Ne.symm ho, hs]
  · simp [hx]

theorem Sound.distinct_displace (h : r.Sound) (rival : r.Rival b slot old) (s t : Nat)
    (c d : Binding) (hs : (r.displace slot old b).get? s = some c)
    (ht : (r.displace slot old b).get? t = some d) (hhost : c.host = d.host) (hpath : c.path = d.path)
    (hann : c.annotations = d.annotations) : s = t := by
  obtain ⟨held, host, path, annotations⟩ := rival
  rw [get?_displace held] at hs ht
  split at hs <;> split at ht
  · next hs' ht' => rw [hs', ht']
  · next hs' _ =>
    cases hs
    exact hs' ▸ h.distinct slot t old d held ht (host ▸ hhost) (path ▸ hpath) (annotations ▸ hann)
  · next _ ht' =>
    cases ht
    exact ht' ▸ h.distinct s slot c old hs held (hhost.trans host) (hpath.trans path)
      (hann.trans annotations)
  · exact h.distinct s t c d hs ht hhost hpath hann

theorem Sound.displace (h : r.Sound) (rival : r.Rival b slot old) :
    (r.displace slot old b).Sound where
  listed_once := h.listed_once
  listed := h.listed_displace rival
  owned := h.owned_displace rival.held b
  sites_pruned := h.sites_pruned
  owners_pruned := (h.owners_pruned.remove _ _).add _ _
  vacant_once := h.vacant_once
  vacant x := by
    rw [get?_displace rival.held]
    change x ∈ r.vacant ↔ x < (r.cells.set slot (some b)).length ∧ _
    rw [h.vacant, List.length_set]
    by_cases hx : x = slot
    · simp [hx, rival.held]
    · simp [hx]
  distinct := h.distinct_displace rival

/-! ## Releasing -/

theorem get?_release (held : r.get? slot = some b) (x : Nat) :
    (r.release slot b).get? x = if x = slot then none else r.get? x :=
  join_getElem?_set (lt_of_get? held) _ x

theorem Sound.sites_release (h : r.Sound) (b : Binding) (slot : Nat) :
    (r.release slot b).sites =
      r.sites.setSlots b.host b.path ((r.sites.slots b.host b.path).erase slot) :=
  congrArg Prod.snd (Sites.detach_eq h.sites_pruned b.host b.path slot)

theorem Sound.slots_release (h : r.Sound) (b : Binding) (slot : Nat) (host path : String) :
    (r.release slot b).sites.slots host path =
      if host = b.host ∧ path = b.path then (r.sites.slots host path).erase slot
      else r.sites.slots host path := by
  rw [h.sites_release, Sites.slots_setSlots]
  split
  · next he => rw [he.1, he.2]
  · rfl

theorem Sound.listed_release (h : r.Sound) (held : r.get? slot = some b) (host path : String)
    (x : Nat) : x ∈ (r.release slot b).sites.slots host path ↔
      ∃ c, (r.release slot b).get? x = some c ∧ c.host = host ∧ c.path = path := by
  rw [h.slots_release, get?_release held]
  by_cases hx : x = slot
  · subst hx
    rw [if_pos rfl]
    refine iff_of_false ?_ (by simp)
    split
    · exact (h.listed_once _ _).not_mem_erase
    · next he =>
      intro hm
      obtain ⟨c, hc, hhost, hpath⟩ := (h.listed host path x).1 hm
      rw [held] at hc
      cases hc
      exact he ⟨hhost.symm, hpath.symm⟩
  · rw [if_neg hx, ← h.listed]
    split
    · exact List.mem_erase_of_ne hx
    · rfl

theorem Sound.owned_release (h : r.Sound) (held : r.get? slot = some b) (source : String) (x : Nat) :
    x ∈ (r.release slot b).owners.slots source ↔
      ∃ c, (r.release slot b).get? x = some c ∧ c.source = source := by
  change x ∈ (r.owners.remove b.source slot).slots source ↔ _
  rw [Owners.mem_slots_remove h.owners_pruned, h.owned, get?_release held]
  by_cases hx : x = slot
  · subst hx
    simp [held, eq_comm]
  · simp [hx]

theorem Sound.release (h : r.Sound) (held : r.get? slot = some b) : (r.release slot b).Sound where
  listed_once host path := by
    rw [h.slots_release]
    split
    · exact (h.listed_once _ _).erase _
    · exact h.listed_once _ _
  listed := h.listed_release held
  owned := h.owned_release held
  sites_pruned := by rw [h.sites_release]; exact h.sites_pruned.setSlots _ _ _
  owners_pruned := h.owners_pruned.remove _ _
  vacant_once := by
    refine List.nodup_cons.2 ⟨fun hm => ?_, h.vacant_once⟩
    rw [h.vacant, held] at hm
    cases hm.2
  vacant x := by
    change x ∈ slot :: r.vacant ↔ x < (r.cells.set slot none).length ∧ _
    rw [List.mem_cons, h.vacant, get?_release held, List.length_set]
    by_cases hx : x = slot
    · simp [hx, lt_of_get? held]
    · simp [hx]
  distinct s t c d hs ht := by
    rw [get?_release held] at hs ht
    split at hs
    · cases hs
    · split at ht
      · cases ht
      · exact h.distinct s t c d hs ht

/-- **Every edit keeps a roster sound.** -/
theorem Edit.sound (e : Edit r u r') (h : r.Sound) : r'.Sound := by
  cases e with
  | join b free => exact h.join free
  | displace b slot old rival => exact h.displace rival
  | release slot b held => exact h.release held

end IngressRouting.Roster
