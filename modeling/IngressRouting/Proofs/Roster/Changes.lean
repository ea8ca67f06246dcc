/-
Putting a binding and removing a source, as edits. A put makes at most one
(`Sound.put`); a removal releases the slots of its source one by one
(`Sound.removeSource_eq`), although it takes the whole source out of the owners
first.
-/
import IngressRouting.Proofs.Roster.Undo

namespace IngressRouting.Roster

variable {r r' : Roster} {b old : Binding} {slot : Nat} {us : List Undo}

/-! ## Putting a binding -/

theorem mem_occupied {slots : List Nat} :
    (slot, b) ∈ r.occupied slots ↔ slot ∈ slots ∧ r.get? slot = some b := by
  simp only [occupied, List.mem_filterMap, Option.map_eq_some_iff, Prod.mk.injEq]
  constructor
  · rintro ⟨x, hx, c, hc, rfl, rfl⟩
    exact ⟨hx, hc⟩
  · rintro ⟨hs, hb⟩
    exact ⟨slot, hs, b, hb, rfl, rfl⟩

theorem Sound.mem_occupants (h : r.Sound) {host path : String} :
    (slot, b) ∈ r.occupants host path ↔ r.get? slot = some b ∧ b.host = host ∧ b.path = path := by
  rw [occupants, mem_occupied, h.listed]
  constructor
  · rintro ⟨⟨c, hc, hhost, hpath⟩, hb⟩
    rw [hb] at hc
    cases hc
    exact ⟨hb, hhost, hpath⟩
  · rintro ⟨hb, hhost, hpath⟩
    exact ⟨⟨b, hb, hhost, hpath⟩, hb⟩

theorem Sound.rival_of_find? (h : r.Sound)
    (hf : (r.occupants b.host b.path).find? (fun o => b.annotations = o.2.annotations) =
      some (slot, old)) : r.Rival b slot old := by
  obtain ⟨held, hhost, hpath⟩ := h.mem_occupants.1 (List.mem_of_find?_eq_some hf)
  exact ⟨held, hhost.symm, hpath.symm, by simpa using List.find?_some hf⟩

theorem Sound.not_rival_of_find? (h : r.Sound)
    (hf : (r.occupants b.host b.path).find? (fun o => b.annotations = o.2.annotations) = none)
    (slot : Nat) (old : Binding) : ¬ r.Rival b slot old := by
  rintro ⟨held, host, path, annotations⟩
  rw [List.find?_eq_none] at hf
  have hm := h.mem_occupants.2 ⟨held, host.symm, path.symm⟩
  exact hf _ hm (by simpa using annotations)

/-- What putting a binding comes to. -/
inductive Put (r : Roster) (b : Binding) : Except Conflict Admission → Roster → Prop
  | inserted (free : ∀ slot old, ¬ r.Rival b slot old) : Put r b (.ok .inserted) (r.join b)
  | replaced (slot : Nat) (old : Binding) (rival : r.Rival b slot old) (older : b.since < old.since) :
    Put r b (.ok (.replaced old.source)) (r.displace slot old b)
  | unchanged (slot : Nat) (old : Binding) (rival : r.Rival b slot old) (same : b.since = old.since) :
    Put r b (.ok .unchanged) r
  | refused (slot : Nat) (old : Binding) (rival : r.Rival b slot old) (newer : old.since < b.since) :
    Put r b (.error ⟨b.source, old.source, b.host, b.path⟩) r

theorem Sound.put (h : r.Sound) (b : Binding) : Put r b (r.put b).1 (r.put b).2 := by
  cases hf : (r.occupants b.host b.path).find? (fun o => b.annotations = o.2.annotations) with
  | none =>
    have hc : contest b (r.occupants b.host b.path) = .ok .join := by rw [contest, hf]
    rw [Roster.put, hc]
    exact .inserted (h.not_rival_of_find? hf)
  | some o =>
    obtain ⟨slot, old⟩ := o
    have rival := h.rival_of_find? hf
    by_cases hlt : b.since < old.since
    · have hc : contest b (r.occupants b.host b.path) = .ok (.displace slot old) := by
        simp [contest, hf, hlt]
      rw [Roster.put, hc]
      exact .replaced slot old rival hlt
    by_cases heq : b.since = old.since
    · have hc : contest b (r.occupants b.host b.path) = .ok .same := by
        simp [contest, hf, heq]
      rw [Roster.put, hc]
      exact .unchanged slot old rival heq
    · have hc : contest b (r.occupants b.host b.path) =
          .error ⟨b.source, old.source, b.host, b.path⟩ := by simp [contest, hf, hlt, heq]
      rw [Roster.put, hc]
      exact .refused slot old rival (by grind)

/-- How many slots a put changes. -/
def changes : Except Conflict Admission → Nat
  | .ok .inserted | .ok (.replaced _) => 1
  | .ok .unchanged | .error _ => 0

theorem Sound.put_edits (h : r.Sound) (b : Binding) :
    ∃ us, Edits r us (r.put b).2 ∧ us.length = changes (r.put b).1 := by
  generalize hans : (r.put b).1 = answer
  generalize hst : (r.put b).2 = state
  have hput : Put r b answer state := hans ▸ hst ▸ h.put b
  cases hput with
  | inserted free => exact ⟨_, (Edit.join b free).edits, rfl⟩
  | replaced slot old rival _ => exact ⟨_, (Edit.displace b slot old rival).edits, rfl⟩
  | unchanged _ _ _ _ => exact ⟨[], .refl, rfl⟩
  | refused _ _ _ _ => exact ⟨[], .refl, rfl⟩

/-- A put brings in no binding but its own. -/
theorem Sound.get?_put (h : r.Sound) {c : Binding} (hc : (r.put b).2.get? slot = some c) :
    c = b ∨ r.get? slot = some c := by
  generalize hans : (r.put b).1 = answer at hc
  generalize hst : (r.put b).2 = state at hc
  have hput : Put r b answer state := hans ▸ hst ▸ h.put b
  cases hput with
  | inserted _ =>
    rw [h.get?_join] at hc
    split at hc
    · cases hc; exact .inl rfl
    · exact .inr hc
  | replaced x old rival _ =>
    rw [get?_displace rival.held] at hc
    split at hc
    · cases hc; exact .inl rfl
    · exact .inr hc
  | unchanged _ _ _ _ => exact .inr hc
  | refused _ _ _ _ => exact .inr hc

/-! ## Removing a source -/

/-- Releases a slot if it is taken. -/
def releaseSlot (r : Roster) (slot : Nat) : Roster :=
  match r.get? slot with
  | none => r
  | some b => r.release slot b

theorem releaseSlot_eq (held : r.get? slot = some b) : r.releaseSlot slot = r.release slot b := by
  rw [releaseSlot, held]

/-- Vacating a slot of a source already taken out of the owners. -/
theorem Sound.vacate_eq (h : r.Sound) (held : r.get? slot = some b) :
    ({ r with owners := r.owners.erase b.source } : Roster).vacate slot =
      { r.release slot b with owners := (r.release slot b).owners.erase b.source } := by
  have howners : (r.release slot b).owners = r.owners.remove b.source slot := rfl
  have hget : ({ r with owners := r.owners.erase b.source } : Roster).get? slot = some b := held
  rw [howners, Owners.erase_remove h.owners_pruned, vacate, hget]
  rfl

theorem owners_release {rest : List Nat} (hs : r.owners.slots b.source = slot :: rest) :
    (r.release slot b).owners.slots b.source = rest := by
  change (r.owners.remove b.source slot).slots b.source = rest
  rw [Owners.slots_remove, if_pos rfl, hs, List.erase_cons_head]

/-- The induction is over the slots still to be vacated: they are all that the
source owns, whatever became of the others. -/
theorem Sound.foldl_vacate {source : String} {slots : List Nat} (h : r.Sound)
    (hs : r.owners.slots source = slots) :
    slots.foldl vacate { r with owners := r.owners.erase source } = slots.foldl releaseSlot r := by
  induction slots generalizing r with
  | nil =>
    have hnone : r.owners.get? source = none := by rw [h.owners_pruned.get?_eq, if_pos hs]
    rw [List.foldl_nil, List.foldl_nil, Dict.erase_eq_self hnone]
  | cons slot rest ih =>
    obtain ⟨b, held, rfl⟩ := (h.owned source slot).1 (hs ▸ List.mem_cons_self)
    rw [List.foldl_cons, List.foldl_cons, h.vacate_eq held, releaseSlot_eq held]
    exact ih (h.release held) (owners_release hs)

/-- **Removing a source is releasing its slots.** -/
theorem Sound.removeSource_eq (h : r.Sound) (source : String) :
    r.removeSource source =
      ((r.owners.slots source).length, (r.owners.slots source).foldl releaseSlot r) := by
  rw [removeSource]
  cases hs : r.owners.get? source with
  | none => simp [Owners.slots, hs]
  | some slots =>
    have hslots : r.owners.slots source = slots := by simp [Owners.slots, hs]
    rw [hslots]
    exact congrArg (slots.length, ·) (h.foldl_vacate hslots)

theorem Sound.foldl_releaseSlot_edits {source : String} {slots : List Nat} (h : r.Sound)
    (hs : r.owners.slots source = slots) :
    ∃ us, Edits r us (slots.foldl releaseSlot r) ∧ us.length = slots.length := by
  induction slots generalizing r with
  | nil => exact ⟨[], .refl, rfl⟩
  | cons slot rest ih =>
    obtain ⟨b, held, rfl⟩ := (h.owned source slot).1 (hs ▸ List.mem_cons_self)
    obtain ⟨us, hes, hlen⟩ := ih (h.release held) (owners_release hs)
    rw [List.foldl_cons, releaseSlot_eq held]
    exact ⟨us ++ [_], (Edit.release slot b held).edits.trans hes, by simp [hlen]⟩

theorem get?_releaseSlot (r : Roster) (slot x : Nat) :
    (r.releaseSlot slot).get? x = if x = slot then none else r.get? x := by
  rw [releaseSlot]
  split
  · next hn => split <;> simp_all
  · next b held => exact get?_release held x

theorem get?_foldl_releaseSlot (slots : List Nat) (r : Roster) (x : Nat) :
    (slots.foldl releaseSlot r).get? x = if x ∈ slots then none else r.get? x := by
  induction slots generalizing r with
  | nil => simp
  | cons slot slots ih =>
    rw [List.foldl_cons, ih, get?_releaseSlot]
    by_cases hx : x = slot <;> simp [hx]

theorem Sound.get?_removeSource_eq (h : r.Sound) (source : String) (x : Nat) :
    (r.removeSource source).2.get? x = (r.get? x).filter (·.source ≠ source) := by
  rw [h.removeSource_eq, get?_foldl_releaseSlot]
  split
  · next hm =>
    obtain ⟨b, hb, hs⟩ := (h.owned source x).1 hm
    simp [hb, hs, Option.filter]
  · next hm =>
    cases hx : r.get? x with
    | none => rfl
    | some b =>
      have hne : b.source ≠ source := fun hs => hm ((h.owned source x).2 ⟨b, hx, hs⟩)
      simp [hne, Option.filter]

theorem Sound.get?_removeSource (h : r.Sound) {source : String}
    (hb : (r.removeSource source).2.get? slot = some b) : r.get? slot = some b := by
  rw [h.get?_removeSource_eq, Option.filter_eq_some_iff] at hb
  exact hb.1

theorem Sound.removeSource_edits (h : r.Sound) (source : String) :
    ∃ us, Edits r us (r.removeSource source).2 ∧ us.length = (r.removeSource source).1 := by
  rw [h.removeSource_eq]
  exact h.foldl_releaseSlot_edits rfl

end IngressRouting.Roster
