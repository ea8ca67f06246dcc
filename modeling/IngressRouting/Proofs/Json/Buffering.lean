/-
Values that are buffered until it is known what they should be, as those behind the tag of a
record of one of several kinds.
-/
import IngressRouting.Proofs.Json.Collections

namespace IngressRouting.Json

open Value

/-! ## Reading buffers -/

namespace Buffered

variable {ι σ α : Type} {r : Record Reader σ α} {s s' : σ} {bs : List (String × Buffered)}

theorem listOf_map {item : Reader α} {write : α → Buffered} (h : ∀ x, item (write x) = .ok x)
    (xs : List α) : listOf item (.list (xs.map write)) = .ok xs := by
  rw [listOf]
  induction xs with
  | nil => rfl
  | cons x xs ih =>
    rw [List.map_cons, List.mapM_cons, h x, ih]
    rfl

theorem fillMembers_field {k name : String} {get : σ → Option ι} {set : ι → σ → σ} {read : Reader ι}
    {b : Buffered} {x : ι} (hf : r.field? k = some (.ofReader name get set read))
    (hs : (get s).isSome = false) (hb : read b = .ok x) (h : fillMembers r (set x s) bs = .ok s') :
    fillMembers r s ((k, b) :: bs) = .ok s' := by
  simp only [fillMembers, hf, Field.ofReader, hs, Bool.false_eq_true, if_false, hb]
  exact h

theorem record_map {a : α} (h : fillMembers r r.blank bs = .ok s) (hr : r.build s = .ok a) :
    record r (.map bs) = .ok a := by
  rw [record, h]
  change r.finish s = _
  rw [Record.finish, hr]
  rfl

theorem variant_string {known : List (String × α)} {name : String} {a : α}
    (h : known.find? (·.1 = name) = some (name, a)) : variant known (.string name) = .ok a := by
  simp only [variant, h]

theorem naturalBelow_number {limit n : Nat} (h : n < limit) (expected : String) :
    naturalBelow limit expected (.number (.natural n)) = .ok n := by
  rw [naturalBelow, if_pos h]

end Buffered

namespace Decoder

variable {ι α : Type} {depth k n : Nat}

/-! ## Buffering -/

theorem takes_buffered_string (s : String) : Takes 0 (buffered (k + 1)) (.string s) (.string s) := by
  intro before text rest room hb htext _ _
  obtain rfl : text = writeString s := htext
  rw [List.append_assoc]
  exact Yields.placed (.pastBlank hb rfl ((yields_quoted s).bind (yields_pure _)))

theorem takes_buffered_number (hn : n < UInt64.size) :
    Takes 0 (buffered (k + 1)) (.number n) (.number (.natural n)) := by
  intro before text rest room hb htext hrest _
  obtain rfl : text = writeNumber n := htext
  have hnumber : Yields number room (writeNumber n ++ rest) (.natural n) rest :=
    yields_number hn hrest
  obtain ⟨c, ds, hw, hc, -⟩ := writeNumber_eq_cons n
  rw [hw] at hnumber ⊢
  rw [List.append_assoc]
  refine Yields.placed (.pastBlank hb (isJsonBlank_of_isDigit hc) ?_)
  split
  case h_8 hd =>
    obtain rfl := Option.some.inj hd
    rw [if_pos (.inr hc)]
    exact hnumber.bind (yields_pure _)
  -- no other sign is a digit
  all_goals next hd => cases hd <;> cases hc

theorem takes_buffered_list {write : ι → Value} {read : ι → Buffered}
    (h : ∀ x, Takes depth (buffered k) (write x) (read x)) (xs : List ι) :
    Takes (depth + 1) (buffered (k + 1)) (.list (xs.map write)) (.list (xs.map read)) := by
  intro before text rest room hb htext _ hroom
  have hlist := yields_list h xs htext rest hroom
  obtain ⟨inner, -, rfl⟩ := htext
  rw [List.append_assoc]
  exact Yields.placed (.pastBlank hb rfl (hlist.bind (yields_pure _)))

variable {ms : List (String × Value)} {bs : List (String × Buffered)}

/-- The members with their values buffered. -/
inductive Buffers (depth k : Nat) : List (String × Value) → List (String × Buffered) → Prop
  | nil : Buffers depth k [] []
  | cons {v : Value} {b : Buffered} {ms : List (String × Value)} {bs : List (String × Buffered)}
      (key : String) (hv : Takes depth (buffered k) v b) (h : Buffers depth k ms bs) :
      Buffers depth k ((key, v) :: ms) ((key, b) :: bs)

/-- Reads a member of an object that is held. -/
def bufferMember (k : Nat) (bs : List (String × Buffered)) (key : String) :
    Decoder (List (String × Buffered)) := do
  colon
  let v ← buffered k
  return (key, v) :: bs

theorem Buffers.fills (h : Buffers depth k ms bs) (before : List (String × Buffered)) :
    Fills depth (bufferMember k) before ms (bs.reverse ++ before) := by
  induction h generalizing before with
  | nil => exact .nil before
  | cons key hv _ ih =>
    rw [List.reverse_cons, List.append_assoc]
    exact .cons (hv.under fun v => (key, v) :: before) (ih _)

theorem Buffers.takes (h : Buffers depth k ms bs) :
    Takes (depth + 1) (buffered (k + 1)) (.object ms) (.map bs) := by
  intro before text rest room hb htext _ hroom
  have hobject := (h.fills []).object (fun _ _ => yields_pure _) htext rest hroom
  rw [bind_pure] at hobject
  obtain ⟨inner, -, rfl⟩ := htext
  rw [List.append_assoc]
  refine Yields.placed (.pastBlank hb rfl (hobject.bind ?_))
  rw [List.append_nil, List.reverse_reverse]
  exact yields_pure _

/-! ## Tags -/

/-- What is done about a member of a record of one of several kinds. -/
def tagMember (tag : String) (known : List (String × Buffered.Reader α))
    (s : Option (Buffered.Reader α) × List (String × Buffered)) (key : String) :
    Decoder (Option (Buffered.Reader α) × List (String × Buffered)) :=
  match s with
  | (kind, bs) =>
    if key = tag then do
      if kind.isSome then failUnplaced (.duplicateField tag)
      colon
      return (some (← variantName known), bs)
    else do
      colon
      let v ← buffered bufferDepth
      return (kind, (key, v) :: bs)

/-- The reader that the tag asks for, with what it is to read. -/
def tagContent (tag : String) (s : Option (Buffered.Reader α) × List (String × Buffered)) :
    Decoder (Buffered.Reader α × Buffered) :=
  match s with
  | (kind, bs) =>
    match kind with
    | none => failUnplaced (.missingField tag)
    | some read => return (read, .map bs.reverse)

/-- Reads a value that is held already. -/
def readContent (c : Buffered.Reader α × Buffered) : Decoder α := lift (c.1 c.2)

variable {tag name : String} {known : List (String × Buffered.Reader α)} {read : Buffered.Reader α}
  {a : α}

theorem Buffers.fills_tagged (h : Buffers depth bufferDepth ms bs) (htag : ∀ m ∈ ms, m.1 ≠ tag)
    (before : List (String × Buffered)) :
    Fills depth (tagMember tag known) (some read, before) ms (some read, bs.reverse ++ before) := by
  induction h generalizing before with
  | nil => exact .nil _
  | cons key hv _ ih =>
    obtain ⟨hkey, hkeys⟩ := List.forall_mem_cons.1 htag
    rw [List.reverse_cons, List.append_assoc]
    refine .cons ?_ (ih hkeys _)
    rw [tagMember, if_neg hkey]
    exact hv.under fun v => (some read, (key, v) :: before)

/-- A record whose tag comes first is read as the tag says. -/
theorem Buffers.takes_tagged (h : Buffers depth bufferDepth ms bs) (htag : ∀ m ∈ ms, m.1 ≠ tag)
    (hknown : known.find? (·.1 = name) = some (name, read)) (hread : read (.map bs) = .ok a)
    (title : String) :
    Takes (depth + 1) (tagged title tag known) (.object ((tag, .string name) :: ms)) a := by
  intro before text rest room hb htext _ hroom
  have hkind : TakesUnder depth (tagMember tag known (none, []) tag) (.string name)
      (some read, []) := by
    rw [tagMember, if_pos rfl]
    exact ((takes_variantName hknown).mono (Nat.zero_le depth)).under fun read => (some read, [])
  have hfills := Fills.cons hkind (h.fills_tagged htag [])
  have hcontent (room : Nat) (cs : List Char) :
      Yields (tagContent tag (some read, bs.reverse ++ [])) room cs (read, .map bs) cs := by
    rw [tagContent, List.append_nil, List.reverse_reverse]
    exact yields_pure _
  have hread' : Yields (readContent (read, .map bs)) room rest a rest := by
    simp only [readContent, hread]
    exact yields_pure a
  have hobject := (hfills.object hcontent htext rest hroom).bind hread'
  obtain ⟨inner, -, rfl⟩ := htext
  rw [List.append_assoc]
  exact .pastBlank hb rfl hobject

end Decoder

end IngressRouting.Json
