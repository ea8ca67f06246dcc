/-
Lists and objects are read item by item, by induction on the items: a decoder that takes each
item takes the list, and one that takes each member, from what the members before it have come
to (`Fills`), takes the object. Records and dictionaries are objects.
-/
import IngressRouting.Proofs.Json.Scalars
import IngressRouting.Wire.Binding

namespace IngressRouting.Json

open Value

theorem Value.SpellsItems.ends {vs : List Value} {cs rest : List Char} (h : SpellsItems false vs cs)
    (hrest : Ends rest) : Ends (cs ++ rest) := by
  cases vs with
  | nil => exact Blank.ends h hrest
  | cons v vs =>
    obtain ⟨lead, text, tail, hlead, -, -, rfl⟩ := h
    cases hlead with
    | sign c hb hb' =>
      simp only [List.append_assoc, List.cons_append]
      exact hb.ends (ends_cons _ (by decide))

theorem Value.SpellsMembers.ends {ms : List (String × Value)} {cs rest : List Char}
    (h : SpellsMembers false ms cs) (hrest : Ends rest) : Ends (cs ++ rest) := by
  cases ms with
  | nil => exact Blank.ends h hrest
  | cons m ms =>
    obtain ⟨lead, gap, text, tail, hlead, -, -, -, rfl⟩ := h
    cases hlead with
    | sign c hb hb' =>
      simp only [List.append_assoc, List.cons_append]
      exact hb.ends (ends_cons _ (by decide))

/-! The texts are long enough to bound the number of items. -/

theorem Value.SpellsItems.length_le {first : Bool} {vs : List Value} {cs : List Char}
    (h : SpellsItems first vs cs) : vs.length ≤ cs.length := by
  induction vs generalizing first cs with
  | nil => exact Nat.zero_le _
  | cons v vs ih =>
    obtain ⟨lead, text, tail, hlead, hv, hvs, rfl⟩ := h
    obtain ⟨c, cs, rfl, -⟩ := hv.eq_cons
    have := ih hvs
    simp only [List.length_cons, List.length_append]
    omega

theorem Value.SpellsMembers.length_le {first : Bool} {ms : List (String × Value)} {cs : List Char}
    (h : SpellsMembers first ms cs) : ms.length ≤ cs.length := by
  induction ms generalizing first cs with
  | nil => exact Nat.zero_le _
  | cons m ms ih =>
    obtain ⟨lead, gap, text, tail, hlead, hgap, hv, hms, rfl⟩ := h
    obtain ⟨c, cs, rfl, -⟩ := hv.eq_cons
    have := ih hms
    simp only [List.length_cons, List.length_append]
    omega

namespace Decoder

variable {ι α σ : Type} {depth room : Nat} {a : α} {b cs lead gap inner rest : List Char}
  {first : Bool}

/-! ## Lists -/

theorem yields_hasItem_end (hb : Blank b) :
    Yields (hasItem first) room (b ++ ']' :: rest) false (']' :: rest) :=
  .pastBlank hb rfl (yields_pure false)

theorem yields_hasItem {c : Char} (hlead : Gap (comma? first) lead) (hc : isJsonBlank c = false)
    (hne : c ≠ ']') : Yields (hasItem first) room (lead ++ c :: cs) true (c :: cs) := by
  cases first with
  | true =>
    cases hlead with
    | blank hb =>
      refine .pastBlank hb hc ?_
      split
      · contradiction
      · next hd => exact absurd (Option.some.inj hd) hne
      · exact yields_pure true
  | false =>
    cases hlead with
    | sign _ hb hb' =>
      rw [List.append_assoc]
      refine .pastBlank hb rfl (yields_skip.bind (.pastBlank hb' hc ?_))
      split
      · contradiction
      · next hd => exact absurd (Option.some.inj hd) hne
      · exact yields_pure true

theorem yields_items {item : Decoder α} {write : ι → Value} {read : ι → α}
    (h : ∀ x, Takes depth item (write x) (read x)) (hroom : depth < room) (xs : List ι) {fuel : Nat}
    (hfuel : xs.length < fuel) (hxs : SpellsItems first (xs.map write) inner) :
    Yields (items item fuel first) room (inner ++ ']' :: rest) (xs.map read) (']' :: rest) := by
  induction xs generalizing first fuel inner with
  | nil =>
    obtain ⟨fuel, rfl⟩ := Nat.exists_eq_add_one_of_ne_zero (Nat.ne_zero_of_lt hfuel)
    exact (yields_hasItem_end hxs).bind (yields_pure [])
  | cons x xs ih =>
    obtain ⟨fuel, rfl⟩ := Nat.exists_eq_add_one_of_ne_zero (Nat.ne_zero_of_lt hfuel)
    obtain ⟨lead, text, tail, hlead, hx, htail, rfl⟩ := hxs
    have hitem := h x blank_nil hx (htail.ends (ends_bracket rest)) hroom
    have hitems := ih (Nat.lt_of_succ_lt_succ hfuel) htail
    obtain ⟨c, cs, rfl, hc, hne, -⟩ := hx.eq_cons
    simp only [List.append_assoc]
    refine (yields_hasItem hlead hc hne).bind ?_
    exact hitem.bind (hitems.bind (yields_pure _))

theorem yields_endList : Yields endList room (']' :: rest) () rest :=
  .pastBlank blank_nil rfl yields_skip

theorem yields_list {item : Decoder α} {write : ι → Value} {read : ι → α}
    (h : ∀ x, Takes depth item (write x) (read x)) (xs : List ι) {text : List Char}
    (htext : (Value.list (xs.map write)).Spells text) (rest : List Char) (hroom : depth + 1 < room) :
    Yields (list (allItems item)) room (text ++ rest) (xs.map read) rest := by
  obtain ⟨inner, hinner, rfl⟩ := htext
  obtain ⟨room, rfl⟩ : ∃ k, room = k + 2 := ⟨room - 2, by omega⟩
  have hbody : Yields (allItems item) (room + 1) (inner ++ ']' :: rest) (xs.map read)
      (']' :: rest) := by
    refine .ofGet fun _ => yields_items h (by omega) xs ?_ hinner
    have hlength := hinner.length_le
    simp only [List.length_append, List.length_cons, List.length_map] at hlength ⊢
    omega
  simp only [List.append_assoc, List.cons_append]
  exact (hbody.inside.closedBy yields_endList).placed

theorem takes_listOf {item : Decoder α} {write : α → Value} (h : ∀ x, Takes depth item (write x) x)
    (xs : List α) : Takes (depth + 1) (listOf item) (.list (xs.map write)) xs := by
  intro before text rest room hb htext _ hroom
  have hlist : Yields (list (allItems item)) room (text ++ rest) (xs.map id) rest :=
    yields_list h xs htext rest hroom
  rw [List.map_id] at hlist
  obtain ⟨inner, -, rfl⟩ := htext
  rw [List.append_assoc]
  exact .pastBlank hb rfl hlist

/-! ## Objects -/

/-- The value of a member, read with the colon before it. -/
def TakesUnder (depth : Nat) (d : Decoder σ) (v : Value) (s : σ) : Prop :=
  ∀ ⦃gap text rest : List Char⦄ ⦃room : Nat⦄, Gap (some ':') gap → v.Spells text → Ends rest →
    depth < room → Yields d room (gap ++ text ++ rest) s rest

theorem Takes.under {d : Decoder α} {v : Value} (h : Takes depth d v a) (g : α → σ) :
    TakesUnder depth (do colon; let x ← d; return g x) v (g a) := by
  intro gap text rest room hgap hv hrest hroom
  cases hgap with
  | @sign b b' _ hb hb' =>
    have hcolon : Yields colon room (b ++ ':' :: (b' ++ text ++ rest)) () (b' ++ text ++ rest) :=
      .pastBlank hb rfl yields_skip
    simp only [List.append_assoc, List.cons_append] at hcolon ⊢
    refine hcolon.bind (.bind ?_ (yields_pure (g a)))
    exact List.append_assoc b' text rest ▸ h hb' hv hrest hroom

/-- Members in turn lead from one state to the next, each read by `member` from behind its key. -/
inductive Fills (depth : Nat) (member : σ → String → Decoder σ) :
    σ → List (String × Value) → σ → Prop
  | nil (s : σ) : Fills depth member s [] s
  | cons {s s' s'' : σ} {k : String} {v : Value} {ms : List (String × Value)}
      (h : TakesUnder depth (member s k) v s') (h' : Fills depth member s' ms s'') :
      Fills depth member s ((k, v) :: ms) s''

theorem yields_hasKey_end (hb : Blank b) :
    Yields (hasKey first) room (b ++ '}' :: rest) false ('}' :: rest) :=
  .pastBlank hb rfl (yields_pure false)

theorem yields_hasKey (hlead : Gap (comma? first) lead) :
    Yields (hasKey first) room (lead ++ '"' :: cs) true ('"' :: cs) := by
  cases first with
  | true =>
    cases hlead with
    | blank hb => exact .pastBlank hb rfl (yields_pure true)
  | false =>
    cases hlead with
    | sign _ hb hb' =>
      rw [List.append_assoc]
      exact .pastBlank hb rfl (yields_skip.bind (.pastBlank hb' rfl (yields_pure true)))

theorem Fills.yields {member : σ → String → Decoder σ} {s s' : σ} {ms : List (String × Value)}
    (h : Fills depth member s ms s') (hroom : depth < room) {fuel : Nat} (hfuel : ms.length < fuel)
    (hms : SpellsMembers first ms inner) :
    Yields (members member fuel first s) room (inner ++ '}' :: rest) s' ('}' :: rest) := by
  induction h generalizing first fuel inner with
  | nil s =>
    obtain ⟨fuel, rfl⟩ := Nat.exists_eq_add_one_of_ne_zero (Nat.ne_zero_of_lt hfuel)
    exact (yields_hasKey_end hms).bind (yields_pure s)
  | @cons s s' s'' k v ms hv _ ih =>
    obtain ⟨fuel, rfl⟩ := Nat.exists_eq_add_one_of_ne_zero (Nat.ne_zero_of_lt hfuel)
    obtain ⟨lead, gap, text, tail, hlead, hgap, htext, htail, rfl⟩ := hms
    have hmember := hv hgap htext (htail.ends (ends_brace rest)) hroom
    have hmembers := ih (Nat.lt_of_succ_lt_succ hfuel) htail
    simp only [List.append_assoc] at hmember ⊢
    refine (yields_hasKey hlead).bind ?_
    exact (yields_quoted k).bind (hmember.bind hmembers)

theorem yields_endObject : Yields endObject room ('}' :: rest) () rest :=
  .pastBlank blank_nil rfl yields_skip

/-- An object, once its members lead somewhere and something is made of that. -/
theorem Fills.object {member : σ → String → Decoder σ} {s s' : σ} {ms : List (String × Value)}
    (h : Fills depth member s ms s') {f : σ → Decoder α} (hf : ∀ room cs, Yields (f s') room cs a cs)
    {text : List Char} (htext : (Value.object ms).Spells text) (rest : List Char)
    (hroom : depth + 1 < room) :
    Yields (object (allMembers member s >>= f)) room (text ++ rest) a rest := by
  obtain ⟨inner, hinner, rfl⟩ := htext
  obtain ⟨room, rfl⟩ : ∃ k, room = k + 2 := ⟨room - 2, by omega⟩
  have hbody : Yields (allMembers member s) (room + 1) (inner ++ '}' :: rest) s' ('}' :: rest) := by
    refine .ofGet fun _ => h.yields (by omega) ?_ hinner
    have hlength := hinner.length_le
    simp only [List.length_append, List.length_cons]
    omega
  simp only [List.append_assoc, List.cons_append]
  exact ((hbody.bind (hf _ _)).inside.closedBy yields_endObject).placed

/-! ## Records -/

/-- What is done about a member of a record. -/
def recordMember (r : Record Decoder σ α) (s : σ) (key : String) : Decoder σ :=
  match r.field? key with
  | none => do
    colon
    passValue
    return s
  | some f =>
    if f.filled s then failUnplaced (.duplicateField key)
    else do
      colon
      let fill ← f.read
      return fill s

variable {r : Record Decoder σ α} {s s' : σ} {k : String} {v : Value} {ms : List (String × Value)}

theorem Fills.field {name : String} {get : σ → Option ι} {set : ι → σ → σ} {d : Decoder ι} {x : ι}
    (hf : r.field? k = some (.ofDecoder name get set d)) (hs : (get s).isSome = false)
    (hv : Takes depth d v x) (h : Fills depth (recordMember r) (set x s) ms s') :
    Fills depth (recordMember r) s ((k, v) :: ms) s' := by
  refine .cons ?_ h
  simp only [recordMember, hf, Field.ofDecoder, hs, Bool.false_eq_true, if_false]
  exact (hv.map set).under fun fill => fill s

/-- A member that is no field is passed over. -/
theorem Fills.stranger (hf : r.field? k = none) (hv : Takes depth passValue v ())
    (h : Fills depth (recordMember r) s ms s') : Fills depth (recordMember r) s ((k, v) :: ms) s' := by
  refine .cons ?_ h
  simp only [recordMember, hf]
  exact hv.under fun _ => s

theorem Fills.record (h : Fills depth (recordMember r) r.blank ms s) (hr : r.build s = .ok a) :
    Takes (depth + 1) (record r) (.object ms) a := by
  intro before text rest room hb htext _ hroom
  have hobject := h.object (f := fun s => lift (r.finish s)) (a := a) (fun _ _ => by
    rw [Record.finish, hr]
    exact yields_pure a) htext rest hroom
  obtain ⟨inner, -, rfl⟩ := htext
  rw [List.append_assoc]
  exact .pastBlank hb rfl hobject

/-! ## Dictionaries -/

/-- Reads a member of a dictionary. -/
def dictMember (value : Decoder α) (d : Dict α) (key : String) : Decoder (Dict α) := do
  colon
  return d.insert key (← value)

theorem insert_greatest {k : String} {es : List (String × α)} (h : ∀ e ∈ es, e.1 < k) (x : α) :
    Entries.insert k x es = es ++ [(k, x)] := by
  induction es with
  | nil => rfl
  | cons e es ih =>
    obtain ⟨he, hes⟩ := List.forall_mem_cons.1 h
    rw [Entries.insert, if_neg (String.lt_asymm he), if_neg (String.ne_of_lt he).symm, ih hes]
    rfl

/-- Entries that come in the order of their keys are appended one by one. -/
theorem fills_dict {value : Decoder α} {write : α → Value} (h : ∀ x, Takes depth value (write x) x)
    (es : List (String × α)) {d d' : Dict α} (he : d'.entries = d.entries ++ es) :
    Fills depth (dictMember value) d (es.map fun (k, x) => (k, write x)) d' := by
  induction es generalizing d with
  | nil =>
    obtain rfl : d' = d := Dict.ext (by simpa using he)
    exact .nil d'
  | cons e es ih =>
    obtain ⟨k, x⟩ := e
    have hbefore : ∀ e ∈ d.entries, e.1 < k := by
      have hasc := d'.ascending
      rw [he] at hasc
      exact fun e hm => (List.pairwise_append.1 hasc).2.2 e hm _ List.mem_cons_self
    refine .cons ((h x).under fun x => d.insert k x) (ih ?_)
    have hinsert : (d.insert k x).entries = d.entries ++ [(k, x)] := insert_greatest hbefore x
    rw [hinsert, List.append_assoc]
    exact he

theorem takes_dictOf {value : Decoder α} {write : α → Value} (h : ∀ x, Takes depth value (write x) x)
    (d : Dict α) : Takes (depth + 1) (dictOf value) (d.toJson write) d := by
  intro before text rest room hb htext _ hroom
  have hfills : Fills depth (dictMember value) ∅ (d.entries.map fun (k, x) => (k, write x)) d :=
    fills_dict h d.entries rfl
  have hobject := hfills.object (fun _ _ => yields_pure d) htext rest hroom
  rw [bind_pure] at hobject
  obtain ⟨inner, -, rfl⟩ := htext
  rw [List.append_assoc]
  exact .pastBlank hb rfl hobject

end Decoder

end IngressRouting.Json
