/-
Strings and numbers are read as they were written: a string whatever its characters
(`takeString_flatMap_writeChar`), a number up to the width of its type (`fitDigits_writeNumber`).
A number ends where no digit, point or exponent follows, which is where any value may end.
-/
import IngressRouting.Json.Record
import IngressRouting.Proofs.Digits
import IngressRouting.Proofs.Json.Reading

namespace IngressRouting.Json

open Value

/-! ## Strings -/

section Strings

variable {c x : Char} {cs mid rest s : List Char} {p p' : Position}

theorem takeString_escape {t : Taken cs} (h : takeEscape cs (p.after '\\') = .ok t) (hc : t.char = c)
    (hmid : t.rest = mid) (h' : takeString mid t.place = .ok (s, rest, p')) :
    takeString ('\\' :: cs) p = .ok (c :: s, rest, p') := by
  subst hc hmid
  rw [takeString, h]
  change (takeString t.rest t.place >>= _) = _
  rw [h']
  rfl

theorem takeString_plain (hquote : c ≠ '"') (hback : c ≠ '\\') (hc : ¬ c.toNat < 0x20)
    (h : takeString cs (p.after c) = .ok (s, rest, p')) :
    takeString (c :: cs) p = .ok (c :: s, rest, p') := by
  rw [takeString]
  · rw [if_neg hc, h]
    rfl
  · simpa using hquote
  · simpa using hback

theorem takeEscape_short (h : shortEscape? x = some c) (hx : x ≠ 'u') :
    takeEscape (x :: cs) p = .ok ⟨c, cs, p.after x, Nat.lt_succ_self _⟩ := by
  rw [takeEscape]
  · rw [h]
  · simpa using hx

theorem takeEscape_hex {n : Nat} (h : hexFour? cs = some (n, mid)) (hn : n < 0xD800) :
    ∃ t, takeEscape ('u' :: cs) p = .ok t ∧ t.char = Char.ofNat n ∧ t.rest = mid := by
  rw [takeEscape]
  split
  · next hnone =>
    rw [hnone] at h
    cases h
  · next m r hsome =>
    obtain ⟨rfl, rfl⟩ := Prod.mk.inj (Option.some.inj (hsome.symm.trans h))
    rw [if_neg (by omega), if_neg (by omega)]
    exact ⟨_, rfl, rfl, rfl⟩

theorem hexDigit?_hexDigit : ∀ n < 16, Unicode.hexDigit? (hexDigit n) = some n := by decide

theorem hexFour?_control {n : Nat} (h : n < 0x20) (cs : List Char) :
    hexFour? ('0' :: '0' :: hexDigit (n / 16) :: hexDigit (n % 16) :: cs) = some (n, cs) := by
  have hzero : Unicode.hexDigit? '0' = some 0 := by decide
  have hhigh := hexDigit?_hexDigit (n / 16) (by omega)
  have hlow := hexDigit?_hexDigit (n % 16) (by omega)
  simp only [hexFour?, hzero, hhigh, hlow, Option.bind_eq_bind, Option.bind_some, Option.pure_def,
    Option.some.injEq, Prod.mk.injEq, and_true]
  omega

theorem takeString_writeChar (c : Char) (h : ∀ p, ∃ p', takeString cs p = .ok (s, rest, p'))
    (p : Position) : ∃ p', takeString (writeChar c ++ cs) p = .ok (c :: s, rest, p') := by
  have hshort {x : Char} (hx : x ≠ 'u') (hs : shortEscape? x = some c) :
      ∃ p', takeString ('\\' :: x :: cs) p = .ok (c :: s, rest, p') := by
    obtain ⟨p', hp⟩ := h ((p.after '\\').after x)
    exact ⟨p', takeString_escape (takeEscape_short hs hx) rfl rfl hp⟩
  unfold writeChar
  split
  case h_8 hquote hback _ _ _ _ _ =>
    split
    · next hc =>
      obtain ⟨t, ht, hchar, hmid⟩ :=
        takeEscape_hex (p := p.after '\\') (hexFour?_control hc cs) (by omega)
      obtain ⟨p', hp⟩ := h t.place
      exact ⟨p', takeString_escape ht (hchar.trans (Char.ofNat_toNat c)) hmid hp⟩
    · next hc =>
      obtain ⟨p', hp⟩ := h (p.after c)
      exact ⟨p', takeString_plain hquote hback hc hp⟩
  all_goals exact hshort (by decide) rfl

/-- **Every string is read back**, whatever its characters. -/
theorem takeString_flatMap_writeChar (s rest : List Char) (p : Position) :
    ∃ p', takeString (s.flatMap writeChar ++ '"' :: rest) p = .ok (s, rest, p') := by
  induction s generalizing p with
  | nil => exact ⟨_, by rw [List.flatMap_nil, List.nil_append, takeString]⟩
  | cons c s ih =>
    rw [List.flatMap_cons, List.append_assoc]
    exact takeString_writeChar c ih p

end Strings

/-! ## Numbers -/

section Numbers

variable {n : Nat} {c : Char} {ds rest : List Char}

theorem isDigit_of_mem_writeNumber (h : c ∈ writeNumber n) : isDigit c = true :=
  Nat.isDigit_of_mem_toDigits (by decide) (by decide) h

theorem fitDigits_eq {limit : Nat} (h : Nat.ofDigitChars 10 ds n < limit) :
    fitDigits limit n ds = (Nat.ofDigitChars 10 ds n, []) := by
  induction ds generalizing n with
  | nil => rfl
  | cons d ds ih =>
    rw [Nat.ofDigitChars_cons] at h ⊢
    rw [fitDigits, if_pos]
    · exact ih h
    · exact Nat.lt_of_le_of_lt (le_ofDigitChars ds _) h

theorem fitDigits_writeNumber {limit : Nat} (h : n < limit) :
    fitDigits limit 0 (writeNumber n) = (n, []) := by
  have hvalue : Nat.ofDigitChars 10 (writeNumber n) 0 = n :=
    Nat.ofDigitChars_toDigits (by decide) (by decide)
  rw [fitDigits_eq (hvalue.symm ▸ h), hvalue]

/-- Only zero is written with a zero in front. -/
theorem writeNumber_zero (h : writeNumber n = '0' :: ds) : n = 0 ∧ ds = [] := by
  induction n using Nat.strongRecOn generalizing ds with
  | ind n ih =>
    rw [writeNumber] at h
    by_cases hn : n < 10
    · rw [Nat.toDigits_of_lt_base hn] at h
      obtain ⟨hd, rfl⟩ := List.cons.inj h
      have hzero : ∀ n < 10, n.digitChar = '0' → n = 0 := by decide
      exact ⟨hzero n hn hd, rfl⟩
    · rw [Nat.toDigits_of_base_le (by decide) (by omega)] at h
      cases hfront : Nat.toDigits 10 (n / 10) with
      | nil => exact absurd hfront Nat.toDigits_ne_nil
      | cons d front =>
        rw [hfront] at h
        obtain ⟨rfl, -⟩ := List.cons.inj h
        have := (ih (n / 10) (by omega) hfront).1
        omega

theorem writeNumber_eq_cons (n : Nat) :
    ∃ c ds, writeNumber n = c :: ds ∧ isDigit c = true ∧ (c = '0' → n = 0 ∧ ds = []) := by
  cases hw : writeNumber n with
  | nil => exact absurd hw Nat.toDigits_ne_nil
  | cons c ds =>
    refine ⟨c, ds, rfl, isDigit_of_mem_writeNumber (hw ▸ List.mem_cons_self), ?_⟩
    rintro rfl
    exact writeNumber_zero hw

theorem isDigit_blank (h : isJsonBlank c = true) :
    isDigit c = false ∧ c ≠ '.' ∧ c ≠ 'e' ∧ c ≠ 'E' := by
  simp only [isJsonBlank, Bool.or_eq_true, beq_iff_eq] at h
  rcases h with ((rfl | rfl) | rfl) | rfl <;> decide

theorem isJsonBlank_of_isDigit (h : isDigit c = true) : isJsonBlank c = false := by
  cases hc : isJsonBlank c with
  | false => rfl
  | true =>
    rw [(isDigit_blank hc).1] at h
    cases h

/-- No number goes on where a value may end. -/
theorem Ends.no_number (h : Ends rest) {c : Char} (hc : rest.head? = some c) :
    isDigit c = false ∧ c ≠ '.' ∧ c ≠ 'e' ∧ c ≠ 'E' := by
  rcases h c hc with hblank | rfl | rfl | rfl
  · exact isDigit_blank hblank
  all_goals decide

end Numbers

/-- No text of a value begins with a blank or a closing bracket, and only that of null with its
letter. -/
theorem Value.Spells.eq_cons {v : Value} {text : List Char} (h : v.Spells text) :
    ∃ c cs, text = c :: cs ∧ isJsonBlank c = false ∧ c ≠ ']' ∧ (c = 'n' → v = .null) := by
  cases v with
  | null => exact ⟨_, _, h, rfl, by decide, fun _ => rfl⟩
  | bool b =>
    obtain rfl : text = writeBool b := h
    cases b
    · exact ⟨_, _, rfl, rfl, by decide, fun hn => absurd hn (by decide)⟩
    · exact ⟨_, _, rfl, rfl, by decide, fun hn => absurd hn (by decide)⟩
  | number n =>
    obtain rfl : text = writeNumber n := h
    obtain ⟨c, ds, hw, hc, -⟩ := writeNumber_eq_cons n
    refine ⟨c, ds, hw, isJsonBlank_of_isDigit hc, ?_, ?_⟩
    · rintro rfl
      cases hc
    · rintro rfl
      cases hc
  | string s => exact ⟨_, _, h, rfl, by decide, fun hn => absurd hn (by decide)⟩
  | list vs =>
    obtain ⟨inner, -, rfl⟩ := h
    exact ⟨_, _, rfl, rfl, by decide, fun hn => absurd hn (by decide)⟩
  | object ms =>
    obtain ⟨inner, -, rfl⟩ := h
    exact ⟨_, _, rfl, rfl, by decide, fun hn => absurd hn (by decide)⟩

namespace Decoder

variable {α : Type} {room n : Nat} {ds rest : List Char}

theorem yields_quoted (s : String) : Yields quoted room (writeString s ++ rest) s rest := by
  intro place
  obtain ⟨place', h⟩ := takeString_flatMap_writeChar s.toList rest (place.after '"')
  refine ⟨place', ?_⟩
  have hrest : (writeString s ++ rest).drop 1 = s.toList.flatMap writeChar ++ '"' :: rest := by
    simp [writeString]
  simp only [quoted, hrest, h, String.ofList_toList]

theorem yields_digits (hds : ∀ c ∈ ds, isDigit c = true) (hrest : Ends rest) :
    Yields digits room (ds ++ rest) ds rest := by
  intro place
  have htake : (ds ++ rest).takeWhile isDigit = ds := by
    rw [List.takeWhile_append_of_pos hds]
    cases rest with
    | nil => simp
    | cons c rest => simp [(hrest.no_number rfl).1]
  simp only [digits, htake, Cursor.skip, List.drop_left]
  exact ⟨_, rfl⟩

/-- Where a value may end, no sign of a number is seen. -/
theorem Yields.atEnd {f : Option Char → Decoder α} {a : α} (hrest : Ends rest)
    (h : ∀ x, x ≠ some '.' → x ≠ some 'e' → x ≠ some 'E' → Yields (f x) room rest a rest) :
    Yields (peek >>= f) room rest a rest := by
  refine yields_peek.bind (h _ ?_ ?_ ?_)
  · exact fun hc => (hrest.no_number hc).2.1 rfl
  · exact fun hc => (hrest.no_number hc).2.2.1 rfl
  · exact fun hc => (hrest.no_number hc).2.2.2 rfl

theorem yields_afterInteger (n : Nat) (hrest : Ends rest) :
    Yields (afterInteger true n 0) room rest (.natural n) rest := by
  refine .atEnd hrest fun x hpoint he hE => ?_
  split
  · contradiction
  · contradiction
  · contradiction
  · exact yields_pure _

theorem yields_unsigned (hn : n < UInt64.size) (hrest : Ends rest) :
    Yields (unsigned true) room (writeNumber n ++ rest) (.natural n) rest := by
  obtain ⟨c, ds, hw, hc, hzero⟩ := writeNumber_eq_cons n
  have hfit := fitDigits_writeNumber hn
  have hdigits : Yields digits room (writeNumber n ++ rest) (writeNumber n) rest :=
    yields_digits (fun _ => isDigit_of_mem_writeNumber) hrest
  rw [hw] at hfit hdigits ⊢
  refine yields_peek.bind ?_
  simp only [List.cons_append, List.head?_cons, hc, Bool.not_true, Bool.false_eq_true, if_false]
  split
  · next hc0 =>
    obtain ⟨rfl, rfl⟩ := hzero hc0
    refine yields_skip.bind (yields_peek.bind ?_)
    split
    · next d hd =>
      simp only [(hrest.no_number hd).1, Bool.false_eq_true, if_false]
      exact yields_afterInteger 0 hrest
    · exact yields_afterInteger 0 hrest
  · refine hdigits.bind ?_
    simp only [hfit]
    exact yields_afterInteger n hrest

theorem yields_number (hn : n < UInt64.size) (hrest : Ends rest) :
    Yields number room (writeNumber n ++ rest) (.natural n) rest := by
  have hunsigned : Yields (unsigned true) room (writeNumber n ++ rest) (.natural n) rest :=
    yields_unsigned hn hrest
  obtain ⟨c, ds, hw, hc, -⟩ := writeNumber_eq_cons n
  rw [hw] at hunsigned ⊢
  refine yields_peek.bind ?_
  split
  · next hminus =>
    obtain rfl := Option.some.inj hminus
    cases hc
  · exact hunsigned

/-- Numbers of any size are passed over. -/
theorem yields_passUnsigned (n : Nat) (hrest : Ends rest) :
    Yields passUnsigned room (writeNumber n ++ rest) () rest := by
  obtain ⟨c, ds, hw, hc, hzero⟩ := writeNumber_eq_cons n
  have hdigits : Yields digits room (writeNumber n ++ rest) (writeNumber n) rest :=
    yields_digits (fun _ => isDigit_of_mem_writeNumber) hrest
  rw [hw] at hdigits ⊢
  refine yields_peek.bind ?_
  simp only [List.cons_append, List.head?_cons, hc, Bool.not_true, Bool.false_eq_true, if_false]
  split
  · next hc0 =>
    obtain ⟨rfl, rfl⟩ := hzero hc0
    have hnone : ¬(rest.head?.map isDigit).getD false = true := by
      cases hhead : rest.head? with
      | none => exact Bool.false_ne_true
      | some d => simp [(hrest.no_number hhead).1]
    refine yields_skip.bind (yields_peek.bind ?_)
    rw [List.nil_append, if_neg hnone]
    refine .atEnd hrest fun x hpoint he hE => ?_
    split
    · contradiction
    · contradiction
    · contradiction
    · exact yields_pure ()
  · refine (hdigits.map fun _ => ()).bind (.atEnd hrest fun x hpoint he hE => ?_)
    split
    · contradiction
    · contradiction
    · contradiction
    · exact yields_pure ()

/-! ## Values without parts -/

theorem takes_text (s : String) : Takes 0 text (.string s) s := by
  intro before text rest room hb htext _ _
  obtain rfl : text = writeString s := htext
  rw [List.append_assoc]
  exact .pastBlank hb rfl (yields_quoted s)

variable {known : List (String × α)} {name : String} {a : α}

theorem takes_variantName (h : known.find? (·.1 = name) = some (name, a)) :
    Takes 0 (variantName known) (.string name) a := by
  intro before text rest room hb htext _ _
  obtain rfl : text = writeString name := htext
  rw [List.append_assoc]
  refine .pastBlank hb rfl (((yields_quoted name).bind ?_).placed)
  simp only [h]
  exact yields_pure a

theorem takes_variant (h : known.find? (·.1 = name) = some (name, a)) :
    Takes 0 (variant known) (.string name) a := by
  intro before text rest room hb htext hrest hroom
  have hname := takes_variantName h blank_nil htext hrest hroom
  obtain rfl : text = writeString name := htext
  rw [List.append_assoc]
  exact .pastBlank hb rfl hname

theorem takes_naturalBelow {limit : Nat} (hn : n < limit) (hlimit : limit ≤ UInt64.size)
    (expected : String) : Takes 0 (naturalBelow limit expected) (.number n) n := by
  intro before text rest room hb htext hrest _
  obtain rfl : text = writeNumber n := htext
  have hnumber : Yields number room (writeNumber n ++ rest) (.natural n) rest :=
    yields_number (Nat.lt_of_lt_of_le hn hlimit) hrest
  obtain ⟨c, ds, hw, hc, -⟩ := writeNumber_eq_cons n
  rw [hw] at hnumber ⊢
  rw [List.append_assoc]
  refine .pastBlank hb (isJsonBlank_of_isDigit hc) ?_
  simp only [hc, or_true, if_true]
  refine (hnumber.bind ?_).placed
  simp only [hn, if_true]
  exact yields_pure n

theorem takes_uint64 (n : UInt64) : Takes 0 uint64 (.number n.toNat) n := by
  have h := (takes_naturalBelow n.toNat_lt (Nat.le_refl _) "u64").map UInt64.ofNat
  rwa [UInt64.ofNat_toNat] at h

theorem takes_uint32 (n : UInt32) : Takes 0 uint32 (.number n.toNat) n := by
  have h := (takes_naturalBelow n.toNat_lt (by decide) "u32").map UInt32.ofNat
  rwa [UInt32.ofNat_toNat] at h

theorem takes_uint16 (n : UInt16) : Takes 0 uint16 (.number n.toNat) n := by
  have h := (takes_naturalBelow n.toNat_lt (by decide) "u16").map UInt16.ofNat
  rwa [UInt16.ofNat_toNat] at h

theorem takes_optional_none (d : Decoder α) : Takes 0 (optional d) .null none := by
  intro before text rest room hb htext _ _
  obtain rfl : text = ['n', 'u', 'l', 'l'] := htext
  rw [List.append_assoc]
  refine .pastBlank hb rfl (yields_skip.bind ?_)
  exact (yields_restOfWord ['u', 'l', 'l']).bind (yields_pure none)

theorem takes_optional_some {depth : Nat} {d : Decoder α} {v : Value} (h : Takes depth d v a)
    (hv : v ≠ .null) : Takes depth (optional d) v (some a) := by
  intro before text rest room hb htext hrest hroom
  have hread := (h blank_nil htext hrest hroom).map some
  obtain ⟨c, cs, rfl, hc, -, hnull⟩ := htext.eq_cons
  rw [List.append_assoc]
  refine .pastBlank hb hc ?_
  split
  · next hn => exact absurd (hnull (Option.some.inj hn)) hv
  · exact hread

theorem takes_passValue (n : Nat) : Takes 0 passValue (.number n) () := by
  intro before text rest room hb htext hrest _
  obtain rfl : text = writeNumber n := htext
  have hpass : Yields passUnsigned room (writeNumber n ++ rest) () rest :=
    yields_passUnsigned n hrest
  obtain ⟨c, ds, hw, hc, -⟩ := writeNumber_eq_cons n
  rw [hw] at hpass ⊢
  rw [List.append_assoc]
  refine .ofGet fun _ => ?_
  rw [passDue]
  refine .pastBlank hb (isJsonBlank_of_isDigit hc) ?_
  split
  case h_9 hd =>
    obtain rfl := Option.some.inj hd
    rw [if_pos hc]
    refine hpass.bind ?_
    rw [passDue]
    exact yields_pure ()
  -- no other sign is a digit
  all_goals next hd => cases hd <;> cases hc

end Decoder

end IngressRouting.Json
