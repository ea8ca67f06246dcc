/-
The status of a redirect as an exact integer (`Annotations.redirectStatus_exact`): which
texts spell a number is said of the text as it stands, by what it is put together from, and
the number is not bounded.

White space is trimmed before a number is read. Neither a digit nor a plus sign is white
space, so trimming takes all that stands around a number and nothing of it
(`Redirect.spells_iff_numeral`).
-/
import IngressRouting.Proofs.Redirect.Interpretation

namespace IngressRouting

namespace Redirect

variable {raw : String} {n : Nat}

/-- The text spells the number in decimal: digits, in any number and with zeros in front or
without them, after a plus sign if there is one, and white space around it all. -/
def Spells (raw : String) (n : Nat) : Prop :=
  ∃ front sign digits back, raw.toList = front ++ ((sign ++ digits) ++ back) ∧
    (∀ c ∈ front, isBlank c = true) ∧ (∀ c ∈ back, isBlank c = true) ∧
    (sign = [] ∨ sign = ['+']) ∧ digits ≠ [] ∧ (∀ c ∈ digits, c.isDigit = true) ∧
    Nat.ofDigitChars 10 digits 0 = n

theorem isBlank_of_isDigit {c : Char} (h : c.isDigit = true) : isBlank c = false := by
  obtain ⟨hlow, hhigh⟩ := isDigit_iff.1 h
  have hlow : 0x30 ≤ c.toNat := UInt32.le_iff_toNat_le.1 hlow
  have hhigh : c.toNat ≤ 0x39 := UInt32.le_iff_toNat_le.1 hhigh
  rw [Bool.eq_false_iff]
  intro hblank
  simp only [isBlank, Bool.or_eq_true, Bool.and_eq_true, decide_eq_true_eq, beq_iff_eq] at hblank
  omega

/-- Trimming leaves a signed number whole. -/
theorem trimBlankList_signed {front sign digits back : List Char}
    (hfront : ∀ c ∈ front, isBlank c = true) (hback : ∀ c ∈ back, isBlank c = true)
    (hsign : sign = [] ∨ sign = ['+']) (hne : digits ≠ [])
    (hdigits : ∀ c ∈ digits, c.isDigit = true) :
    trimBlankList (front ++ ((sign ++ digits) ++ back)) = sign ++ digits := by
  have hsolid : ∀ c ∈ sign ++ digits, isBlank c = false := fun c hc => by
    rcases List.mem_append.1 hc with hc | hc
    · rcases hsign with rfl | rfl
      · cases hc
      · rw [List.mem_singleton.1 hc]
        rfl
    · exact isBlank_of_isDigit (hdigits c hc)
  exact trimBlankList_append hfront hback (List.append_ne_nil_of_right_ne_nil sign hne)
    (fun c hc => hsolid c (List.mem_of_mem_head? hc))
    (fun c hc => hsolid c (List.mem_of_getLast? hc))

theorem spells_iff_numeral : Spells raw n ↔ Numeral raw n := by
  constructor
  · rintro ⟨front, sign, digits, back, hraw, hfront, hback, hsign, hne, hdigits, hvalue⟩
    have htrim := trimBlankList_signed hfront hback hsign hne hdigits
    rw [← hraw] at htrim
    refine ⟨digits, hne, hdigits, hvalue, ?_⟩
    rcases hsign with rfl | rfl
    · exact .inl htrim
    · exact .inr htrim
  · rintro ⟨digits, hne, hdigits, hvalue, htrim⟩
    obtain ⟨front, back, hraw, hfront, hback⟩ := trimBlankList_split raw.toList
    rcases htrim with htrim | htrim
    · rw [htrim] at hraw
      exact ⟨front, [], digits, back, hraw, hfront, hback, .inl rfl, hne, hdigits, hvalue⟩
    · rw [htrim] at hraw
      exact ⟨front, ['+'], digits, back, hraw, hfront, hback, .inr rfl, hne, hdigits, hvalue⟩

theorem Spells.ne_empty (h : Spells raw n) : raw ≠ "" := by
  rintro rfl
  obtain ⟨front, sign, digits, back, hraw, -, -, -, hne, -, -⟩ := h
  rw [String.toList_empty] at hraw
  have hnil := (List.append_eq_nil_iff.1 (List.append_eq_nil_iff.1 hraw.symm).2).1
  exact hne (List.append_eq_nil_iff.1 hnil).2

theorem Spells.unique {m : Nat} (hm : Spells raw m) (hn : Spells raw n) : m = n :=
  (spells_iff_numeral.1 hm).unique (spells_iff_numeral.1 hn)

theorem status?_eq_some_iff_spells {s : UInt16} :
    status? raw = some s ↔ Spells raw s.toNat ∧ 300 ≤ s.toNat ∧ s.toNat ≤ 399 := by
  rw [status?_eq_some_iff, spells_iff_numeral, UInt16.le_iff_toNat_le, UInt16.le_iff_toNat_le]
  rfl

/-- A text is refused just where it spells no number of a status. What the last sixteen bits of
a larger number come to does not count. -/
theorem status?_eq_none_iff : status? raw = none ↔ ∀ n, Spells raw n → n < 300 ∨ 399 < n := by
  rw [Option.eq_none_iff_forall_ne_some]
  constructor
  · intro h n hn
    by_contra hbounds
    have hsize : (UInt16.ofNat n).toNat = n := by
      rw [UInt16.toNat_ofNat']
      exact Nat.mod_eq_of_lt (by omega)
    refine h (UInt16.ofNat n) (status?_eq_some_iff_spells.2 ?_)
    rw [hsize]
    exact ⟨hn, by omega⟩
  · intro h s hs
    obtain ⟨hspells, hbounds⟩ := status?_eq_some_iff_spells.1 hs
    have := h s.toNat hspells
    omega

/-- As sixteen bits these digits would come to 302. -/
example : status? "65838" = none := by decide +kernel

/-- Zeros in front do not count, however many they are. -/
example : status? "\u2003+00000302\n" = some 302 := by decide +kernel

end Redirect

namespace Annotations

open Redirect (Spells)

variable {a : Annotations} {raw : String}

theorem override?_eq_none_iff : a.override? = none ↔
    a.get? responseStatusKey = none ∨ a.get? responseStatusKey = some "" := by
  rw [override?]
  cases a.get? responseStatusKey <;> simp

theorem override?_eq_some_iff :
    a.override? = some raw ↔ a.get? responseStatusKey = some raw ∧ raw ≠ "" := by
  rw [override?, Option.filter_eq_some_iff, decide_eq_true_iff]

theorem redirectStatus_eq_ok_iff_spells {n : UInt16} : a.redirectStatus = .ok n ↔
    a.override? = none ∧ n = 302 ∨
      ∃ raw, a.override? = some raw ∧ Spells raw n.toNat ∧ 300 ≤ n.toNat ∧ n.toNat ≤ 399 := by
  simp only [← Redirect.status?_eq_some_iff_spells]
  rw [redirectStatus_eq]
  cases a.override? with
  | none => simp [eq_comm]
  | some raw => cases hstatus : Redirect.status? raw <;> simp [hstatus]

theorem redirectStatus_eq_error_iff {e : Fault} : a.redirectStatus = .error e ↔
    ∃ raw, a.override? = some raw ∧ (∀ n, Spells raw n → n < 300 ∨ 399 < n) ∧
      e = .redirectStatus responseStatusKey raw := by
  simp only [← Redirect.status?_eq_none_iff]
  rw [redirectStatus_eq]
  cases a.override? with
  | none => simp
  | some raw => cases hstatus : Redirect.status? raw <;> simp [hstatus, eq_comm]

/-- **The override of a status is read as an exact integer.** Without an override, and with
an empty one, the status is 302. Another one is a status just where it spells a number from
300 to 399 and comes to that number; where it spells none of them it is refused, with the
text as it stands. So is every numeral for any other number, however many digits it has. -/
theorem redirectStatus_exact (a : Annotations) :
    (∀ n : UInt16, a.redirectStatus = .ok n ↔
      (a.get? responseStatusKey = none ∨ a.get? responseStatusKey = some "") ∧ n = 302 ∨
        ∃ raw, a.get? responseStatusKey = some raw ∧ Spells raw n.toNat ∧
          300 ≤ n.toNat ∧ n.toNat ≤ 399) ∧
    (∀ e : Fault, a.redirectStatus = .error e ↔
      ∃ raw, a.get? responseStatusKey = some raw ∧ raw ≠ "" ∧
        (∀ n, Spells raw n → n < 300 ∨ 399 < n) ∧ e = .redirectStatus responseStatusKey raw) ∧
    ∀ raw n, a.get? responseStatusKey = some raw → Spells raw n → n < 300 ∨ 399 < n →
      a.redirectStatus = .error (.redirectStatus responseStatusKey raw) := by
  refine ⟨fun n => ?_, fun e => ?_, fun raw n hraw hn hbounds => ?_⟩
  · rw [redirectStatus_eq_ok_iff_spells, override?_eq_none_iff]
    refine or_congr_right (exists_congr fun raw => ?_)
    rw [override?_eq_some_iff, and_assoc]
    -- A number is spelled by digits, so an empty text spells none.
    exact and_congr_right fun _ => and_iff_right_of_imp fun h => h.1.ne_empty
  · rw [redirectStatus_eq_error_iff]
    refine exists_congr fun raw => ?_
    rw [override?_eq_some_iff, and_assoc]
  · refine redirectStatus_eq_error_iff.2 ⟨raw, override?_eq_some_iff.2 ⟨hraw, hn.ne_empty⟩, ?_, rfl⟩
    exact fun m hm => hm.unique hn ▸ hbounds

end Annotations

end IngressRouting
