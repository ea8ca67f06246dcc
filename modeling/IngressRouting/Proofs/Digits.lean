/-
Decimal digits, and the numbers that they stand for.

Two readers take digits one by one: one in numbers of any size
(`Url.readDigits?_ten_eq_some_iff`), the other in sixteen bits. There a step is taken just
where the number that it comes to fits (`Redirect.pushDigit?_eq_some_iff`), so by induction
on the digits a reading comes to what they stand for, without a bound on how many they are
(`Redirect.readWord?_eq_some_iff`): digits never make a number smaller, and where they go
past sixteen bits at some place they stay past them.
-/
import IngressRouting.Redirect
import Mathlib.Data.Option.Basic

namespace IngressRouting

theorem isDigit_iff {c : Char} : c.isDigit = true ↔ '0' ≤ c ∧ c ≤ '9' := by
  rw [Char.isDigit, Bool.and_eq_true, decide_eq_true_iff, decide_eq_true_iff]
  rfl

theorem lt_ten_of_isDigit {c : Char} (h : c.isDigit = true) : c.toNat - '0'.toNat < 10 := by
  have hc : c.toNat ≤ '9'.val.toNat := UInt32.le_iff_toNat_le.1 (isDigit_iff.1 h).2
  have h9 : '9'.val.toNat = 57 := rfl
  have h0 : '0'.toNat = 48 := rfl
  omega

theorem le_ofDigitChars (ds : List Char) (n : Nat) : n ≤ Nat.ofDigitChars 10 ds n := by
  induction ds generalizing n with
  | nil => exact Nat.le_refl n
  | cons d ds ih =>
    rw [Nat.ofDigitChars_cons]
    have := ih (10 * n + (d.toNat - '0'.toNat))
    omega

/-! ## Digits of any number -/

namespace Url

theorem hexDigit?_of_isDigit {c : Char} (h : c.isDigit = true) :
    Unicode.hexDigit? c = some (c.toNat - '0'.toNat) := by
  rw [Unicode.hexDigit?, if_pos (isDigit_iff.1 h)]
  rfl

theorem isDigit_of_hexDigit?_lt {c : Char} {d : Nat} (h : Unicode.hexDigit? c = some d)
    (hd : d < 10) : c.isDigit = true := by
  rw [Unicode.hexDigit?] at h
  split at h
  · next hc => exact isDigit_iff.2 hc
  · have hA : 'A'.val.toNat = 65 := rfl
    have ha : 'a'.val.toNat = 97 := rfl
    split at h
    · next hc =>
      cases h
      have : 'A'.val.toNat ≤ c.toNat := UInt32.le_iff_toNat_le.1 hc.1
      omega
    · split at h
      · next hc =>
        cases h
        have : 'a'.val.toNat ≤ c.toNat := UInt32.le_iff_toNat_le.1 hc.1
        omega
      · cases h

/-- Decimal digits, read behind a number. -/
theorem readDigits?_ten_eq_some_iff {cs : List Char} {m n : Nat} : readDigits? 10 m cs = some n ↔
    (∀ c ∈ cs, c.isDigit = true) ∧ Nat.ofDigitChars 10 cs m = n := by
  induction cs generalizing m with
  | nil => simp [readDigits?]
  | cons c cs ih =>
    rw [readDigits?, List.forall_mem_cons, Nat.ofDigitChars_cons, and_assoc]
    by_cases hc : c.isDigit = true
    · rw [hexDigit?_of_isDigit hc]
      simp only [lt_ten_of_isDigit hc, if_true, ih, hc, true_and]
    · refine iff_of_false (fun h => ?_) fun h => hc h.1
      split at h
      · next d hd =>
        split at h
        · next hlt => exact hc (isDigit_of_hexDigit?_lt hd hlt)
        · cases h
      · cases h

end Url

namespace Redirect

/-- The number that digits stand for, however many they are. -/
def decimal? (cs : List Char) : Option Nat :=
  if cs.isEmpty then none else Url.readDigits? 10 0 cs

theorem decimal?_eq_some_iff {cs : List Char} {n : Nat} :
    decimal? cs = some n ↔
      cs ≠ [] ∧ (∀ c ∈ cs, c.isDigit = true) ∧ Nat.ofDigitChars 10 cs 0 = n := by
  rw [decimal?]
  cases cs with
  | nil => simp
  | cons c cs => simp [Url.readDigits?_ten_eq_some_iff]

/-! ## Digits in sixteen bits -/

/-- A digit goes behind a number just where the number that they come to fits. -/
theorem pushDigit?_eq_some_iff {m n d : UInt16} :
    pushDigit? m d = some n ↔ n.toNat = 10 * m.toNat + d.toNat := by
  have hn : n.toNat < UInt16.size := n.toNat_lt_size
  rw [pushDigit?]
  split
  · next htimes =>
    refine iff_of_false (fun h => by cases h) fun h => ?_
    omega
  · next htimes =>
    have hmul : (10 * m).toNat = 10 * m.toNat := by
      rw [UInt16.toNat_mul]
      exact Nat.mod_eq_of_lt (Nat.lt_of_not_le htimes)
    rw [hmul]
    split
    · next hplus =>
      refine iff_of_false (fun h => by cases h) fun h => ?_
      omega
    · next hplus =>
      have hadd : (10 * m + d).toNat = 10 * m.toNat + d.toNat := by
        rw [UInt16.toNat_add, hmul]
        exact Nat.mod_eq_of_lt (Nat.lt_of_not_le hplus)
      rw [Option.some_inj, ← UInt16.toNat_inj, hadd]
      exact eq_comm

theorem toNat_digit {c : Char} (h : c.isDigit = true) :
    (UInt16.ofNat (c.toNat - '0'.toNat)).toNat = c.toNat - '0'.toNat := by
  have hlt := lt_ten_of_isDigit h
  rw [UInt16.toNat_ofNat']
  exact Nat.mod_eq_of_lt (by omega)

/-- **Reading digits in sixteen bits is exact**: it comes to a number just where the digits
stand for that number, whatever stood in front of them. -/
theorem readWord?_eq_some_iff {cs : List Char} {m n : UInt16} :
    readWord? m cs = some n ↔
      (∀ c ∈ cs, c.isDigit = true) ∧ Nat.ofDigitChars 10 cs m.toNat = n.toNat := by
  induction cs generalizing m with
  | nil => simp [readWord?, ← UInt16.toNat_inj]
  | cons c cs ih =>
    rw [readWord?, List.forall_mem_cons, Nat.ofDigitChars_cons]
    split
    · next hc =>
      have hdigit : c.isDigit = true := isDigit_iff.2 hc
      have hstep : ∀ k, pushDigit? m (UInt16.ofNat (c.toNat - '0'.toNat)) = some k ↔
          k.toNat = 10 * m.toNat + (c.toNat - '0'.toNat) := fun k => by
        rw [pushDigit?_eq_some_iff, toNat_digit hdigit]
      rw [Option.bind_eq_some_iff]
      constructor
      · rintro ⟨k, hk, hrest⟩
        obtain ⟨hdigits, hvalue⟩ := ih.1 hrest
        rw [(hstep k).1 hk] at hvalue
        exact ⟨⟨hdigit, hdigits⟩, hvalue⟩
      · rintro ⟨⟨-, hdigits⟩, hvalue⟩
        -- What is read so far is no more than what all the digits stand for, so it fits.
        have hle := le_ofDigitChars cs (10 * m.toNat + (c.toNat - '0'.toNat))
        have hfits : 10 * m.toNat + (c.toNat - '0'.toNat) < UInt16.size := by
          have hn : n.toNat < UInt16.size := n.toNat_lt_size
          omega
        have hk : (UInt16.ofNat (10 * m.toNat + (c.toNat - '0'.toNat))).toNat =
            10 * m.toNat + (c.toNat - '0'.toNat) := by
          rw [UInt16.toNat_ofNat']
          exact Nat.mod_eq_of_lt hfits
        refine ⟨_, (hstep _).2 hk, ih.2 ⟨hdigits, ?_⟩⟩
        rw [hk]
        exact hvalue
    · next hc =>
      refine iff_of_false (fun h => by cases h) fun h => hc (isDigit_iff.1 h.1.1)

end Redirect

end IngressRouting
