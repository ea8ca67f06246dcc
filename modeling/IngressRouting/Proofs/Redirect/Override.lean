/-
Which status an override asks for (`Redirect.status?_eq_some_iff`): a numeral between 300 and
399, whatever number the same digits would come to in sixteen bits.
-/
import IngressRouting.Proofs.Digits
import IngressRouting.Proofs.Redirection

namespace IngressRouting

namespace Redirect

/-- The text is a decimal numeral for the number, with white space around it and a plus
sign in front or without them. -/
def Numeral (raw : String) (n : Nat) : Prop :=
  ∃ digits, digits ≠ [] ∧ (∀ c ∈ digits, c.isDigit = true) ∧ Nat.ofDigitChars 10 digits 0 = n ∧
    (trimBlankList raw.toList = digits ∨ trimBlankList raw.toList = '+' :: digits)

/-- A sign is no digit, so a text is a numeral for one number at most. -/
theorem Numeral.unique {raw : String} {m n : Nat} (hm : Numeral raw m) (hn : Numeral raw n) :
    m = n := by
  obtain ⟨ds, -, hds, rfl, hm⟩ := hm
  obtain ⟨es, -, hes, rfl, hn⟩ := hn
  rcases hm with hm | hm <;> rcases hn with hn | hn
  · rw [← hm, hn]
  · cases hds '+' (by rw [← hm, hn]; exact List.mem_cons_self)
  · cases hes '+' (by rw [← hn, hm]; exact List.mem_cons_self)
  · rw [(List.cons.inj (hm.symm.trans hn)).2]

theorem word?_eq_some_iff {cs : List Char} {n : UInt16} : word? cs = some n ↔
    ∃ digits, digits ≠ [] ∧ (∀ c ∈ digits, c.isDigit = true) ∧
      Nat.ofDigitChars 10 digits 0 = n.toNat ∧ (cs = digits ∨ cs = '+' :: digits) := by
  have hread : ∀ digits : List Char,
      (if digits.isEmpty then none else readWord? 0 digits) = some n ↔
        digits ≠ [] ∧ (∀ c ∈ digits, c.isDigit = true) ∧
          Nat.ofDigitChars 10 digits 0 = n.toNat := fun digits => by
    cases digits with
    | nil => simp
    | cons c cs => simp [readWord?_eq_some_iff]
  rw [word?]
  rw [hread]
  split
  · next hplus =>
    obtain ⟨cs, rfl⟩ := List.head?_eq_some_iff.1 hplus
    constructor
    · rintro ⟨hne, hdigits, hvalue⟩
      exact ⟨cs, hne, hdigits, hvalue, .inr rfl⟩
    · rintro ⟨digits, hne, hdigits, hvalue, rfl | h⟩
      · cases hdigits '+' List.mem_cons_self
      · cases h
        exact ⟨hne, hdigits, hvalue⟩
  · next hplus =>
    constructor
    · rintro ⟨hne, hdigits, hvalue⟩
      exact ⟨cs, hne, hdigits, hvalue, .inl rfl⟩
    · rintro ⟨digits, hne, hdigits, hvalue, rfl | rfl⟩
      · exact ⟨hne, hdigits, hvalue⟩
      · exact absurd rfl hplus

/-- **A status is a numeral between 300 and 399**, whatever number the same digits come to in
sixteen bits. -/
theorem status?_eq_some_iff {raw : String} {n : UInt16} :
    status? raw = some n ↔ Numeral raw n.toNat ∧ 300 ≤ n ∧ n ≤ 399 := by
  rw [status?, Option.filter_eq_some_iff, word?_eq_some_iff, decide_eq_true_iff]
  rfl

end Redirect

end IngressRouting
