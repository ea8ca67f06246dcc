/-
Cutting text at the first occurrence of a separator, and joining texts with
one. `cutList_eq_some_iff` says what a cut is.
-/
namespace IngressRouting

/-- What stands before and after the first `sep`. -/
def cutList (sep : Char) : List Char → Option (List Char × List Char)
  | [] => none
  | c :: cs =>
    if c = sep then some ([], cs) else (cutList sep cs).map fun (a, b) => (c :: a, b)

/-- Cuts a text at the first separator, if there is one. -/
def cut (sep : Char) (s : String) : Option (String × String) :=
  (cutList sep s.toList).map fun (a, b) => (String.ofList a, String.ofList b)

theorem cutList_eq_some_iff {sep : Char} {cs a b : List Char} :
    cutList sep cs = some (a, b) ↔ cs = a ++ sep :: b ∧ sep ∉ a := by
  induction cs generalizing a with
  | nil => simp [cutList]
  | cons c cs ih =>
    by_cases hc : c = sep
    · subst hc
      cases a with
      | nil => simp [cutList, eq_comm]
      | cons x a => simp only [cutList, if_true]; constructor <;> grind
    · cases a with
      | nil => simp [cutList, hc]
      | cons x a =>
        simp only [cutList, hc, if_false, Option.map_eq_some_iff, Prod.mk.injEq, Prod.exists,
          List.cons.injEq, List.cons_append, List.mem_cons, not_or]
        constructor
        · rintro ⟨a', b', h, ⟨rfl, rfl⟩, rfl⟩
          obtain ⟨h₁, h₂⟩ := ih.1 h
          exact ⟨⟨rfl, h₁⟩, fun e => hc e.symm, h₂⟩
        · rintro ⟨⟨rfl, h⟩, _, h₂⟩
          exact ⟨a, b, ih.2 ⟨h, h₂⟩, ⟨rfl, rfl⟩, rfl⟩

theorem exists_cutList {sep : Char} {cs : List Char} (h : sep ∈ cs) :
    ∃ a b, cutList sep cs = some (a, b) := by
  induction cs with
  | nil => cases h
  | cons c cs ih =>
    rw [cutList]
    split
    · exact ⟨[], cs, rfl⟩
    · next hc =>
      obtain ⟨a, b, hab⟩ := ih ((List.mem_cons.1 h).resolve_left fun he => hc he.symm)
      exact ⟨c :: a, b, by rw [hab]; rfl⟩

/-- The pieces between the separators: one more than there are of them. -/
def splitList (sep : Char) : List Char → List (List Char)
  | [] => [[]]
  | c :: cs =>
    if c = sep then [] :: splitList sep cs
    else match splitList sep cs with
      | [] => [[c]]
      | p :: ps => (c :: p) :: ps

/-- Splits a text at every separator. -/
def splitAt (sep : Char) (s : String) : List String :=
  (splitList sep s.toList).map String.ofList

end IngressRouting
