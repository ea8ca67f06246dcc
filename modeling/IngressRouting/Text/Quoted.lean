/-
String literals of the condition language. A quote or a backslash inside the
text is preceded by a backslash; everything else is written as it is.

`read_encode`: a literal is read back exactly, whatever follows it.
-/
namespace IngressRouting.Quoted

/-- The inside of a literal. -/
def encode : List Char → List Char
  | [] => []
  | c :: cs => if c = '"' ∨ c = '\\' then '\\' :: c :: encode cs else c :: encode cs

/-- Reads the inside of a literal up to its closing quote: the text it stands
for, and what follows the quote. A backslash makes the next character
literal. -/
def read : List Char → Option (List Char × List Char)
  | [] => none
  | '"' :: r => some ([], r)
  | ['\\'] => none
  | '\\' :: c :: r => (read r).map fun (s, t) => (c :: s, t)
  | c :: r => (read r).map fun (s, t) => (c :: s, t)

theorem read_encode (s r : List Char) : read (encode s ++ '"' :: r) = some (s, r) := by
  induction s with
  | nil => rfl
  | cons c s ih =>
    by_cases hq : c = '"'
    · subst hq; simp [encode, read, ih]
    · by_cases hb : c = '\\'
      · subst hb; simp [encode, read, ih]
      · rw [encode, if_neg (by simp [hq, hb]), List.cons_append, read, ih]
        · rfl
        · exact fun h => hq h
        · exact fun h _ => hb h
        · exact fun _ _ h => absurd h hb

/-- The literal for a text, quotes included. -/
def literal (s : String) : String :=
  String.ofList ('"' :: encode s.toList ++ ['"'])

end IngressRouting.Quoted
