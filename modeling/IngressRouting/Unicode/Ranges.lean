/-
Sets of code points given as ranges. A table is written as text: ranges
separated by blanks, each a hexadecimal number or two joined by a hyphen.
-/
namespace IngressRouting.Unicode

/-- The value of a hexadecimal digit of either case. -/
def hexDigit? (c : Char) : Option Nat :=
  if '0' ≤ c ∧ c ≤ '9' then some (c.toNat - 48)
  else if 'A' ≤ c ∧ c ≤ 'F' then some (c.toNat - 55)
  else if 'a' ≤ c ∧ c ≤ 'f' then some (c.toNat - 87)
  else none

/-- The hexadecimal number at the start of a text, and what follows it. -/
def readHex : Nat → List Char → Nat × List Char
  | n, [] => (n, [])
  | n, c :: cs =>
    match hexDigit? c with
    | some d => readHex (16 * n + d) cs
    | none => (n, c :: cs)

/-- The words of a text, separated by spaces and line ends. -/
def words (s : String) : List (List Char) :=
  (s.toList.splitOnP fun c => c = ' ' ∨ c = '\n').filter fun w => !w.isEmpty

/-- The range at the start of a text, and what follows it. -/
def readRange (cs : List Char) : (Nat × Nat) × List Char :=
  match readHex 0 cs with
  | (a, '-' :: r) => let (b, r) := readHex 0 r; ((a, b), r)
  | (a, r) => ((a, a), r)

/-- Characters by runs of their numbers, ends included. -/
structure Ranges where
  bounds : List (Nat × Nat)

/-- The runs that are written in a text in hexadecimal. -/
def Ranges.ofText (s : String) : Ranges :=
  ⟨(words s).map fun w => (readRange w).1⟩

/-- Whether a character is in one of the runs. -/
def Ranges.contains (r : Ranges) (c : Char) : Bool :=
  r.bounds.any fun (a, b) => a ≤ c.toNat && c.toNat ≤ b

end IngressRouting.Unicode
