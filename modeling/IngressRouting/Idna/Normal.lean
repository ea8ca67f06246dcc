/-
The first steps of reading an internationalised domain name. Each character is
replaced by what it stands for; ASCII is decided without the tables. Then the text is
brought into its composed normal form: marks that follow each other in the order of
their classes, and a character and a mark that make up another character
replaced by it.
-/
import IngressRouting.Idna.MappingData
import IngressRouting.Idna.NormalData

namespace IngressRouting.Idna

/-! ## Mapping -/

/-- Whether a character is one of ASCII. -/
def isAscii (c : Char) : Bool := c.toNat < 0x80

/-- The lower-case letter of an ASCII capital; anything else is unchanged. -/
def lowerAscii (c : Char) : Char :=
  if 'A' ≤ c ∧ c ≤ 'Z' then Char.ofNat (c.toNat + 32) else c

/-- What a run of characters maps a character to, if it is in the run. -/
def Shift.shifted? (s : Shift) (n : Nat) : Option Nat :=
  if s.first ≤ n ∧ n ≤ s.last ∧ (n - s.first) % s.step = 0 then some (s.target + (n - s.first))
  else none

/-- Whether a character stands for itself. -/
def isValid (c : Char) : Bool := isAscii c || validRanges.contains c

/-- What a character stands for; nothing where it is not allowed. Which character
a folded one stands for makes no difference to whether its name is allowed, so it
keeps its place. -/
def mapChar (c : Char) : Option (List Char) :=
  if isAscii c then some [lowerAscii c]
  else if validRanges.contains c || foldedRanges.contains c then some [c]
  else match shifts.findSome? (·.shifted? c.toNat) with
    | some n => some [Char.ofNat n]
    | none => match expansions.find? (·.1 = c.toNat) with
      | some (_, ns) => some (ns.map Char.ofNat)
      | none => if ignoredRanges.contains c then some [] else none

/-- What all the characters stand for, if each is allowed. -/
def mapChars (cs : List Char) : Option (List Char) :=
  (cs.mapM mapChar).map List.flatten

/-! ## Normal form -/

/-- The class by which a mark is ordered; zero for all that is no mark. -/
def combiningClass (c : Char) : Nat :=
  if isAscii c then 0
  else match combiningClasses.find? fun ((a, b), _) => a ≤ c.toNat && c.toNat ≤ b with
    | some (_, k) => k
    | none => 0

/-- The parts of a syllable block: a lead, a vowel and perhaps a tail. -/
def syllableParts? (n : Nat) : Option (List Nat) :=
  if 0xAC00 ≤ n ∧ n ≤ 0xD7A3 then
    let i := n - 0xAC00
    let tail := i % 28
    let parts := [0x1100 + i / 588, 0x1161 + i % 588 / 28]
    some (if tail = 0 then parts else parts ++ [0x11A7 + tail])
  else none

/-- The parts of a character, taken apart as often as there are parts to take
apart. No character takes more than four steps. -/
def partsOf : Nat → Nat → List Nat
  | 0, n => [n]
  | fuel + 1, n =>
    if n < 0x80 then [n]
    else match syllableParts? n with
      | some parts => parts
      | none => match composites.find? (·.1 = n) with
        | some (_, a, b) => partsOf fuel a ++ [b]
        | none => [n]

/-- Puts a mark in front of those before it that have a higher class; the text
is held backwards. -/
def insertMark (c : Char) (k : Nat) : List Char → List Char
  | [] => [c]
  | d :: ds =>
    if k < combiningClass d then d :: insertMark c k ds else c :: d :: ds

/-- Adds a character to a text held backwards. -/
def pushOrdered (ds : List Char) (c : Char) : List Char :=
  let k := combiningClass c
  if k = 0 then c :: ds else insertMark c k ds

/-- Takes characters apart, and brings their marks into order. -/
def decompose (cs : List Char) : List Char :=
  let parts := cs.flatMap fun c => (partsOf 4 c.toNat).map Char.ofNat
  (parts.foldl pushOrdered []).reverse

/-- The character that two others make up. -/
def compose? (a b : Nat) : Option Nat :=
  if 0x1100 ≤ a ∧ a ≤ 0x1112 ∧ 0x1161 ≤ b ∧ b ≤ 0x1175 then
    some (0xAC00 + (a - 0x1100) * 588 + (b - 0x1161) * 28)
  else if 0xAC00 ≤ a ∧ a ≤ 0xD7A3 ∧ (a - 0xAC00) % 28 = 0 ∧ 0x11A8 ≤ b ∧ b ≤ 0x11C2 then
    some (a + (b - 0x11A7))
  else (composites.find? fun (_, x, y) => x = a && y = b).map (·.1)

/-- A starter and the marks after it that have not gone into it, the last one
first. -/
structure Cluster where
  starter : Char
  marks : List Char

/-- A text in pieces, the last one first. -/
structure Composing where
  done : List Char
  current : Option Cluster

/-- The characters of a cluster, the last one first. -/
def Cluster.toReversed (c : Cluster) : List Char := c.marks ++ [c.starter]

/-- Whether a mark between the starter and a character keeps them apart. -/
def Cluster.blocks (c : Cluster) (k : Nat) : Bool :=
  match c.marks with
  | [] => false
  | m :: _ => k ≤ combiningClass m

/-- Adds a character: it goes into the starter, behind its marks, or begins a cluster of its own. -/
def Composing.push (s : Composing) (c : Char) : Composing :=
  let k := combiningClass c
  match s.current with
  | none => if k = 0 then ⟨s.done, some ⟨c, []⟩⟩ else ⟨c :: s.done, none⟩
  | some cl =>
    match if cl.blocks k then none else compose? cl.starter.toNat c.toNat with
    | some n => ⟨s.done, some ⟨Char.ofNat n, cl.marks⟩⟩
    | none =>
      if k = 0 then ⟨cl.toReversed ++ s.done, some ⟨c, []⟩⟩
      else ⟨s.done, some ⟨cl.starter, c :: cl.marks⟩⟩

/-- The composed text in order. -/
def Composing.toList (s : Composing) : List Char :=
  (((s.current.map Cluster.toReversed).getD []) ++ s.done).reverse

/-- The composed normal form. -/
def normalize (cs : List Char) : List Char :=
  if cs.all isAscii then cs
  else ((decompose cs).foldl Composing.push ⟨[], none⟩).toList

end IngressRouting.Idna
