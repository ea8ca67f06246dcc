/-
Punycode: texts beyond ASCII written in ASCII letters, digits and hyphens. The
ASCII characters come first; what follows says, in numbers of varying length,
where which other character is inserted.
-/
import IngressRouting.Idna.Normal

namespace IngressRouting.Idna.Punycode

/-- The value of a digit in base 36. -/
def digit? (c : Char) : Option Nat :=
  if 'a' ≤ c ∧ c ≤ 'z' then some (c.toNat - 97)
  else if 'A' ≤ c ∧ c ≤ 'Z' then some (c.toNat - 65)
  else if '0' ≤ c ∧ c ≤ '9' then some (c.toNat - 22)
  else none

/-- The letter or digit for a number below thirty-six. -/
def digitChar (d : Nat) : Char := Char.ofNat (if d < 26 then d + 97 else d + 22)

/-- Halves the range of a bias until it is small; gives the steps as well. -/
def shrink : Nat → Nat → Nat → Nat × Nat
  | 0, delta, k => (delta, k)
  | fuel + 1, delta, k => if 455 < delta then shrink fuel (delta / 35) (k + 36) else (delta, k)

/-- The bias for the next number, from the last one. -/
def adapt (delta count : Nat) (first : Bool) : Nat :=
  let delta := if first then delta / 700 else delta / 2
  let (delta, k) := shrink 32 (delta + delta / count) 0
  k + 36 * delta / (delta + 38)

/-- The digit from which on a number goes on. -/
def threshold (k bias : Nat) : Nat :=
  if k ≤ bias then 1 else if bias + 26 ≤ k then 26 else k - bias

/-- Reads one number of varying length, which is added to `i`. Neither the sum
nor the weight of a digit may outgrow 32 bits. -/
def readNumber (bias : Nat) : Nat → Nat → Nat → List Char → Option (Nat × List Char)
  | _, _, _, [] => none
  | i, w, k, c :: cs => do
    let d ← digit? c
    let i := i + d * w
    if UInt32.size ≤ i then none
    let t := threshold k bias
    if d < t then return (i, cs)
    if UInt32.size ≤ w * (36 - t) then none
    readNumber bias i (w * (36 - t)) (k + 36) cs

/-- Reads the numbers at the end of a label and inserts the characters that they stand for. -/
def decodeFrom : Nat → Nat → Nat → Nat → List Char → List Char → Option (List Char)
  | _, _, _, _, out, [] => some out
  | 0, _, _, _, _, _ => none
  | fuel + 1, n, i, bias, out, cs => do
    let (j, rest) ← readNumber bias i 1 36 cs
    let count := out.length + 1
    let n := n + j / count
    if 0x10FFFF < n ∨ (0xD800 ≤ n ∧ n ≤ 0xDFFF) then none
    let spot := j % count
    decodeFrom fuel n (spot + 1) (adapt (j - i) count (i = 0)) (out.insertIdx spot (Char.ofNat n)) rest

/-- The text that an encoded text stands for. -/
def decode? (cs : List Char) : Option (List Char) :=
  let r := cs.reverse
  let tail := (r.takeWhile (· ≠ '-')).reverse
  let basic := ((r.dropWhile (· ≠ '-')).drop 1).reverse
  if basic.isEmpty ∧ '-' ∈ cs then none
  else decodeFrom cs.length 128 0 72 basic tail

/-- The digits of a number of varying length. -/
def writeNumber (bias : Nat) : Nat → Nat → Nat → List Char
  | 0, _, _ => []
  | fuel + 1, q, k =>
    let t := threshold k bias
    if q < t then [digitChar q]
    else digitChar (t + (q - t) % (36 - t)) :: writeNumber bias fuel ((q - t) / (36 - t)) (k + 36)

/-- How far a label is encoded. -/
structure Encoder where
  delta : Nat
  bias : Nat
  handled : Nat
  out : List Char

/-- Takes one character into account: it is counted where it is below `n`, and
written where it is `n`. -/
def Encoder.step (basic n : Nat) (e : Encoder) (c : Char) : Encoder :=
  if c.toNat < n then { e with delta := e.delta + 1 }
  else if c.toNat = n then
    { delta := 0
      bias := adapt e.delta (e.handled + 1) (e.handled = basic)
      handled := e.handled + 1
      out := e.out ++ writeNumber e.bias 40 e.delta 36 }
  else e

/-- Writes the characters beyond ASCII, in ascending order. -/
def encodeFrom (cs : List Char) (basic : Nat) : Nat → Nat → Encoder → List Char
  | 0, _, e => e.out
  | fuel + 1, n, e =>
    match (cs.map Char.toNat).filter (n ≤ ·) |>.min? with
    | none => e.out
    | some m =>
      let e := { e with delta := e.delta + (m - n) * (e.handled + 1) }
      let e := cs.foldl (Encoder.step basic m) e
      encodeFrom cs basic fuel (m + 1) { e with delta := e.delta + 1 }

/-- Encodes a label: its ASCII characters, then where the others go. -/
def encode (cs : List Char) : List Char :=
  let basic := cs.filter isAscii
  let start := if basic.isEmpty then [] else basic ++ ['-']
  start ++ encodeFrom cs basic.length (cs.length + 1) 128 ⟨0, 72, basic.length, []⟩

end IngressRouting.Idna.Punycode
