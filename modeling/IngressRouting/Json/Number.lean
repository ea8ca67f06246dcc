/-
Numbers in JSON text. A number without fraction and exponent stays an integer
while it fits 64 bits. Any other number is a double, computed from its first
digits that fit 64 bits and a power of ten; it is only ever shown in messages.
-/
import IngressRouting.Decimal.Shortest
import IngressRouting.Json.Cursor

namespace IngressRouting.Json

/-- A number in a JSON text. -/
inductive Number
  | natural (n : Nat)
  /-- The integer `-n`. -/
  | negative (n : Nat)
  /-- The shortest text of a double. -/
  | float (text : String)
  deriving DecidableEq, Repr

/-- How a message calls a number. -/
def Number.found : Number → Found
  | natural n => .natural n
  | negative n => .negative n
  | float text => .float text

/-- Doubles are written positionally from 0.00001 up to seventeen digits. -/
def floatStyle : Decimal.Style := ⟨-5, 15⟩

/-- The number that a decimal digit stands for. -/
def digitValue (c : Char) : Nat := c.toNat - 48

/-- Reads digits behind `n` for as long as the number stays below the limit;
the digits left over follow. -/
def fitDigits (limit : Nat) : Nat → List Char → Nat × List Char
  | n, [] => (n, [])
  | n, d :: ds =>
    if 10 * n + digitValue d < limit then fitDigits limit (10 * n + digitValue d) ds
    else (n, d :: ds)

/-- `x * 10 ^ exponent`, one multiplication or division at a time; nothing
where it is too large. -/
def scaleFloat : Nat → Float → Int → Option Float
  | 0, x, _ => some x
  | fuel + 1, x, exponent =>
    if exponent.natAbs ≤ 308 then
      let power := Float.ofScientific 1 false exponent.natAbs
      if 0 ≤ exponent then
        let y := x * power
        if y.isInf then none else some y
      else some (x / power)
    else if x == 0 then some x
    else if 0 ≤ exponent then none
    else scaleFloat fuel (x / Float.ofScientific 1 false 308) (exponent + 308)

namespace Decoder

/-- The float with these digits and this exponent, in its shortest form. -/
def float (positive : Bool) (digits : Nat) (exponent : Int) : Decoder Number :=
  match scaleFloat 4 digits.toUInt64.toFloat exponent with
  | none => failHere .numberTooLarge
  | some x => pure (.float (floatStyle.writeFloat (if positive then x else -x)))

/-- An exponent, from its `e` on. -/
def exponent (positive : Bool) (significand : Nat) (before : Int) : Decoder Number := do
  skip 1
  let sign ← peek
  if sign = some '+' ∨ sign = some '-' then skip 1
  let up := sign ≠ some '-'
  match ← peek with
  | none => failHere .endInValue
  | some c =>
    if !isDigit c then failAhead .badNumber
    let start ← get
    let ds ← digits
    let (n, left) := fitDigits (Nat.pow 2 31) 0 ds
    if left.isEmpty then float positive significand (if up then before + n else before - n)
    else if significand ≠ 0 ∧ up then
      set (start.skip (ds.length - left.length + 1))
      failHere .numberTooLarge
    else float positive 0 0

/-- A fraction, from its point on. -/
def fraction (positive : Bool) (significand : Nat) (before : Int) : Decoder Number := do
  skip 1
  let ds ← digits
  if ds.isEmpty then
    match ← peek with
    | none => failAhead .endInValue
    | some _ => failAhead .badNumber
  let (n, left) := fitDigits UInt64.size significand ds
  let place : Int := before - (ds.length - left.length : Nat)
  match ← peek with
  | some 'e' | some 'E' => exponent positive n place
  | _ => float positive n place

/-- What follows the integer part. -/
def afterInteger (positive : Bool) (n : Nat) (extra : Nat) : Decoder Number := do
  match ← peek with
  | some '.' => fraction positive n extra
  | some 'e' | some 'E' => exponent positive n extra
  | _ =>
    if extra ≠ 0 then float positive n extra
    else if positive then pure (.natural n)
    else if n = 0 ∨ Nat.pow 2 63 < n then float positive n 0
    else pure (.negative n)

/-- A number whose sign, if any, has been read. -/
def unsigned (positive : Bool) : Decoder Number := do
  match ← peek with
  | none => failHere .endInValue
  | some c =>
    if !isDigit c then failAhead .badNumber
    if c = '0' then
      skip 1
      match ← peek with
      | some d => if isDigit d then failAhead .badNumber else afterInteger positive 0 0
      | none => afterInteger positive 0 0
    else
      let (n, left) := fitDigits UInt64.size 0 (← digits)
      afterInteger positive n left.length

/-- A number, from its sign or first digit on. -/
def number : Decoder Number := do
  match ← peek with
  | some '-' => skip 1; unsigned false
  | _ => unsigned true

/-- Passes over an exponent, from its `e` on. -/
def passExponent : Decoder Unit := do
  skip 1
  match ← peek with
  | some '+' | some '-' => skip 1
  | _ => pure ()
  match ← peek with
  | some c => if isDigit c then discard digits else failAhead .badNumber
  | none => failHere .badNumber

/-- Passes over a number whose sign, if any, has been read, and which may be of
any size. -/
def passUnsigned : Decoder Unit := do
  match ← peek with
  | none => failHere .badNumber
  | some c =>
    if !isDigit c then failAhead .badNumber
    if c = '0' then
      skip 1
      if ((← peek).map isDigit).getD false then failAhead .badNumber
    else discard digits
    match ← peek with
    | some '.' =>
      skip 1
      if (← digits).isEmpty then failAhead .badNumber
      match ← peek with
      | some 'e' | some 'E' => passExponent
      | _ => pure ()
    | some 'e' | some 'E' => passExponent
    | _ => pure ()

end Decoder

end IngressRouting.Json
