/-
The shortest decimal that reads back as a given double.

A positive double is `mantissa * 2 ^ exponent`. The numbers that round to it
form an interval, whose ends belong to it when the mantissa is even. For one,
two, … seventeen digits the two neighbours of the double on that decimal grid
are tested in exact arithmetic, and the first grid with a hit wins.
-/
namespace IngressRouting.Decimal

/-- A positive double and the interval of numbers that round to it, all three
as numerators over `den`. -/
structure Interval where
  low : Nat
  value : Nat
  high : Nat
  den : Nat
  closed : Bool

/-- The interval of the double with these bits, whose sign is left out. -/
def Interval.ofBits (bits : UInt64) : Interval :=
  let biased := ((bits >>> 52) &&& 0x7FF).toNat
  let fraction := (bits &&& 0xFFFFFFFFFFFFF).toNat
  let mantissa := if biased = 0 then fraction else fraction + Nat.pow 2 52
  let exponent : Int := if biased = 0 then -1076 else biased - 1077
  let below := if fraction = 0 ∧ 1 < biased then 1 else 2
  let scale := Nat.pow 2 exponent.toNat
  { low := (4 * mantissa - below) * scale
    value := 4 * mantissa * scale
    high := (4 * mantissa + 2) * scale
    den := Nat.pow 2 (-exponent).toNat
    closed := mantissa % 2 = 0 }

/-- The number of decimal places to the right of the point at which the first
digit of `value / den` stands, which is less than one. -/
def leadingPlace (value den : Nat) : Nat → Nat → Nat
  | 0, place => place
  | fuel + 1, place =>
    if den ≤ value * Nat.pow 10 place then place else leadingPlace value den fuel (place + 1)

/-- The exponent of the first digit. -/
def Interval.magnitude (i : Interval) : Int :=
  if i.den ≤ i.value then (Nat.toDigits 10 (i.value / i.den)).length - 1
  else -(leadingPlace i.value i.den 400 1 : Nat)

/-- Whether `digits * 10 ^ place` rounds to the double. -/
def Interval.accepts (i : Interval) (digits : Nat) (place : Int) : Bool :=
  let n := digits * Nat.pow 10 place.toNat * i.den
  let s := Nat.pow 10 (-place).toNat
  if i.closed then i.low * s ≤ n && n ≤ i.high * s else i.low * s < n && n < i.high * s

/-- The nearer of the two neighbours on the grid of this place that round to
the double. -/
def Interval.onGrid? (i : Interval) (place : Int) : Option Nat :=
  let n := i.value * Nat.pow 10 (-place).toNat
  let d := i.den * Nat.pow 10 place.toNat
  let below := n / d
  let lowOk := i.accepts below place
  let highOk := i.accepts (below + 1) place
  let nearBelow := 2 * (n % d) < d ∨ 2 * (n % d) = d ∧ below % 2 = 0
  if lowOk && highOk then some (if nearBelow then below else below + 1)
  else if lowOk then some below
  else if highOk then some (below + 1)
  else none

/-- The shortest decimal `digits * 10 ^ place` that rounds to the double. -/
def Interval.shortest (i : Interval) : Nat × Int :=
  let top := i.magnitude
  let grids := (List.range 17).map fun (n : Nat) => top - n
  (grids.findSome? fun place => (i.onGrid? place).map fun d => (d, place)).getD (0, 0)

/-- How a decimal is written: positionally where the exponent of its first
digit lies between the bounds, and with an exponent otherwise. -/
structure Style where
  lowest : Int
  highest : Int

/-- Without the zeros at the end, which move into the exponent. -/
def dropZeros : Nat → Nat → Int → Nat × Int
  | 0, d, p => (d, p)
  | fuel + 1, d, p => if d ≠ 0 ∧ d % 10 = 0 then dropZeros fuel (d / 10) (p + 1) else (d, p)

/-- Writes `digits * 10 ^ place`, with at least one digit after the point. An
exponent has its sign. -/
def Style.write (st : Style) (digits : Nat) (place : Int) : String :=
  let (digits, place) := dropZeros 20 digits place
  let cs := Nat.toDigits 10 digits
  let first : Int := place + cs.length - 1
  let zeros (n : Int) : List Char := List.replicate n.toNat '0'
  if st.lowest ≤ first ∧ first ≤ st.highest then
    if 0 ≤ place then String.ofList (cs ++ zeros place ++ ['.', '0'])
    else if 0 ≤ first then
      let n := (first + 1).toNat
      String.ofList (cs.take n ++ ['.'] ++ cs.drop n)
    else String.ofList (['0', '.'] ++ zeros (-first - 1) ++ cs)
  else
    let sign := if first < 0 then "-" else "+"
    let tail := if cs.length = 1 then [] else '.' :: cs.drop 1
    String.ofList (cs.take 1 ++ tail) ++ "e" ++ sign ++ toString first.natAbs

/-- The text of a finite double. -/
def Style.writeFloat (st : Style) (x : Float) : String :=
  let bits := x.toBits
  let sign := if bits >>> 63 = 1 then "-" else ""
  if bits &&& 0x7FFFFFFFFFFFFFFF = 0 then sign ++ "0.0"
  else
    let (digits, place) := (Interval.ofBits bits).shortest
    sign ++ st.write digits place

end IngressRouting.Decimal
