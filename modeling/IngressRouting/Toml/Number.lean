/-
Numbers, dates and times in TOML text.
-/
import IngressRouting.Toml.Scan

namespace IngressRouting.Toml.Scan

/-- Whether a character is a decimal digit of a number. -/
def isDecimal (c : Char) : Bool := '0' ≤ c && c ≤ '9'

/-- Digits with single underscores between them; at least one digit. -/
def digits (p : Char → Bool) : Scan (List Char) := do
  let first ← one p
  let rest ← many (one p <|> (do char '_'; one p))
  return first :: rest

/-- Digits of an integer, which do not begin with a zero unless it is all. -/
def integerDigits : Scan (List Char) := do
  match ← peek with
  | some '0' => char '0'; return ['0']
  | _ => digits isDecimal

/-- Reads a sign, if there is one. -/
def sign : Scan (Option Char) := tryScan (one fun c => c == '+' || c == '-')

/-- The number that digits stand for in a base. -/
def valueOf (base : Nat) (ds : List Char) : Nat :=
  ds.foldl (fun n d => base * n + (Unicode.hexDigit? d).getD 0) 0

/-- An integer of sixty-four bits. -/
def inRange (n : Int) : Scan Int := do
  if n < Int64.minValue.toInt ∨ Int64.maxValue.toInt < n then failure
  return n

/-- Reads an integer, with its prefix where it is not decimal. -/
def integer : Scan Int := do
  match ← get with
  | '0' :: 'x' :: cs =>
    set cs
    inRange (valueOf 16 (← digits fun c => (Unicode.hexDigit? c).isSome))
  | '0' :: 'o' :: cs =>
    set cs
    inRange (valueOf 8 (← digits fun c => '0' ≤ c && c ≤ '7'))
  | '0' :: 'b' :: cs =>
    set cs
    inRange (valueOf 2 (← digits fun c => c == '0' || c == '1'))
  | _ =>
    let s ← sign
    let n : Int := valueOf 10 (← integerDigits)
    inRange (if s = some '-' then -n else n)

/-- Whether `digits * 10 ^ exponent` is finite as a double: below the midpoint
between the greatest double and the power of two above it. -/
def isFinite (digits : Nat) (exponent : Int) : Bool :=
  let bound := Nat.pow 2 1024 - Nat.pow 2 970
  if digits = 0 then true
  else if 0 ≤ exponent then exponent < 400 && digits * Nat.pow 10 exponent.toNat < bound
  else
    let places := (Nat.toDigits 10 digits).length
    (places : Int) + exponent < 300 || digits < bound * Nat.pow 10 exponent.natAbs

/-- A number with a fraction, an exponent or both, or one of the words for
infinity and no number. A positive number must be finite as a double; a
negative one may be too great. -/
def float : Scan String := do
  let start ← get
  let s ← sign
  match ← peek with
  | some 'i' => chars ['i', 'n', 'f']
  | some 'n' => chars ['n', 'a', 'n']
  | _ =>
    let whole ← integerDigits
    let fraction ← tryScan (do char '.'; digits isDecimal)
    let exponent ← tryScan (do
      discard (one fun c => c == 'e' || c == 'E')
      let s ← sign
      let n : Int := valueOf 10 (← digits isDecimal)
      return if s = some '-' then -n else n)
    if fraction.isNone ∧ exponent.isNone then failure
    let fraction := fraction.getD []
    if s ≠ some '-' ∧
        !isFinite (valueOf 10 (whole ++ fraction)) (exponent.getD 0 - fraction.length) then
      failure
  let left ← get
  let text := start.take (start.length - left.length)
  return String.ofList (if s = some '+' then text.drop 1 else text)

/-- So many digits, for a number between two bounds. -/
def fixed (count low high : Nat) : Scan Nat := do
  let cs ← get
  let ds := cs.take count
  if ds.length < count ∨ ¬ ds.all isDecimal then failure
  set (cs.drop count)
  let n := valueOf 10 ds
  if n < low ∨ high < n then failure
  return n

/-- The number of days in a month. -/
def daysIn (year month : Nat) : Nat :=
  if month = 2 then
    if year % 4 = 0 ∧ (year % 100 ≠ 0 ∨ year % 400 = 0) then 29 else 28
  else if month ∈ [4, 6, 9, 11] then 30
  else 31

/-- Reads a date, whose day has to be one of its month. -/
def date : Scan Unit := do
  let year ← fixed 4 0 9999
  char '-'
  let month ← fixed 2 1 12
  char '-'
  discard (fixed 2 1 (daysIn year month))

/-- Reads a time of day, with parts of a second or without. -/
def time : Scan Unit := do
  discard (fixed 2 0 23)
  char ':'
  discard (fixed 2 0 59)
  char ':'
  discard (fixed 2 0 60)
  if (← peek) = some '.' then
    char '.'
    discard (one isDecimal)
    discard (takeAll isDecimal)

/-- Reads how far a time is from universal time. -/
def offset : Scan Unit := do
  match ← one fun c => c == 'Z' || c == 'z' || c == '+' || c == '-' with
  | 'Z' | 'z' => return ()
  | _ =>
    discard (fixed 2 0 23)
    char ':'
    discard (fixed 2 0 59)

/-- A date, a time, or both with perhaps an offset. -/
def dateTime : Scan String := do
  let start ← get
  (do
    date
    discard <| tryScan do
      discard (one fun c => c == 'T' || c == 't' || c == ' ')
      time
      let c ← peek
      if c ∈ [some 'Z', some 'z', some '+', some '-'] then offset) <|> time
  let left ← get
  return String.ofList (start.take (start.length - left.length))

end IngressRouting.Toml.Scan
