/-
IP addresses as hosts of URLs, and why a text is no URL.

An IPv4 address may have fewer than four numbers; the last one fills the bytes that
are left, and a number may be octal or hexadecimal. An IPv6 address is eight pieces of
four hexadecimal digits: one run of zero pieces may be left out, and the last two
pieces may be written as an IPv4 address.
-/
import IngressRouting.Text.Cut
import IngressRouting.Unicode.Ranges

namespace IngressRouting.Url

/-! ## Errors -/

/-- Why a text is no URL. -/
inductive Error
  | emptyHost
  | badDomain
  | badPort
  | badIpv4
  | badIpv6
  | badOpaqueHost
  | relativeWithoutBase
  deriving DecidableEq, Repr

/-- The wording of an error. -/
def Error.message : Error → String
  | emptyHost => "empty host"
  | badDomain => "invalid international domain name"
  | badPort => "invalid port number"
  | badIpv4 => "invalid IPv4 address"
  | badIpv6 => "invalid IPv6 address"
  | badOpaqueHost => "invalid domain character"
  | relativeWithoutBase => "relative URL without a base"

/-! ## IPv4 addresses -/

/-- The number whose digits in a base these are. -/
def readDigits? (base : Nat) : Nat → List Char → Option Nat
  | n, [] => some n
  | n, c :: cs =>
    match Unicode.hexDigit? c with
    | some d => if d < base then readDigits? base (base * n + d) cs else none
    | none => none

/-- A number of any size, decimal, octal after `0` or hexadecimal after `0x`. -/
def ipv4Number? : List Char → Option Nat
  | [] => none
  | '0' :: 'x' :: r => readDigits? 16 0 r
  | '0' :: 'X' :: r => readDigits? 16 0 r
  | '0' :: c :: r => readDigits? 8 0 (c :: r)
  | cs => readDigits? 10 0 cs

/-- The parts of a domain name, without an empty one at the end. -/
def domainParts (cs : List Char) : List (List Char) :=
  let parts := splitList '.' cs
  if parts.getLast? = some [] then parts.dropLast else parts

/-- Whether a domain name is to be read as an IPv4 address: its last part is a
number, or looks like one. -/
def endsInNumber (cs : List Char) : Bool :=
  match (domainParts cs).getLast? with
  | none => false
  | some part =>
    (!part.isEmpty && part.all fun c => '0' ≤ c && c ≤ '9') || (ipv4Number? part).isSome

/-- The bytes in front, worth most first, and the number that fills the rest. -/
def ipv4Value : Nat → List Nat → Nat
  | _, [] => 0
  | _, [n] => n
  | place, n :: ns => n * Nat.pow 256 place + ipv4Value (place - 1) ns

/-- Reads an IPv4 address, of at most four numbers that fit their bytes. -/
def parseIpv4 (cs : List Char) : Except Error Nat :=
  match (domainParts cs).mapM ipv4Number? with
  | none => .error .badIpv4
  | some ns =>
    if 4 < ns.length ∨ ns.dropLast.any (255 < ·) ∨
        Nat.pow 256 (5 - ns.length) ≤ ns.getLast?.getD 0 then .error .badIpv4
    else .ok (ipv4Value 3 ns)

/-! ## IPv6 addresses -/

/-- A byte in decimal digits without leading zeros. -/
def byte? (cs : List Char) : Option Nat :=
  if cs = [] ∨ ¬ cs.all (fun c => '0' ≤ c && c ≤ '9') ∨ (1 < cs.length ∧ cs.head? = some '0') then
    none
  else
    let n := cs.foldl (fun n c => 10 * n + (c.toNat - 48)) 0
    if n ≤ 255 then some n else none

/-- The two pieces that an IPv4 address stands for. -/
def ipv4Pieces? (cs : List Char) : Option (List Nat) := do
  let [a, b, c, d] ← (splitList '.' cs).mapM byte? | none
  return [a * 256 + b, c * 256 + d]

/-- The value of hexadecimal digits. -/
def hexValue (cs : List Char) : Nat :=
  cs.foldl (fun n c => 16 * n + (Unicode.hexDigit? c).getD 0) 0

/-- An address as far as it is read: its pieces, and the position of the piece
behind which others are left out. -/
structure Pieces where
  pieces : List Nat
  gap : Option Nat

/-- Reads pieces up to the end. Each step reads a character. -/
def readPieces? : Nat → List Char → Pieces → Option Pieces
  | _, [], p => some p
  | 0, _, _ => none
  | fuel + 1, cs, p =>
    if p.pieces.length = 8 then none
    else match cs with
      | ':' :: r =>
        if p.gap.isSome then none
        else readPieces? fuel r ⟨p.pieces ++ [0], some (p.pieces.length + 1)⟩
      | cs =>
        let n := min 4 (cs.takeWhile fun c => (Unicode.hexDigit? c).isSome).length
        let p' : Pieces := ⟨p.pieces ++ [hexValue (cs.take n)], p.gap⟩
        match cs.drop n with
        | [] => some p'
        | ':' :: [] => none
        | ':' :: r => if n = 0 then none else readPieces? fuel r p'
        | '.' :: _ =>
          if n = 0 ∨ 6 < p.pieces.length then none
          else (ipv4Pieces? cs).map fun two => ⟨p.pieces ++ two, p.gap⟩
        | _ => none

/-- All eight pieces, with zeros for those left out. -/
def Pieces.fill? (p : Pieces) : Option (List Nat) :=
  match p.gap with
  | none => if p.pieces.length = 8 then some p.pieces else none
  | some g =>
    some (p.pieces.take g ++ List.replicate (8 - p.pieces.length) 0 ++ p.pieces.drop g)

/-- Reads an address without its brackets. -/
def parseIpv6 (cs : List Char) : Except Error (List Nat) :=
  let start : Option (List Char × Pieces) :=
    match cs with
    | [] => none
    | [_] => none
    | ':' :: ':' :: r => some (r, ⟨[0], some 1⟩)
    | ':' :: _ => none
    | cs => some (cs, ⟨[], none⟩)
  match start.bind fun (cs, p) => (readPieces? cs.length cs p).bind Pieces.fill? with
  | some pieces => .ok pieces
  | none => .error .badIpv6

end IngressRouting.Url
