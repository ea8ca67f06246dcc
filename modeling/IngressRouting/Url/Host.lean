/-
Hosts of URLs. A host of a web scheme is a domain name, or an address where it
looks like one; a host of any other scheme is taken as it is. In a domain name `%` and
two hexadecimal digits stand for a byte.
-/
import IngressRouting.Idna.Domain
import IngressRouting.Unicode.Ranges
import IngressRouting.Url.Address

namespace IngressRouting.Url

/-- Bytes with those that are percent-encoded in their place. -/
def percentBytes : List UInt8 → List UInt8
  | 0x25 :: a :: b :: r =>
    match Unicode.hexDigit? (Char.ofNat a.toNat), Unicode.hexDigit? (Char.ofNat b.toNat) with
    | some x, some y => UInt8.ofNat (16 * x + y) :: percentBytes r
    | _, _ => 0x25 :: percentBytes (a :: b :: r)
  | c :: r => c :: percentBytes r
  | [] => []

/-- The text that a percent-encoded text stands for; nothing where its bytes
are no text. -/
def percentDecode? (cs : List Char) : Option (List Char) :=
  if '%' ∈ cs then
    (String.fromUTF8? ⟨(percentBytes (String.ofList cs).toUTF8.toList).toArray⟩).map String.toList
  else some cs

/-- The host of a URL. -/
inductive Host
  | domain (name : String)
  | ipv4 (address : Nat)
  | ipv6 (pieces : List Nat)
  | opaqueName (text : String)
  deriving DecidableEq, Repr

namespace Host

/-- An address in brackets. -/
def parseBracketed (cs : List Char) : Except Error Host :=
  if cs.getLast? = some ']' then (parseIpv6 cs.dropLast).map ipv6 else .error .badIpv6

/-- Reads the host of a web scheme. -/
def parse : List Char → Except Error Host
  | '[' :: cs => parseBracketed cs
  | cs =>
    match (percentDecode? cs).bind Idna.toAscii? with
    | none => .error .badDomain
    | some name =>
      if name = [] then .error .emptyHost
      else if endsInNumber name then (parseIpv4 name).map ipv4
      else .ok (domain (String.ofList name))

/-- Characters that end a host or that no host may have. -/
def isForbiddenOpaque (c : Char) : Bool :=
  "\x00\t\n\r #/:<>?@[\\]^|".toList.contains c

/-- Reads the host of any other scheme, which may be empty. -/
def parseOpaque : List Char → Except Error Host
  | '[' :: cs => parseBracketed cs
  | cs =>
    if cs.any isForbiddenOpaque then .error .badOpaqueHost
    else .ok (opaqueName (String.ofList cs))

end Host

end IngressRouting.Url
