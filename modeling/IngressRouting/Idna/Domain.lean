/-
Internationalised domain names in their ASCII form. A name is mapped, brought
into normal form and cut at the dots; each label is checked, and a label beyond
ASCII is encoded. A name in ASCII without encoded labels is only put into lower
case and checked for characters that no host may have.
-/
import IngressRouting.Idna.Direction
import IngressRouting.Idna.Punycode
import IngressRouting.Text.Cut

namespace IngressRouting.Idna

/-- ASCII characters that no host may have: controls, the space and
delimiters. -/
def isForbidden (c : Char) : Bool :=
  isAscii c && (c.toNat ≤ 0x20 || c.toNat = 0x7F || "%#/:<>?@[\\]^|".toList.contains c)

/-- What encoded labels begin with. -/
def encodedStart : List Char := "xn--".toList

/-- How long an encoded label may be behind its start. -/
def encodedLimit : Nat := 2000

/-- How long a label beyond ASCII may be, whether or not it came encoded. -/
def labelLimit : Nat := 1000

/-- A label, and the text that it stands for. -/
structure Label where
  ascii : List Char
  text : List Char

/-- Whether a label beyond ASCII may stand in a domain name. -/
def acceptable (label : List Char) : Bool :=
  !(label.head?.any isMark) && joinersAllowed [] label

/-- Reads one label of a mapped name. -/
def readLabel? (label : List Char) : Option Label :=
  if encodedStart.isPrefixOf label then
    if label.all isAscii && label.length ≤ encodedStart.length + encodedLimit then do
      let text ← Punycode.decode? (label.drop encodedStart.length)
      if text.all isAscii || labelLimit < text.length then none
      if text.all isValid && normalize text = text && acceptable text then
        return ⟨label, text⟩
      else none
    else none
  else if label.all isAscii then some ⟨label, label⟩
  else if label.length ≤ labelLimit && acceptable label then
    some ⟨encodedStart ++ Punycode.encode label, label⟩
  else none

/-- Whether the labels keep to one direction, as they have to where one of them
runs from right to left. -/
def directionsAgree (labels : List Label) : Bool :=
  !(labels.any fun l => l.text.any turnsAround) || labels.all fun l => keepsDirection l.text

/-- The ASCII form of a domain name; nothing where it is not allowed. -/
def toAscii? (cs : List Char) : Option (List Char) := do
  let mapped := normalize (← mapChars cs)
  if mapped.any isForbidden then none
  let labels ← (splitList '.' mapped).mapM readLabel?
  if directionsAgree labels then
    return ['.'].intercalate (labels.map (·.ascii))
  else none

end IngressRouting.Idna
