/-
Rules on the direction and the joining of the characters of a label.

In a domain name with a label that runs from right to left every label has to
keep to one direction. The characters that join or separate their neighbours
without being seen may stand only where this makes a difference.
-/
import IngressRouting.Idna.DirectionData
import IngressRouting.Idna.Normal

namespace IngressRouting.Idna

/-- The classes of characters by which the direction of a text is checked. -/
inductive Direction
  | leftToRight
  | rightToLeft
  | arabicLetter
  | arabicNumber
  | europeanNumber
  | europeanSeparator
  | commonSeparator
  | europeanTerminator
  | otherNeutral
  | boundaryNeutral
  | nonspacingMark
  | other
  deriving DecidableEq

/-- The class of a character. -/
def directionOf (c : Char) : Direction :=
  if rightToLeftRanges.contains c then .rightToLeft
  else if arabicLetterRanges.contains c then .arabicLetter
  else if arabicNumberRanges.contains c then .arabicNumber
  else if europeanNumberRanges.contains c then .europeanNumber
  else if europeanSeparatorRanges.contains c then .europeanSeparator
  else if commonSeparatorRanges.contains c then .commonSeparator
  else if europeanTerminatorRanges.contains c then .europeanTerminator
  else if otherNeutralRanges.contains c then .otherNeutral
  else if boundaryNeutralRanges.contains c then .boundaryNeutral
  else if nonspacingMarkRanges.contains c then .nonspacingMark
  else if c.toNat ≤ 0x20 then .other
  else .leftToRight

/-- Whether a character makes its domain name one of both directions. -/
def turnsAround (c : Char) : Bool :=
  !isAscii c && directionOf c ∈ [.rightToLeft, .arabicLetter, .arabicNumber]

/-- What may stand inside a label of either direction. -/
def neutral : List Direction :=
  [.europeanNumber, .europeanSeparator, .commonSeparator, .europeanTerminator, .otherNeutral,
    .boundaryNeutral, .nonspacingMark]

/-- Whether a label keeps to one direction: the one of its first character. -/
def keepsDirection (label : List Char) : Bool :=
  match label.map directionOf with
  | [] => true
  | first :: rest =>
    let ds := first :: rest
    let last := (ds.reverse.dropWhile (· = .nonspacingMark)).head?
    match first with
    | .leftToRight =>
      ds.all (fun d => d = .leftToRight || d ∈ neutral) &&
        last.all (· ∈ [.leftToRight, .europeanNumber])
    | .rightToLeft | .arabicLetter =>
      ds.all (fun d => d ∈ [.rightToLeft, .arabicLetter, .arabicNumber] || d ∈ neutral) &&
        last.all (· ∈ [.rightToLeft, .arabicLetter, .europeanNumber, .arabicNumber]) &&
        !(ds.contains .europeanNumber && ds.contains .arabicNumber)
    | _ => false

/-- Whether a character is a mark on the one before it. -/
def isMark (c : Char) : Bool := markRanges.contains c

/-- Whether the nearest character that is not transparent is in the ranges. -/
def nearest (cs : List Char) (p : Char → Bool) : Bool :=
  ((cs.dropWhile transparentRanges.contains).head?).any p

/-- Whether unseen joiners stand only where they may; `before` is the label so
far, backwards. -/
def joinersAllowed (before : List Char) : List Char → Bool
  | [] => true
  | c :: cs =>
    let afterVirama := before.head?.any (combiningClass · = 9)
    let allowed :=
      if c.toNat = 0x200D then afterVirama
      else if c.toNat = 0x200C then
        afterVirama ||
          (nearest before (fun d => joinsLeftRanges.contains d || joinsBothRanges.contains d) &&
            nearest cs (fun d => joinsRightRanges.contains d || joinsBothRanges.contains d))
      else true
    allowed && joinersAllowed (c :: before) cs

end IngressRouting.Idna
