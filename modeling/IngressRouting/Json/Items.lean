/-
The items of lists and objects, and values of a wrong kind.
-/
import IngressRouting.Json.Pass

namespace IngressRouting.Json.Decoder

/-- Whether another item of a list follows; moves past the comma before it. -/
def hasItem (first : Bool) : Decoder Bool := do
  match ← peekPastBlank with
  | none => failAhead .endInList
  | some ']' => return false
  | some c =>
    if first then return true
    if c ≠ ',' then failAhead .expectedListEnd
    skip 1
    match ← peekPastBlank with
    | none => failAhead .endInValue
    | some ']' => failAhead .trailingComma
    | some _ => return true

/-- Whether another key of an object follows; moves past the comma before it. -/
def hasKey (first : Bool) : Decoder Bool := do
  match ← peekPastBlank with
  | none => failAhead .endInObject
  | some '\x7d' => return false
  | some c =>
    if first then
      if c = '"' then return true else failAhead .keyNotString
    if c ≠ ',' then failAhead .expectedObjectEnd
    skip 1
    match ← peekPastBlank with
    | none => failAhead .endInValue
    | some '"' => return true
    | some '\x7d' => failAhead .trailingComma
    | some _ => failAhead .keyNotString

/-- Reads the end of a list. -/
def endList : Decoder Unit := do
  match ← peekPastBlank with
  | none => failAhead .endInList
  | some ']' => skip 1
  | some ',' =>
    skip 1
    match ← peekPastBlank with
    | some ']' => failAhead .trailingComma
    | _ => failAhead .trailingCharacters
  | some _ => failAhead .trailingCharacters

/-- Reads the end of an object. -/
def endObject : Decoder Unit := do
  match ← peekPastBlank with
  | none => failAhead .endInObject
  | some '\x7d' => skip 1
  | some ',' => failAhead .trailingComma
  | some _ => failAhead .trailingCharacters

/-- Reads the colon behind a key. -/
def colon : Decoder Unit := do
  match ← peekPastBlank with
  | none => failAhead .endInObject
  | some ':' => skip 1
  | some _ => failAhead .expectedColon

/-- A list from its opening bracket on, its items read by `body`. -/
def list {α : Type} (body : Decoder α) : Decoder α :=
  placed (closedBy (inside body) endList)

/-- An object from its opening brace on, its members read by `body`. -/
def object {α : Type} (body : Decoder α) : Decoder α :=
  placed (closedBy (inside body) endObject)

/-- The items of a list, each read by `item`. -/
def items {α : Type} (item : Decoder α) : Nat → Bool → Decoder (List α)
  | 0, _ => failAhead .expectedValue
  | fuel + 1, first => do
    if ← hasItem first then
      let a ← item
      return a :: (← items item fuel false)
    else return []

/-- The members of an object; `member` reads one from the colon on. -/
def members {σ : Type} (member : σ → String → Decoder σ) : Nat → Bool → σ → Decoder σ
  | 0, _, _ => failAhead .expectedValue
  | fuel + 1, first, s => do
    if ← hasKey first then
      let key ← quoted
      let s ← member s key
      members member fuel false s
    else return s

/-- Every item reads a character, so the rest of the text bounds their number. -/
def allItems {α : Type} (item : Decoder α) : Decoder (List α) := do
  items item ((← get).rest.length + 1) true

/-- Reads the members of an object up to its end, each into the state so far. -/
def allMembers {σ : Type} (member : σ → String → Decoder σ) (s : σ) : Decoder σ := do
  members member ((← get).rest.length + 1) true s

/-- Reads a value of a wrong kind, as far as it takes to name it, and fails. -/
def wrongType {α : Type} (expected : String) : Decoder α := placed do
  match ← peek with
  | some 'n' => skip 1; restOfWord ['u', 'l', 'l']; failUnplaced (.wrongType .null expected)
  | some 't' =>
    skip 1; restOfWord ['r', 'u', 'e']; failUnplaced (.wrongType (.bool true) expected)
  | some 'f' =>
    skip 1; restOfWord ['a', 'l', 's', 'e']; failUnplaced (.wrongType (.bool false) expected)
  | some '"' =>
    let s ← quoted
    failUnplaced (.wrongType (.string s) expected)
  | some '[' => failUnplaced (.wrongType .sequence expected)
  | some '\x7b' => failUnplaced (.wrongType .map expected)
  | some c =>
    if c = '-' ∨ isDigit c then
      let n ← number
      failUnplaced (.wrongType n.found expected)
    else failAhead .expectedValue
  | none => failAhead .expectedValue

end IngressRouting.Json.Decoder
