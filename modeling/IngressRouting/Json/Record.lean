/-
Reading records. A record is an object whose keys are its fields, in any order
and among others, or a list of its fields in order. A field given twice is an
error in an object; a field left out is one unless `build` has a default for it: while
a record is being filled, each field is kept as an option.
-/
import IngressRouting.Dict
import IngressRouting.Json.Buffered

namespace IngressRouting.Json

/-- A field of a record that is being filled, with a reader of kind `R`. -/
structure Field (R : Type → Type) (σ : Type) where
  name : String
  filled : σ → Bool
  read : R (σ → σ)

/-- How a record is read: its fields, filled one by one from `blank`, and what
is made of them. -/
structure Record (R : Type → Type) (σ α : Type) where
  /-- What the record is called in messages. -/
  title : String
  fields : List (Field R σ)
  blank : σ
  /-- The record, or the name of a field that is missing. -/
  build : σ → Except String α

/-- The text for `n` things of a kind. -/
def counted (n : Nat) (thing : String) : String :=
  toString n ++ " " ++ thing ++ (if n = 1 then "" else "s")

namespace Record

variable {R : Type → Type} {σ α : Type}

/-- The field of a name. -/
def field? (r : Record R σ α) (key : String) : Option (Field R σ) :=
  r.fields.find? (·.name = key)

/-- What a list of the fields is expected to be. -/
def listTitle (r : Record R σ α) : String :=
  r.title ++ " with " ++ counted r.fields.length "element"

/-- The record once an object has been read. -/
def finish (r : Record R σ α) (s : σ) : Except Reason α :=
  (r.build s).mapError .missingField

/-- The record once a list has been read, which is too short where a field is
missing. -/
def finishList (r : Record R σ α) (s : σ) : Except Reason α :=
  (r.build s).mapError fun name =>
    .wrongLength ((r.fields.findIdx? (·.name = name)).getD 0) r.listTitle

end Record

namespace Buffered

variable {σ α : Type}

/-- Fills the fields from the members of an object, in any order; others are passed over. -/
def fillMembers (r : Record Reader σ α) : σ → List (String × Buffered) → Except Reason σ
  | s, [] => .ok s
  | s, (key, v) :: ms =>
    match r.field? key with
    | none => fillMembers r s ms
    | some f =>
      if f.filled s then .error (.duplicateField key)
      else do
        let fill ← f.read v
        fillMembers r (fill s) ms

/-- Fills the fields with as many items; also gives the items left over. -/
def fillItems : List (Field Reader σ) → σ → List Buffered → Except Reason (σ × List Buffered)
  | f :: fs, s, v :: vs => do
    let fill ← f.read v
    fillItems fs (fill s) vs
  | _, s, vs => .ok (s, vs)

/-- Takes a record from the members of an object or the items of a list. -/
def record (r : Record Reader σ α) : Reader α
  | map ms => do r.finish (← fillMembers r r.blank ms)
  | list vs => do
    let (s, left) ← fillItems r.fields r.blank vs
    let a ← r.finishList s
    if left.isEmpty then return a
    else .error (.wrongLength vs.length (counted r.fields.length "element" ++ " in sequence"))
  | b => b.wrongType r.title

/-- A record without fields, for a variant that carries nothing. -/
def nothing {α : Type} (a : α) : Reader α
  | list [] => .ok a
  | list vs => .error (.wrongLength vs.length (counted 0 "element" ++ " in sequence"))
  | _ => .ok a

end Buffered

namespace Decoder

variable {σ α : Type}

/-- Fails as a value does that was held, without a place. -/
def lift (x : Except Reason α) : Decoder α :=
  match x with
  | .ok a => pure a
  | .error r => failUnplaced r

/-- Reads the members of an object into a record. -/
def recordMembers (r : Record Decoder σ α) : Decoder α := do
  let s ← allMembers (fun s key =>
    match r.field? key with
    | none => do
      colon
      passValue
      return s
    | some f =>
      if f.filled s then failUnplaced (.duplicateField key)
      else do
        colon
        let fill ← f.read
        return fill s) r.blank
  lift (r.finish s)

/-- Fills the fields from the items of a list, in order. -/
def fillItems : List (Field Decoder σ) → Bool → σ → Decoder σ
  | [], _, s => pure s
  | f :: fs, first, s => do
    if ← hasItem first then
      let fill ← f.read
      fillItems fs false (fill s)
    else return s

/-- Reads a record, from an object or from a list. -/
def record (r : Record Decoder σ α) : Decoder α := do
  match ← peekPastBlank with
  | none => failAhead .endInValue
  | some '[' => list do lift (r.finishList (← fillItems r.fields true r.blank))
  | some '\x7b' => object (recordMembers r)
  | some _ => wrongType r.title

/-- Reads a string. -/
def text : Decoder String := do
  match ← peekPastBlank with
  | none => failAhead .endInValue
  | some '"' => quoted
  | some _ => wrongType "a string"

/-- Reads a truth value. -/
def bool : Decoder Bool := do
  match ← peekPastBlank with
  | none => failAhead .endInValue
  | some 't' => skip 1; restOfWord ['r', 'u', 'e']; return true
  | some 'f' => skip 1; restOfWord ['a', 'l', 's', 'e']; return false
  | some _ => wrongType "a boolean"

/-- A natural number below the limit. -/
def naturalBelow (limit : Nat) (expected : String) : Decoder Nat := do
  match ← peekPastBlank with
  | none => failAhead .endInValue
  | some c =>
    if c = '-' ∨ isDigit c then placed do
      match ← number with
      | .natural n =>
        if n < limit then return n else failUnplaced (.wrongValue (.natural n) expected)
      | .negative n => failUnplaced (.wrongValue (.negative n) expected)
      | .float t => failUnplaced (.wrongType (.float t) expected)
    else wrongType expected

/-- Reads a number of 64 bits. -/
def uint64 : Decoder UInt64 := UInt64.ofNat <$> naturalBelow UInt64.size "u64"

/-- Reads a number of 32 bits. -/
def uint32 : Decoder UInt32 := UInt32.ofNat <$> naturalBelow UInt32.size "u32"

/-- Reads a number of 16 bits. -/
def uint16 : Decoder UInt16 := UInt16.ofNat <$> naturalBelow UInt16.size "u16"

/-- A value or null. -/
def optional (d : Decoder α) : Decoder (Option α) := do
  match ← peekPastBlank with
  | some 'n' => skip 1; restOfWord ['u', 'l', 'l']; return none
  | _ => some <$> d

/-- Reads a list, item by item. -/
def listOf (item : Decoder α) : Decoder (List α) := do
  match ← peekPastBlank with
  | none => failAhead .endInValue
  | some '[' => list (allItems item)
  | some _ => wrongType "a sequence"

/-- A map with any keys. The last value of a key counts. -/
def dictOf (value : Decoder α) : Decoder (Dict α) := do
  match ← peekPastBlank with
  | none => failAhead .endInValue
  | some '\x7b' => object (allMembers (fun d key => do
      colon
      return d.insert key (← value)) ∅)
  | some _ => wrongType "a map"

/-- The name of a variant. -/
def variantName (known : List (String × α)) : Decoder α := do
  match ← peekPastBlank with
  | none => failAhead .endInValue
  | some '"' => placed do
    let name ← quoted
    match known.find? (·.1 = name) with
    | some (_, a) => return a
    | none => failUnplaced (.unknownVariant name (known.map (·.1)))
  | some _ => wrongType "variant identifier"

/-- Makes sure that the name of a variant follows as the key of an object. -/
def variantKey : Decoder Unit := do
  match ← peekPastBlank with
  | none => failAhead .endInObject
  | some '"' => pure ()
  | some '\x7d' => failAhead .expectedValue
  | some _ => failAhead .keyNotString

/-- One of some named variants, by itself or as the only key of an object, with
null under it. -/
def variant (known : List (String × α)) : Decoder α := do
  match ← peekPastBlank with
  | none => failAhead .endInValue
  | some '"' => variantName known
  | some '\x7b' =>
    let a ← inside do
      variantKey
      let a ← variantName known
      colon
      match ← peekPastBlank with
      | none => failAhead .endInValue
      | some 'n' => skip 1; restOfWord ['u', 'l', 'l']
      | some _ => wrongType "unit"
      return a
    match ← peekPastBlank with
    | none => failHere .endInObject
    | some '\x7d' => skip 1
    | some _ => failHere .expectedValue
    return a
  | some _ => failAhead .expectedValue

/-- The deepest that a buffered value can be nested. -/
def bufferDepth : Nat := 128

/-- A record of one of several kinds. The kind is the value of the key `tag`,
or the first item of a list; it says how to read the rest, which is buffered
until the kind is known. -/
def tagged (title tag : String) (known : List (String × Buffered.Reader α)) : Decoder α := do
  let (read, content) ← match ← peekPastBlank with
    | none => failAhead .endInValue
    | some '\x7b' => object do
      let (kind, ms) ← allMembers (fun ((kind, ms) :
          Option (Buffered.Reader α) × List (String × Buffered)) key =>
        if key = tag then do
          if kind.isSome then failUnplaced (.duplicateField tag)
          colon
          return (some (← variantName known), ms)
        else do
          colon
          let v ← buffered bufferDepth
          return (kind, (key, v) :: ms)) (none, [])
      match kind with
      | none => failUnplaced (.missingField tag)
      | some read => return (read, Buffered.map ms.reverse)
    | some '[' => list do
      if ← hasItem true then
        let read ← variantName known
        let vs ← items (buffered bufferDepth) ((← get).rest.length + 1) false
        return (read, Buffered.list vs)
      else failUnplaced (.missingField tag)
    | some _ => wrongType ("internally tagged enum " ++ title)
  lift (read content)

end Decoder

/-- Reads a text that holds one value and nothing else. -/
def decode {α : Type} (d : Decoder α) (text : String) : Except Error α :=
  let whole : Decoder α := do
    let a ← d
    match ← Decoder.peekPastBlank with
    | none => return a
    | some _ => Decoder.failAhead .trailingCharacters
  match whole (.start text) with
  | .ok a _ => .ok a
  | .error e _ => .error e

variable {σ α : Type}

/-- A field that is read off a text. -/
def Field.ofDecoder (name : String) (get : σ → Option α) (set : α → σ → σ) (d : Decoder α) :
    Field Decoder σ :=
  ⟨name, fun s => (get s).isSome, set <$> d⟩

/-- A field that is taken from a value that was held. -/
def Field.ofReader (name : String) (get : σ → Option α) (set : α → σ → σ)
    (r : Buffered.Reader α) : Field Buffered.Reader σ :=
  ⟨name, fun s => (get s).isSome, fun b => (r b).map set⟩

/-- The value of a field that has no default. -/
def required (name : String) : Option α → Except String α
  | some a => .ok a
  | none => .error name

end IngressRouting.Json
