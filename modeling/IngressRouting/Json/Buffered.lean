/-
Buffered values: JSON values held in memory until it is known what they should
be. Reading from a buffer fails without saying where.
-/
import IngressRouting.Json.Items

namespace IngressRouting.Json

/-- A JSON value that is held until its kind is known. -/
inductive Buffered
  | null
  | bool (b : Bool)
  | number (n : Number)
  | string (s : String)
  | list (items : List Buffered)
  | map (members : List (String × Buffered))

/-- Buffers the next value. -/
def Decoder.buffered : Nat → Decoder Buffered
  | 0 => failAhead .tooDeep
  | depth + 1 => placed do
    match ← peekPastBlank with
    | none => failAhead .endInValue
    | some 'n' => skip 1; restOfWord ['u', 'l', 'l']; return .null
    | some 't' => skip 1; restOfWord ['r', 'u', 'e']; return .bool true
    | some 'f' => skip 1; restOfWord ['a', 'l', 's', 'e']; return .bool false
    | some '"' => return .string (← quoted)
    | some '[' => return .list (← Decoder.list (allItems (buffered depth)))
    | some '\x7b' =>
      let members ← Decoder.object <| allMembers (fun ms key => do
        colon
        let v ← buffered depth
        return (key, v) :: ms) []
      return .map members.reverse
    | some c =>
      if c = '-' ∨ isDigit c then return .number (← number) else failAhead .expectedValue

namespace Buffered

/-- How a message calls a value. -/
def found : Buffered → Found
  | null => .null
  | bool b => .bool b
  | number n => n.found
  | string s => .string s
  | list _ => .sequence
  | map _ => .map

/-- A reader of buffered values. -/
abbrev Reader (α : Type) := Buffered → Except Reason α

/-- Refuses a value of another type than the one expected. -/
def wrongType {α : Type} (expected : String) (b : Buffered) : Except Reason α :=
  .error (.wrongType b.found expected)

/-- Takes a string. -/
def text : Reader String
  | string s => .ok s
  | b => b.wrongType "a string"

/-- A natural number below the limit. -/
def naturalBelow (limit : Nat) (expected : String) : Reader Nat
  | number (.natural n) =>
    if n < limit then .ok n else .error (.wrongValue (.natural n) expected)
  | number (.negative n) => .error (.wrongValue (.negative n) expected)
  | b => b.wrongType expected

/-- Takes a list, item by item. -/
def listOf {α : Type} (item : Reader α) : Reader (List α)
  | list items => items.mapM item
  | b => b.wrongType "a sequence"

/-- One of some named variants, by itself or as the only key of a map that has
nothing under it. -/
def variant {α : Type} (known : List (String × α)) : Reader α := fun b => do
  let named (name : String) : Except Reason α :=
    match known.find? (·.1 = name) with
    | some (_, a) => .ok a
    | none => .error (.unknownVariant name (known.map (·.1)))
  match b with
  | string name => named name
  | map [(name, v)] =>
    let a ← named name
    match v with
    | null => .ok a
    | map [] => .ok a
    | v => v.wrongType "unit"
  | map _ => .error (.wrongValue .map "map with a single key")
  | b => b.wrongType "string or map"

end Buffered

end IngressRouting.Json
