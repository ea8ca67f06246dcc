/-
TOML documents: lines that set a key or open a table.
-/
import IngressRouting.Toml.Number

namespace IngressRouting.Toml

namespace Scan

/-- A value without values inside. -/
def plainValue : Scan Value := do
  match ← get with
  | '"' :: '"' :: '"' :: _ => return .string (← longBasicString)
  | '"' :: _ => return .string (← basicString)
  | '\'' :: '\'' :: '\'' :: _ => return .string (← longLiteralString)
  | '\'' :: _ => return .string (← literalString)
  | 't' :: _ => chars ['t', 'r', 'u', 'e']; return .bool true
  | 'f' :: _ => chars ['f', 'a', 'l', 's', 'e']; return .bool false
  | _ => (.dateTime <$> dateTime) <|> (.float <$> float) <|> (.integer <$> integer)

/-- Values between square brackets; a comma may follow the last one. -/
def array (value : Scan Value) : Scan Value := do
  char '['
  let item : Scan Value := do
    space
    let v ← value
    space
    return v
  let items ← tryScan (do
    let first ← item
    let rest ← many (do char ','; item)
    discard (tryScan (char ','))
    return first :: rest)
  space
  char ']'
  return .array (items.getD [])

/-- Keys and values between braces. -/
def inlineTable (value : Scan Value) : Scan Value := do
  char '\x7b'
  let member : Scan ((List String × String) × Value) := do
    let k ← key
    char '='
    blanks
    let v ← value
    blanks
    return (k, v)
  let members ← tryScan (do
    let first ← member
    let rest ← many (do char ','; member)
    return first :: rest)
  blanks
  char '\x7d'
  let entries ← (members.getD []).foldlM
    (fun (es : Entries) ((path, k), v) => (es.add path k v .defined : Option Entries)) []
  return .table (entriesToValues entries)

/-- A value; arrays and inline tables may be nested as deep as the bound. -/
def value : Nat → Scan Value
  | 0 => plainValue
  | depth + 1 => array (value depth) <|> inlineTable (value depth) <|> plainValue

/-- Opens a table by its header; also gives the path of the header. -/
def header (es : Entries) : Scan (List String × Entries) := do
  char '['
  let double ← tryScan (char '[')
  let (path, k) ← key
  char ']'
  if double.isSome then char ']'
  restOfLine
  let es ← (if double.isSome then es.extend path k else es.define path k : Option Entries)
  return (path ++ [k], es)

/-- Sets a key in the table of the current header. -/
def setting (current : List String) (es : Entries) : Scan Entries := do
  let (path, k) ← key
  char '='
  blanks
  let v ← value (depthLimit - 1)
  restOfLine
  (es.addAt current path k v : Option Entries)

/-- Reads lines to the end. Every line that is read has a character. -/
def lines : Nat → List String → Entries → Scan Entries
  | 0, _, _ => failure
  | fuel + 1, current, es => do
    blanks
    match ← peek with
    | none => return es
    | some '#' => comment; lineEnd; lines fuel current es
    | some '[' =>
      let (current, es) ← header es
      lines fuel current es
    | some c =>
      if c = '\n' ∨ c = '\r' then newline; lines fuel current es
      else lines fuel current (← setting current es)

end Scan

/-- Reads a document. A byte order mark in front is left out. -/
def parse (s : String) : Option (List (String × Value)) :=
  let cs := match s.toList with
    | '\uFEFF' :: cs => cs
    | cs => cs
  ((Scan.lines (cs.length + 1) [] []).run cs).map fun (es, _) => entriesToValues es

end IngressRouting.Toml
