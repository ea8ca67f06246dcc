/-
JSON values and their two written forms: on one line without blanks, and
indented by two spaces. Characters other than quotes, backslashes and controls
are written as they are.
-/
namespace IngressRouting.Json

/-- A JSON value, as far as there is need to write one. -/
inductive Value
  | null
  | bool (b : Bool)
  | number (n : Nat)
  | string (s : String)
  | list (items : List Value)
  | object (members : List (String × Value))

namespace Value

/-- The hexadecimal digit of a number below sixteen. -/
def hexDigit (n : Nat) : Char := Nat.digitChar n

/-- A character inside a string. -/
def writeChar (c : Char) : List Char :=
  match c with
  | '"' => ['\\', '"']
  | '\\' => ['\\', '\\']
  | '\x08' => ['\\', 'b']
  | '\x0c' => ['\\', 'f']
  | '\n' => ['\\', 'n']
  | '\r' => ['\\', 'r']
  | '\t' => ['\\', 't']
  | c =>
    if c.toNat < 0x20 then ['\\', 'u', '0', '0', hexDigit (c.toNat / 16), hexDigit (c.toNat % 16)]
    else [c]

/-- Writes a string between quotes. -/
def writeString (s : String) : List Char := '"' :: s.toList.flatMap writeChar ++ ['"']

/-- Writes a truth value. -/
def writeBool (b : Bool) : List Char := if b then ['t', 'r', 'u', 'e'] else ['f', 'a', 'l', 's', 'e']

/-- Writes a number in decimal digits. -/
def writeNumber (n : Nat) : List Char := Nat.toDigits 10 n

mutual

/-- Writes a value without white space. -/
def writeCompact : Value → List Char
  | null => ['n', 'u', 'l', 'l']
  | bool b => writeBool b
  | number n => writeNumber n
  | string s => writeString s
  | list vs => '[' :: writeItems vs ++ [']']
  | object ms => '\x7b' :: writeMembers ms ++ ['\x7d']

/-- Writes items with commas between them. -/
def writeItems : List Value → List Char
  | [] => []
  | [v] => writeCompact v
  | v :: vs => writeCompact v ++ ',' :: writeItems vs

/-- Writes members with commas between them. -/
def writeMembers : List (String × Value) → List Char
  | [] => []
  | [(k, v)] => writeString k ++ ':' :: writeCompact v
  | (k, v) :: ms => writeString k ++ ':' :: writeCompact v ++ ',' :: writeMembers ms

end

/-- A line end and the indent of a level. -/
def newLine (level : Nat) : List Char := '\n' :: List.replicate (2 * level) ' '

mutual

/-- Writes a value over several lines, indented by its level. -/
def writePretty (level : Nat) : Value → List Char
  | null => ['n', 'u', 'l', 'l']
  | bool b => writeBool b
  | number n => writeNumber n
  | string s => writeString s
  | list [] => ['[', ']']
  | list (v :: vs) => '[' :: writePrettyItems (level + 1) (v :: vs) ++ newLine level ++ [']']
  | object [] => ['\x7b', '\x7d']
  | object (m :: ms) =>
    '\x7b' :: writePrettyMembers (level + 1) (m :: ms) ++ newLine level ++ ['\x7d']

/-- Writes items on a line each. -/
def writePrettyItems (level : Nat) : List Value → List Char
  | [] => []
  | [v] => newLine level ++ writePretty level v
  | v :: vs => newLine level ++ writePretty level v ++ ',' :: writePrettyItems level vs

/-- Writes members on a line each. -/
def writePrettyMembers (level : Nat) : List (String × Value) → List Char
  | [] => []
  | [(k, v)] => newLine level ++ writeString k ++ [':', ' '] ++ writePretty level v
  | (k, v) :: ms =>
    newLine level ++ writeString k ++ [':', ' '] ++ writePretty level v ++
      ',' :: writePrettyMembers level ms

end

/-- The text of a value on one line. -/
def compact (v : Value) : String := String.ofList v.writeCompact

/-- The text of a value over several lines. -/
def pretty (v : Value) : String := String.ofList (v.writePretty 0)

end Value

end IngressRouting.Json
