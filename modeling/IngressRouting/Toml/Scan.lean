/-
Scanning TOML text: blanks, comments, keys and strings. A scan either reads
something off the front of the text or fails; there is one way to fail.
-/
import IngressRouting.Toml.Value
import IngressRouting.Unicode.Ranges

namespace IngressRouting.Toml

/-- Reads a value off the front of a text, or fails. -/
abbrev Scan := StateT (List Char) Option

namespace Scan

/-- The next character, if there is one. -/
def peek : Scan (Option Char) := return (← get).head?

/-- Reads the next character if it passes. -/
def one (p : Char → Bool) : Scan Char := do
  match ← get with
  | c :: cs => if p c then set cs; return c else failure
  | [] => failure

/-- Reads a certain character. -/
def char (c : Char) : Scan Unit := discard (one (· = c))

/-- Reads certain characters. -/
def chars (cs : List Char) : Scan Unit := cs.forM char

/-- Reads characters for as long as they pass. -/
def takeAll (p : Char → Bool) : Scan (List Char) := do
  let cs ← get
  set (cs.dropWhile p)
  return cs.takeWhile p

/-- Reads as often as possible, up to a bound. -/
def upTo {α : Type} : Nat → Scan α → Scan (List α)
  | 0, _ => return []
  | n + 1, s => (do
      let a ← s
      return a :: (← upTo n s)) <|> return []

/-- Reads as often as possible, each time at least one character. -/
def many {α : Type} (s : Scan α) : Scan (List α) := do
  upTo (← get).length s

/-- Reads what can be read, or nothing. -/
def tryScan {α : Type} (s : Scan α) : Scan (Option α) := some <$> s <|> return none

/-- Spaces and tabs. -/
def blanks : Scan Unit := discard (takeAll fun c => c == ' ' || c == '\t')

/-- Reads the end of a line. -/
def newline : Scan Unit := char '\n' <|> chars ['\r', '\n']

/-- What may stand in a comment: anything but controls, and tabs. -/
def isTextChar (c : Char) : Bool := c == '\t' || (0x20 ≤ c.toNat && c.toNat != 0x7F)

/-- A comment without the end of its line. -/
def comment : Scan Unit := do
  char '#'
  discard (takeAll isTextChar)

/-- The end of a line, or of the text. -/
def lineEnd : Scan Unit := do
  match ← peek with
  | none => return ()
  | some _ => newline

/-- What may follow on a line. -/
def restOfLine : Scan Unit := do
  blanks
  if (← peek) = some '#' then comment
  lineEnd

/-- Blanks, line ends and comments. -/
def space : Scan Unit := do
  blanks
  discard <| many (do
    newline <|> (do comment; newline)
    blanks)

/-- A character given by so many hexadecimal digits. -/
def unicodeEscape (digits : Nat) : Scan Char := do
  let cs ← get
  let ds := cs.take digits
  if ds.length < digits then failure
  let ns ← ds.mapM (fun d => (Unicode.hexDigit? d : Option Nat))
  let n := ns.foldl (fun n d => 16 * n + d) 0
  set (cs.drop digits)
  if 0x10FFFF < n ∨ (0xD800 ≤ n ∧ n ≤ 0xDFFF) then failure
  return Char.ofNat n

/-- The character that an escape stands for, from behind its backslash. -/
def escape : Scan Char := do
  match ← one fun _ => true with
  | 'b' => return '\x08'
  | 't' => return '\t'
  | 'n' => return '\n'
  | 'f' => return '\x0c'
  | 'r' => return '\r'
  | '"' => return '"'
  | '\\' => return '\\'
  | 'u' => unicodeEscape 4
  | 'U' => unicodeEscape 8
  | _ => failure

/-- A string between double quotes. -/
def basicString : Scan String := do
  char '"'
  let cs ← many (do
    match ← one fun c => isTextChar c && c != '"' with
    | '\\' => escape
    | c => return c)
  char '"'
  return String.ofList cs

/-- A string between single quotes, which has no escapes. -/
def literalString : Scan String := do
  char '\''
  let cs ← takeAll fun c => isTextChar c && c != '\''
  char '\''
  return String.ofList cs

/-- The end of a string between three quotes, which may have one or two of them
right before it; they belong to the string. -/
def closeThree (quote : Char) : Scan (List Char) := do
  let qs ← upTo 5 (one (· = quote))
  if qs.length < 3 then failure
  return qs.drop 3

/-- One or two quotes inside a string between three of them. -/
def innerQuotes (quote : Char) : Scan (List Char) := do
  let qs ← takeAll (· = quote)
  if qs.isEmpty ∨ 2 < qs.length then failure
  return qs

/-- A backslash at the end of a line, and the blanks and line ends after it. -/
def continuation : Scan (List Char) := do
  char '\\'
  blanks
  newline
  discard (many (discard (one fun c => c == ' ' || c == '\t') <|> newline))
  return []

/-- A string between three quotes; a line end right after the first ones is
left out. -/
def threeQuoted (quote : Char) (piece : Scan (List Char)) : Scan String := do
  chars [quote, quote, quote]
  discard (tryScan newline)
  let body ← many (innerQuotes quote <|> (do newline; return ['\n']) <|> piece)
  let extra ← closeThree quote
  return String.ofList (body.flatten ++ extra)

/-- Reads a string between three quotes, with escapes. -/
def longBasicString : Scan String :=
  threeQuoted '"' (continuation <|> do
    match ← one fun c => isTextChar c && c != '"' with
    | '\\' => return [← escape]
    | c => return [c])

/-- Reads a string between three apostrophes, as it stands. -/
def longLiteralString : Scan String :=
  threeQuoted '\'' (do return [← one fun c => isTextChar c && c != '\''])

/-- Whether a character may stand in a key without quotes. -/
def isBareKeyChar (c : Char) : Bool :=
  ('a' ≤ c && c ≤ 'z') || ('A' ≤ c && c ≤ 'Z') || ('0' ≤ c && c ≤ '9') || c == '-' || c == '_'

/-- Reads one part of a key. -/
def simpleKey : Scan String := do
  match ← peek with
  | some '"' => basicString
  | some '\'' => literalString
  | _ =>
    let cs ← takeAll isBareKeyChar
    if cs.isEmpty then failure
    return String.ofList cs

/-- How many parts a dotted key may have, and how deep values may be nested. -/
def depthLimit : Nat := 80

/-- A dotted key: the way to its last part, and that part. -/
def key : Scan (List String × String) := do
  let part : Scan String := do
    blanks
    let k ← simpleKey
    blanks
    return k
  let first ← part
  let rest ← many (do char '.'; part)
  let parts := first :: rest
  if depthLimit ≤ parts.length then failure
  return (parts.dropLast, parts.getLast?.getD first)

end Scan

end IngressRouting.Toml
