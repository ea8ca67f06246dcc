/-
URLs, read as browsers read them: blanks at the ends and line ends and tabs
anywhere are ignored, and a backslash counts as a slash in the schemes of the
web. What follows the authority is kept as it was written.

`Url.parse` reads a URL by itself, `Url.parseAt` one that may be relative to
the top of an origin.
-/
import IngressRouting.Url.Host

namespace IngressRouting

/-- A URL in its parts. -/
structure Url where
  scheme : String
  username : String
  password : Option String
  host : Option Url.Host
  /-- The port where it is not the usual one of the scheme. -/
  port : Option Nat
  path : String
  query : Option String
  fragment : Option String
  deriving DecidableEq, Repr

namespace Url

/-- The schemes of the web, with the ports that need not be written. -/
def webSchemes : List (String × Nat) :=
  [("http", 80), ("https", 443), ("ws", 80), ("wss", 443), ("ftp", 21)]

/-- How the text behind a scheme is read. -/
inductive SchemeClass
  | web
  | file
  | other
  deriving DecidableEq

/-- How the text behind a scheme is read. -/
def classOf (scheme : String) : SchemeClass :=
  if scheme = "file" then .file
  else if webSchemes.any (·.1 = scheme) then .web
  else .other

/-- A scheme, a host and a port, at which relative texts are read. -/
structure Origin where
  scheme : String
  host : Host
  port : Option Nat
  deriving DecidableEq, Repr

/-- The URL of the top of an origin. -/
def Origin.toUrl (o : Origin) : Url :=
  { scheme := o.scheme, username := "", password := none, host := some o.host, port := o.port,
    path := "/", query := none, fragment := none }

/-- Whether a character is an ASCII letter. -/
def isAsciiLetter (c : Char) : Bool := ('a' ≤ c && c ≤ 'z') || ('A' ≤ c && c ≤ 'Z')

/-- Whether a character may stand in a scheme behind its first letter. -/
def isSchemeChar (c : Char) : Bool :=
  isAsciiLetter c || ('0' ≤ c && c ≤ '9') || c == '+' || c == '-' || c == '.'

/-- The scheme at the start of a text, in lower case, and what follows its
colon. -/
def splitScheme? (cs : List Char) : Option (String × List Char) :=
  if cs.head?.any isAsciiLetter then
    match cs.dropWhile isSchemeChar with
    | ':' :: r => some (String.ofList ((cs.takeWhile isSchemeChar).map Idna.lowerAscii), r)
    | _ => none
  else none

/-- Without blanks and controls at the ends, and without line ends and tabs. -/
def clean (s : String) : List Char :=
  let edge (c : Char) : Bool := c.toNat ≤ 0x20
  let cs := ((s.toList.dropWhile edge).reverse.dropWhile edge).reverse
  cs.filter fun c => c != '\t' && c != '\n' && c != '\r'

/-- Whether a character separates the parts of a path on the web. -/
def isSlash (c : Char) : Bool := c == '/' || c == '\\'

/-- A path with its query and fragment. -/
def splitTail (cs : List Char) : String × Option String × Option String :=
  let (front, fragment) := match cutList '#' cs with
    | none => (cs, none)
    | some (a, b) => (a, some (String.ofList b))
  match cutList '?' front with
  | none => (String.ofList front, none, fragment)
  | some (a, b) => (String.ofList a, some (String.ofList b), fragment)

/-- Sets path, query and fragment from the text behind the authority. -/
def withTail (u : Url) (cs : List Char) : Url :=
  let (path, query, fragment) := splitTail cs
  { u with path := path, query := query, fragment := fragment }

/-- The host text at the start of a text, up to a colon outside brackets. -/
def takeHost : Bool → List Char → List Char
  | _, [] => []
  | inBrackets, c :: cs =>
    if c = ':' ∧ ¬ inBrackets then []
    else c :: takeHost (if c = '[' then true else if c = ']' then false else inBrackets) cs

/-- Reads the digits of a port, which end the text or come before a backslash;
also gives what follows them. -/
def readPort : Nat → Bool → List Char → Except Error (Option Nat × List Char)
  | n, any, [] => .ok (if any then some n else none, [])
  | n, any, c :: cs =>
    if '0' ≤ c ∧ c ≤ '9' then
      let n := 10 * n + (c.toNat - 48)
      if 65535 < n then .error .badPort else readPort n true cs
    else if c = '\\' then .ok (if any then some n else none, c :: cs)
    else .error .badPort

/-- The text before the last `@`, and the text after it. -/
def splitCredentials (cs : List Char) : Option (List Char × List Char) :=
  (cutList '@' cs.reverse).map fun (a, b) => (b.reverse, a.reverse)

/-- Name and password; an empty password is none. -/
def readCredentials (cs : List Char) : String × Option String :=
  match cutList ':' cs with
  | none => (String.ofList cs, none)
  | some (a, b) => (String.ofList a, if b = [] then none else some (String.ofList b))

/-- Reads a text that begins with an authority. -/
def readAuthority (scheme : String) (cs : List Char) : Except Error Url := do
  let web := classOf scheme = .web
  let ends (c : Char) : Bool := c == '/' || c == '?' || c == '#' || (web && c == '\\')
  let authority := cs.takeWhile (!ends ·)
  let rest := cs.dropWhile (!ends ·)
  let credentials := splitCredentials authority
  let hostPort := (credentials.map (·.2)).getD authority
  if credentials = some ([], []) ∧ rest ≠ [] then throw .emptyHost
  let (username, password) := readCredentials ((credentials.map (·.1)).getD [])
  let hostText := takeHost false hostPort
  if web ∧ hostText = [] then throw .emptyHost
  let host ← if web then Host.parse hostText else Host.parseOpaque hostText
  let afterHost := hostPort.drop hostText.length
  if hostText = [] ∧ afterHost ≠ [] then throw .emptyHost
  let (port, left) ← readPort 0 false (afterHost.drop 1)
  if hostText = [] ∧ (username ≠ "" ∨ password.isSome) then throw .emptyHost
  let usual := (webSchemes.find? (·.1 = scheme)).map (·.2)
  let u : Url :=
    { scheme := scheme, username := username, password := password
      host := if hostText = [] then none else some host
      port := if port = usual then none else port
      path := "", query := none, fragment := none }
  return u.withTail (left ++ rest)

/-- Whether a text is the letter of a drive. -/
def isDriveLetter : List Char → Bool
  | [c, d] => isAsciiLetter c && (d == ':' || d == '|')
  | _ => false

/-- Reads what follows `file:`. Two slashes lead in a host, unless a drive
follows them. -/
def readFile (cs : List Char) : Except Error Url := do
  let u : Url :=
    { scheme := "file", username := "", password := none, host := none, port := none
      path := "", query := none, fragment := none }
  match cs with
  | a :: b :: r =>
    if isSlash a && isSlash b then
      let ends (c : Char) : Bool := isSlash c || c == '?' || c == '#'
      let hostText := r.takeWhile (!ends ·)
      if hostText = [] ∨ isDriveLetter hostText then return u.withTail r
      let host ← Host.parse hostText
      let host := if host = .domain "localhost" then none else some host
      return { u with host := host }.withTail (r.dropWhile (!ends ·))
    else return u.withTail cs
  | cs => return u.withTail cs

/-- Reads what follows a scheme that is neither of the web nor `file`. -/
def readOther (scheme : String) (cs : List Char) : Except Error Url :=
  match cs with
  | '/' :: '/' :: r => readAuthority scheme r
  | cs =>
    let u : Url :=
      { scheme := scheme, username := "", password := none, host := none, port := none
        path := "", query := none, fragment := none }
    .ok (u.withTail cs)

/-- Reads a URL. -/
def parse (s : String) : Except Error Url :=
  match splitScheme? (clean s) with
  | none => .error .relativeWithoutBase
  | some (scheme, cs) =>
    match classOf scheme with
    | .web => readAuthority scheme (cs.dropWhile isSlash)
    | .file => readFile cs
    | .other => readOther scheme cs

/-- Reads a text relative to the top of an origin. -/
def readRelative (o : Origin) (cs : List Char) : Except Error Url :=
  match cs with
  | '/' :: '/' :: r => readAuthority o.scheme r
  | cs =>
    if 2 ≤ (cs.takeWhile isSlash).length then readAuthority o.scheme (cs.dropWhile isSlash)
    else if cs.head?.any isSlash then .ok (o.toUrl.withTail cs)
    else .ok (o.toUrl.withTail ('/' :: cs))

/-- Reads a URL, or a text relative to the top of an origin of the web. -/
def parseAt (o : Origin) (s : String) : Except Error Url :=
  match splitScheme? (clean s) with
  | none => readRelative o (clean s)
  | some (scheme, cs) =>
    match classOf scheme with
    | .web =>
      if scheme = o.scheme ∧ (cs.takeWhile isSlash).length < 2 then readRelative o cs
      else readAuthority scheme (cs.dropWhile isSlash)
    | .file => readFile cs
    | .other => readOther scheme cs

end Url

end IngressRouting
