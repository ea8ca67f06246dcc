/-
Reading JSON text. A cursor stands in the text and knows its place and how many
more lists and objects may be opened inside each other. A decoder moves the
cursor, also when it fails: an error raised without a place gets the place at
which reading stopped.
-/
import IngressRouting.Json.Error

namespace IngressRouting.Json

/-- A JSON text as far as it has been read. -/
structure Cursor where
  rest : List Char
  place : Position
  /-- How many more lists and objects may be opened. -/
  room : Nat

/-- The start of a text. At most 128 lists and objects may be open at a time. -/
def Cursor.start (text : String) : Cursor := ⟨text.toList, .start, 128⟩

/-- Reads a value off a text, or fails at a place in it. -/
abbrev Decoder := EStateM Error Cursor

/-- The four blanks of JSON. -/
def isJsonBlank (c : Char) : Bool := c == ' ' || c == '\n' || c == '\t' || c == '\r'

/-- Whether a character is a decimal digit. -/
def isDigit (c : Char) : Bool := '0' ≤ c && c ≤ '9'

namespace Cursor

/-- Moves past so many characters. -/
def skip (c : Cursor) (n : Nat) : Cursor :=
  { c with rest := c.rest.drop n, place := c.place.afterAll (c.rest.take n) }

/-- Passes over white space. -/
def skipBlank (c : Cursor) : Cursor :=
  { c with
    rest := c.rest.dropWhile isJsonBlank
    place := c.place.afterAll (c.rest.takeWhile isJsonBlank) }

end Cursor

namespace Decoder

/-- Fails at the cursor. -/
def failHere {α : Type} (r : Reason) : Decoder α := fun c =>
  .error ⟨r, some c.place⟩ c

/-- Fails one byte further on, at what comes next. -/
def failAhead {α : Type} (r : Reason) : Decoder α := fun c =>
  .error ⟨r, some (c.place.afterByte c.rest)⟩ c

/-- Fails without saying where. -/
def failUnplaced {α : Type} (r : Reason) : Decoder α := throw ⟨r, none⟩

/-- Gives an error without a place the place at which reading stopped. -/
def placed {α : Type} (d : Decoder α) : Decoder α := fun c =>
  match d c with
  | .ok a c => .ok a c
  | .error e c => .error ⟨e.reason, some (e.place.getD c.place)⟩ c

/-- The next character, which stays unread. -/
def peek : Decoder (Option Char) := fun c => .ok c.rest.head? c

/-- The next character that is no blank, which stays unread. -/
def peekPastBlank : Decoder (Option Char) := fun c =>
  let c := c.skipBlank
  .ok c.rest.head? c

/-- Passes over some characters. -/
def skip (n : Nat) : Decoder Unit := modify (·.skip n)

/-- Reads a run of digits, which may be empty. -/
def digits : Decoder (List Char) := fun c =>
  let ds := c.rest.takeWhile isDigit
  .ok ds (c.skip ds.length)

/-- The rest of a word whose first letter has been read. -/
def restOfWord : List Char → Decoder Unit
  | [] => pure ()
  | w :: ws => do
    match ← peek with
    | none => failHere .endInValue
    | some c => if c = w then skip 1; restOfWord ws else failAhead .expectedWord

/-- The body, and after it, whether or not it succeeds, the close. The error
of the body wins. -/
def closedBy {α : Type} (body : Decoder α) (close : Decoder Unit) : Decoder α := fun c =>
  match body c with
  | .ok a c =>
    match close c with
    | .ok _ c => .ok a c
    | .error e c => .error e c
  | .error e c =>
    match close c with
    | .ok _ c => .error e c
    | .error _ c => .error e c

/-- The body one level further in, after the opening bracket. -/
def inside {α : Type} (body : Decoder α) : Decoder α := do
  if (← get).room ≤ 1 then failAhead .tooDeep
  modify fun c => { c with room := c.room - 1 }
  skip 1
  let a ← body
  modify fun c => { c with room := c.room + 1 }
  return a

end Decoder

end IngressRouting.Json
