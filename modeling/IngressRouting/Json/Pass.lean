/-
Passing over a value that nobody asked for. Its grammar is checked, its strings
and numbers are not read, and it may be nested to any depth.
-/
import IngressRouting.Json.Number
import IngressRouting.Json.Text

namespace IngressRouting.Json

/-- A list or object that has been opened and not closed. -/
inductive Frame
  | list
  | object
  deriving DecidableEq

/-- What a list or an object ends with. -/
def Frame.closing : Frame → Char
  | list => ']'
  | object => '\x7d'

/-- The reason to give where the text ends inside. -/
def Frame.endReason : Frame → Reason
  | list => .endInList
  | object => .endInObject

/-- The reason to give where neither a comma nor the end follows an item. -/
def Frame.itemReason : Frame → Reason
  | list => .expectedListEnd
  | object => .expectedObjectEnd

/-- What is due next. -/
inductive Due
  | value
  /-- The first item of the innermost frame, or its end. -/
  | firstItem
  /-- A comma, or the end of the innermost frame. -/
  | nextItem

namespace Decoder

/-- Passes over a key and its colon. -/
def passKey : Decoder Unit := do
  match ← peekPastBlank with
  | none => failAhead .endInObject
  | some '"' => passQuoted
  | some _ => failAhead .keyNotString
  match ← peekPastBlank with
  | none => failAhead .endInObject
  | some ':' => skip 1
  | some _ => failAhead .expectedColon

/-- Passes over the key that an item of an object begins with. -/
def passItemStart : List Frame → Decoder Unit
  | .object :: _ => passKey
  | _ => pure ()

/-- Passes over what is due until no frame is open. -/
def passDue : Nat → Due → List Frame → Decoder Unit
  | 0, _, _ => failAhead .expectedValue
  | fuel + 1, .value, frames => do
    match ← peekPastBlank with
    | none => failAhead .endInValue
    | some 'n' => skip 1; restOfWord ['u', 'l', 'l']; passDue fuel .nextItem frames
    | some 't' => skip 1; restOfWord ['r', 'u', 'e']; passDue fuel .nextItem frames
    | some 'f' => skip 1; restOfWord ['a', 'l', 's', 'e']; passDue fuel .nextItem frames
    | some '-' => skip 1; passUnsigned; passDue fuel .nextItem frames
    | some '"' => passQuoted; passDue fuel .nextItem frames
    | some '[' => skip 1; passDue fuel .firstItem (.list :: frames)
    | some '\x7b' => skip 1; passDue fuel .firstItem (.object :: frames)
    | some c =>
      if isDigit c then passUnsigned; passDue fuel .nextItem frames
      else failAhead .expectedValue
  | _ + 1, .firstItem, [] => pure ()
  | _ + 1, .nextItem, [] => pure ()
  | fuel + 1, .firstItem, f :: frames => do
    match ← peekPastBlank with
    | none => failAhead f.endReason
    | some c =>
      if c = f.closing then skip 1; passDue fuel .nextItem frames
      else passItemStart (f :: frames); passDue fuel .value (f :: frames)
  | fuel + 1, .nextItem, f :: frames => do
    match ← peekPastBlank with
    | none => failAhead f.endReason
    | some c =>
      if c = f.closing then skip 1; passDue fuel .nextItem frames
      else if c = ',' then skip 1; passItemStart (f :: frames); passDue fuel .value (f :: frames)
      else failAhead f.itemReason

/-- Passes over one value. Every step but one in two reads a character. -/
def passValue : Decoder Unit := do
  passDue (2 * (← get).rest.length + 3) .value []

end Decoder

end IngressRouting.Json
