/-
Strings in JSON text. Characters beyond the sixteen-bit range may be written as
a pair of escapes; the two halves of a pair stand together or not at all.
-/
import IngressRouting.Json.Cursor

namespace IngressRouting.Json

/-- One character of a string, and where reading goes on. -/
structure Taken (cs : List Char) where
  char : Char
  rest : List Char
  place : Position
  shorter : rest.length < cs.length

/-- Why a string is wrong, and where. -/
abbrev Refused := Reason × Position

/-- The number written in four hexadecimal digits. -/
def hexFour? : List Char → Option (Nat × List Char)
  | a :: b :: c :: d :: r => do
    let a ← Unicode.hexDigit? a
    let b ← Unicode.hexDigit? b
    let c ← Unicode.hexDigit? c
    let d ← Unicode.hexDigit? d
    return (((a * 16 + b) * 16 + c) * 16 + d, r)
  | _ => none

theorem length_of_hexFour? {cs r : List Char} {n : Nat} (h : hexFour? cs = some (n, r)) :
    r.length < cs.length := by
  unfold hexFour? at h
  split at h
  · simp only [Option.bind_eq_bind, Option.bind_eq_some_iff] at h
    obtain ⟨_, _, _, _, _, _, _, _, h⟩ := h
    simp only [Option.pure_def, Option.some.injEq, Prod.mk.injEq] at h
    simp only [← h.2, List.length_cons]
    omega
  · cases h

/-- Why there are no four digits here: the text ends, or others stand there. -/
def refuseHex (cs : List Char) (p : Position) : Refused :=
  if (String.ofList cs).utf8ByteSize < 4 then (.endInString, p.afterAll cs)
  else (.badEscape, p.afterBytes 4 cs)

/-- The second half of a pair, from its backslash on. -/
def takeLowHalf (high : Nat) (cs : List Char) (p : Position) : Except Refused (Taken cs) :=
  match cs with
  | [] => .error (.endInString, p)
  | '\\' :: [] => .error (.endInString, p.after '\\')
  | '\\' :: 'u' :: r =>
    match h : hexFour? r with
    | none => .error (refuseHex r ((p.after '\\').after 'u'))
    | some (low, r') =>
      let p' := p.afterAll ('\\' :: 'u' :: r.take 4)
      if 0xDC00 ≤ low ∧ low ≤ 0xDFFF then
        .ok ⟨Char.ofNat ((high - 0xD800) * 0x400 + (low - 0xDC00) + 0x10000), r', p', by
          have := length_of_hexFour? h
          simp only [List.length_cons]; omega⟩
      else .error (.loneSurrogate, p')
  | '\\' :: r => .error (.cutEscapePair, (p.after '\\').afterByte r)
  | cs => .error (.cutEscapePair, p.afterByte cs)

/-- The character that a backslash and this one stand for. -/
def shortEscape? : Char → Option Char
  | '"' => some '"'
  | '\\' => some '\\'
  | '/' => some '/'
  | 'b' => some '\x08'
  | 'f' => some '\x0c'
  | 'n' => some '\n'
  | 'r' => some '\r'
  | 't' => some '\t'
  | _ => none

/-- The character an escape stands for, read from behind its backslash. -/
def takeEscape (cs : List Char) (p : Position) : Except Refused (Taken cs) :=
  match cs with
  | [] => .error (.endInString, p)
  | 'u' :: r =>
    match h : hexFour? r with
    | none => .error (refuseHex r (p.after 'u'))
    | some (n, r') =>
      let p' := p.afterAll ('u' :: r.take 4)
      have hr : r'.length < ('u' :: r).length := Nat.lt_succ_of_lt (length_of_hexFour? h)
      if 0xDC00 ≤ n ∧ n ≤ 0xDFFF then .error (.loneSurrogate, p')
      else if 0xD800 ≤ n ∧ n ≤ 0xDBFF then
        (takeLowHalf n r' p').map fun t => ⟨t.char, t.rest, t.place, Nat.lt_trans t.shorter hr⟩
      else .ok ⟨Char.ofNat n, r', p', hr⟩
  | c :: r =>
    match shortEscape? c with
    | some out => .ok ⟨out, r, p.after c, Nat.lt_succ_self _⟩
    | none => .error (.badEscape, p.afterByte (c :: r))

/-- A string from behind its opening quote: its characters, what follows the
closing quote, and the place there. -/
def takeString (cs : List Char) (p : Position) :
    Except Refused (List Char × List Char × Position) :=
  match cs with
  | [] => .error (.endInString, p)
  | '"' :: r => .ok ([], r, p.after '"')
  | '\\' :: r => do
    let t ← takeEscape r (p.after '\\')
    have : t.rest.length < r.length := t.shorter
    let (s, r, p) ← takeString t.rest t.place
    return (t.char :: s, r, p)
  | c :: r =>
    if c.toNat < 0x20 then .error (.controlCharacter, p.after c)
    else (takeString r (p.after c)).map fun (s, r, p) => (c :: s, r, p)
termination_by cs.length
decreasing_by all_goals simp_all only [List.length_cons]; omega

/-- Passes over a string from behind its opening quote. Halves of pairs are not
looked at. -/
def passString (cs : List Char) (p : Position) : Except Refused (List Char × Position) :=
  match cs with
  | [] => .error (.endInString, p)
  | '"' :: r => .ok (r, p.after '"')
  | '\\' :: [] => .error (.endInString, p.after '\\')
  | '\\' :: 'u' :: r =>
    let p := (p.after '\\').after 'u'
    match h : hexFour? r with
    | none => .error (refuseHex r p)
    | some (_, r') =>
      have := length_of_hexFour? h
      passString r' (p.afterAll (r.take 4))
  | '\\' :: c :: r =>
    if (shortEscape? c).isSome then
      passString r ((p.after '\\').after c)
    else .error (.badEscape, (p.after '\\').afterByte (c :: r))
  | c :: r =>
    if c.toNat < 0x20 then .error (.controlCharacter, p) else passString r (p.after c)
termination_by cs.length
decreasing_by all_goals simp_all only [List.length_cons]; omega

namespace Decoder

/-- A string, from its opening quote on. -/
def quoted : Decoder String := fun c =>
  match takeString (c.rest.drop 1) (c.place.after '"') with
  | .error (r, p) => .error ⟨r, some p⟩ c
  | .ok (s, rest, p) => .ok (String.ofList s) { c with rest := rest, place := p }

/-- Passes over a string, from its opening quote on. -/
def passQuoted : Decoder Unit := fun c =>
  match passString (c.rest.drop 1) (c.place.after '"') with
  | .error (r, p) => .error ⟨r, some p⟩ c
  | .ok (rest, p) => .ok () { c with rest := rest, place := p }

end Decoder

end IngressRouting.Json
