/-
Redirects asked for by annotations. An object may ask for one action at most;
its parameter is checked by what the action does with it, and the status may be
overridden by another one between 300 and 399, which is read as a number of sixteen bits.
-/
import IngressRouting.Binding
import IngressRouting.Rejection
import IngressRouting.Text.Blank
import IngressRouting.Url.Basic

namespace IngressRouting

namespace Redirect

/-- The status of a redirect without an override. -/
def defaultStatus : UInt16 := 302

/-- The origin at which a parameter that is no URL by itself is tried. -/
def placeholder : Url.Origin := ⟨"https", .domain "fake.org", none⟩

/-- The placeholder as it stands in front of a parameter. -/
def placeholderText : String := "https://fake.org"

/-- Another digit behind a number, in sixteen bits. Where ten times the number does not
fit, or the digit on top of that, there is none. -/
def pushDigit? (n d : UInt16) : Option UInt16 :=
  if UInt16.size ≤ 10 * n.toNat then none
  else if UInt16.size ≤ (10 * n).toNat + d.toNat then none
  else some (10 * n + d)

/-- The number whose decimal digits these are, read behind a number. -/
def readWord? : UInt16 → List Char → Option UInt16
  | n, [] => some n
  | n, c :: cs =>
    if '0' ≤ c ∧ c ≤ '9' then
      (pushDigit? n (UInt16.ofNat (c.toNat - '0'.toNat))).bind fun m => readWord? m cs
    else none

/-- The number that digits stand for, after a plus sign if there is one. -/
def word? (cs : List Char) : Option UInt16 :=
  let digits := if cs.head? = some '+' then cs.tail else cs
  if digits.isEmpty then none else readWord? 0 digits

/-- The status asked for by a text. -/
def status? (raw : String) : Option UInt16 :=
  (word? (trimBlankList raw.toList)).filter fun n => 300 ≤ n ∧ n ≤ 399

end Redirect

namespace Annotations

/-- The actions asked for. -/
def redirectCommands (a : Annotations) : List RedirectCommand :=
  RedirectCommand.every.filter fun c => a.contains c.key

/-- The one action asked for, if any. Several exclude each other, and a status
override needs one. -/
def redirectCommand (a : Annotations) : Except Rejection (Option RedirectCommand) :=
  match a.redirectCommands with
  | [] =>
    match a.get? responseStatusKey with
    | none => .ok none
    | some value =>
      if value = "" then .ok none else .error (.fault (.strayOverride responseStatusKey value))
  | [c] => .ok (some c)
  | cs => .error (.manyActions (cs.map RedirectCommand.key))

/-- The status to answer with. An empty override is none. -/
def redirectStatus (a : Annotations) : Except Fault UInt16 :=
  match a.get? responseStatusKey with
  | none => .ok Redirect.defaultStatus
  | some raw =>
    if raw = "" then .ok Redirect.defaultStatus
    else match Redirect.status? raw with
      | some n => .ok n
      | none => .error (.redirectStatus responseStatusKey raw)

end Annotations

namespace RedirectCommand

/-- What is wrong with a parameter, if anything. -/
def objection? (c : RedirectCommand) (param : String) : Option String :=
  if param = "" then some "value must not be empty"
  else match c with
    | urlSet =>
      if (Url.parse param).isOk then none
      else match Url.parse (Redirect.placeholderText ++ param) with
        | .ok u =>
          if u.host = some Redirect.placeholder.host then none
          else some ("[" ++ param ++ "] should be a valid URL string or a valid URL path string")
        | .error _ =>
          some ("[" ++ param ++ "] should be a valid URL string or a valid URL path string")
    | urlFromQuery => none
    | urlPrefixAdd =>
      match (Url.parse param).tryCatch fun _ => Url.parseAt Redirect.placeholder param with
      | .ok u =>
        if u.fragment.isNone then none
        else some ("[" ++ param ++ "] should be a valid URL string without fragment")
      | .error e => some ("[" ++ param ++ "] should be a valid URL string: " ++ e.message)
    | schemeSet =>
      if param = "http" ∨ param = "https" then none
      else some ("scheme " ++ param ++ " invalid, only http|https supported now")

end RedirectCommand

namespace Annotations

/-- The redirect asked for, if any. The parameter is checked before the
status. -/
def redirect (a : Annotations) : Except Rejection (Option Redirect) := do
  match ← a.redirectCommand with
  | none => return none
  | some c =>
    let param := (a.get? c.key).getD ""
    match c.objection? param with
    | some reason => throw (.fault (.badValue c.key reason))
    | none =>
      let status ← a.redirectStatus.mapError .fault
      return some ⟨⟨c, [param]⟩, status⟩

end Annotations

end IngressRouting
