/-
Request traits: tests of a cookie or a header that annotations add to a host
and path. Each annotation has the form `name: value`.
-/
import IngressRouting.Binding
import IngressRouting.Rejection
import IngressRouting.Text.Blank
import IngressRouting.Text.Cut
import IngressRouting.Text.Quoted

namespace IngressRouting

/-- Where a trait is looked for, in the order the tests are written. -/
inductive TraitPlace
  | cookie
  | header
  deriving DecidableEq, Repr

/-- The annotation that asks for traits of a place. -/
def TraitPlace.key : TraitPlace → String
  | cookie => Annotations.cookieKey
  | header => Annotations.headerKey

/-- The function of the condition language that tests a place. -/
def TraitPlace.function : TraitPlace → String
  | cookie => "req_cookie_value_in"
  | header => "req_header_value_in"

/-- A name in a cookie or header, and the value that it has to have there. -/
structure Trait where
  place : TraitPlace
  name : String
  value : String
  deriving DecidableEq, Repr

namespace Trait

/-- Reads `name: value`, without the white space around either. -/
def parse (place : TraitPlace) (raw : String) : Except Fault Trait :=
  match cut ':' raw with
  | none =>
    .error (.badValue place.key ("[" ++ raw ++ "] should have the form \"<name>: <value>\""))
  | some (name, value) =>
    if trimBlank name = "" then
      .error (.badValue place.key ("[" ++ raw ++ "] has an empty name"))
    else .ok ⟨place, trimBlank name, trimBlank value⟩

/-- The call that tests a trait. -/
def render (t : Trait) : String :=
  t.place.function ++ "(" ++ Quoted.literal t.name ++ ", " ++ Quoted.literal t.value ++ ", false)"

end Trait

namespace Annotations

/-- The trait asked for at one place, if any. -/
def trait? (a : Annotations) (place : TraitPlace) : Except Fault (List Trait) :=
  match a.get? place.key with
  | none => .ok []
  | some raw => (Trait.parse place raw).map fun t => [t]

/-- Every trait asked for, the cookie first. -/
def traits (a : Annotations) : Except Fault (List Trait) := do
  let cookie ← a.trait? .cookie
  let header ← a.trait? .header
  return cookie ++ header

end Annotations

/-- How many traits a set of annotations asks for, and of which place; a
cookie ranks above a header. -/
inductive TraitClass
  | none
  | header
  | cookie
  | both
  deriving DecidableEq, Repr

/-- The more a class asks for, the earlier it is tried. -/
def TraitClass.rank : TraitClass → Nat
  | none => 0
  | header => 1
  | cookie => 2
  | both => 3

/-- The class goes by which annotations are present, whatever they say. -/
def Annotations.traitClass (a : Annotations) : TraitClass :=
  match a.contains cookieKey, a.contains headerKey with
  | true, true => .both
  | true, false => .cookie
  | false, true => .header
  | false, false => .none

end IngressRouting
