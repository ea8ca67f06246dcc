/-
Settings out of a TOML document. A section is a table of its settings, or an
array of them in order; what it leaves out keeps its default, and keys that are
no settings are passed over. A date or time counts as a section that leaves out
everything.
-/
import IngressRouting.Settings.Basic
import IngressRouting.Toml.Document

namespace IngressRouting

open Toml (Value)

/-- A setting by its name, and how it is changed to a value. -/
abbrev Setting (σ : Type) := String × (σ → Value → Option σ)

/-- Changes settings as a section says. -/
def applySection {σ : Type} (known : List (Setting σ)) (s : σ) : Value → Option σ
  | .table entries =>
    entries.foldlM (fun s (k, v) =>
      match known.find? (·.1 = k) with
      | some (_, change) => change s v
      | none => some s) s
  | .array items => (known.zip items).foldlM (fun s ((_, change), v) => change s v) s
  | .dateTime _ => some s
  | _ => none

namespace Toml.Value

/-- The text that a value is. -/
def text? : Value → Option String
  | string s => some s
  | _ => none

/-- The truth value that a value is. -/
def bool? : Value → Option Bool
  | bool b => some b
  | _ => none

/-- The number that a value is, unless it is negative. -/
def natural? : Value → Option Nat
  | integer n => if 0 ≤ n then some n.toNat else none
  | _ => none

/-- Whether a value is a table or an array without anything in it. -/
def isNothing : Value → Bool
  | table [] => true
  | array [] => true
  | _ => false

end Toml.Value

namespace LogFormat

/-- The name of a format in a document. -/
def name : LogFormat → String
  | pretty => "pretty"
  | json => "json"

/-- The formats by their names. -/
def known : List (String × LogFormat) := [pretty, json].map fun f => (f.name, f)

/-- The name of a format, by itself or as the only key of a table, with nothing
under it. -/
def ofToml? : Value → Option LogFormat
  | .string s => known.lookup s
  | .table [(k, v)] => if v.isNothing then known.lookup k else none
  | _ => none

end LogFormat

/-- What a document can say of the declarations. -/
def InputSettings.known : List (Setting InputSettings) :=
  [("declarations_path", fun s v => v.text?.map fun x => { s with declarationsPath := x }),
   ("poll_interval_secs", fun s v => v.natural?.map fun x => { s with pollSeconds := .ofNat x })]

/-- What a document can say of the tables' files. -/
def OutputSettings.known : List (Setting OutputSettings) :=
  [("route_table_path", fun s v => v.text?.map fun x => { s with routePath := x }),
   ("redirect_table_path", fun s v => v.text?.map fun x => { s with redirectPath := x }),
   ("pretty", fun s v => v.bool?.map fun x => { s with pretty := x })]

/-- What a document can say of what is compiled. -/
def ModuleSettings.known : List (Setting ModuleSettings) :=
  [("redirect_enabled", fun s v => v.bool?.map fun x => { s with redirectEnabled := x })]

/-- What a document can say of the log. -/
def LogSettings.known : List (Setting LogSettings) :=
  [("log_level", fun s v => v.text?.map fun x => { s with level := x }),
   ("log_format", fun s v => (LogFormat.ofToml? v).map fun x => { s with format := x })]

namespace Settings

/-- The sections of a document. -/
def known : List (Setting Settings) :=
  [("input", fun s v => (applySection InputSettings.known s.input v).map fun x =>
      { s with input := x }),
   ("output", fun s v => (applySection OutputSettings.known s.output v).map fun x =>
      { s with output := x }),
   ("modules", fun s v => (applySection ModuleSettings.known s.modules v).map fun x =>
      { s with modules := x }),
   ("observability", fun s v => (applySection LogSettings.known s.log v).map fun x =>
      { s with log := x })]

/-- The settings of a document, if it is one and has them of the right types. -/
def ofToml? (text : String) : Option Settings := do
  let entries ← Toml.parse text
  applySection known {} (.table entries)

end Settings

end IngressRouting
