/-
Loading settings and declarations out of their texts, one compilation of the declarations,
and the watch that repeats it. A watch keeps the declarations it applied last: a change of
their file that cannot be read, or that declares the same again, is passed over.
-/
import IngressRouting.Files.Pathname
import IngressRouting.Publication
import IngressRouting.Settings.Document
import IngressRouting.Wire.IngressObject

namespace IngressRouting

/-! ## Loading -/

/-- Why settings or declarations could not be loaded. -/
inductive LoadError
  | file (e : FileError)
  /-- The settings are no TOML document, or have a value of a wrong type. -/
  | document
  | declarations (e : Json.Error)
  | settings (problems : List SettingsProblem)
  deriving DecidableEq, Repr

/-- The wording of a failed load. -/
def LoadError.message : LoadError → String
  | file e => "IO error: " ++ e.message
  | document => "Parse error: "
  | declarations e => "Declaration parse error: " ++ e.message
  | settings problems =>
    "Validation failed: " ++ ", ".intercalate (problems.map SettingsProblem.describe)

/-- The settings that a document says, if nothing is wrong with them. -/
def Settings.parse (text : String) : Except LoadError Settings :=
  match ofToml? text with
  | none => .error .document
  | some s => if s.problems.isEmpty then .ok s else .error (.settings s.problems)

/-- The declared objects. A blank text declares none. -/
def IngressObject.parseAll (text : String) : Except LoadError (List IngressObject) :=
  if isBlankText text then .ok []
  else (Json.decode (.listOf decoder) text).mapError .declarations

/-- Loads settings out of a file that has been read. -/
def Settings.load (content : Except FileError String) : Except LoadError Settings := do
  parse (← content.mapError .file)

/-- Loads declarations out of a file that has been read. -/
def IngressObject.loadAll (content : Except FileError String) :
    Except LoadError (List IngressObject) := do
  parseAll (← content.mapError .file)

/-! ## Compiling -/

/-- Why a run of the program ends in failure. -/
inductive RunError
  | load (e : LoadError)
  | write (e : WriteError)
  deriving DecidableEq, Repr

/-- The wording of a failed run. -/
def RunError.message : RunError → String
  | load e => e.message
  | write e => e.message

/-- Compiles the objects into a new gateway. -/
def Settings.compileOnce (s : Settings) (objects : List IngressObject) :
    Step Gateway (List Outcome) :=
  (Gateway.empty s.modules.redirectEnabled).reconcile objects

/-- A watch between two looks at its declarations. -/
structure Watch where
  settings : Settings
  gateway : Gateway
  written : Written
  /-- The declarations that were applied last. -/
  current : List IngressObject

namespace Watch

variable {m : Type → Type} [Monad m]

/-- Applies declarations and writes the tables. -/
def applyAll (w : Watch) (access : FileAccess m) (objects : List IngressObject) :
    m (Except RunError Watch) := do
  let gateway := (w.gateway.reconcile objects).state
  match ← gateway.writeTables access w.settings.output w.written with
  | .error e => return .error (.write e)
  | .ok written => return .ok { w with gateway, written, current := objects }

/-- Applies the declarations for the first time, to a gateway that is empty. -/
def start (s : Settings) (access : FileAccess m) : m (Except RunError Watch) := do
  match IngressObject.loadAll (← access.read s.input.declarationsPath) with
  | .error e => return .error (.load e)
  | .ok objects =>
    applyAll ⟨s, .empty s.modules.redirectEnabled, {}, []⟩ access objects

/-- What the watch does when the file of the declarations has changed. -/
def refresh (w : Watch) (access : FileAccess m) : m (Except RunError Watch) := do
  match IngressObject.loadAll (← access.read w.settings.input.declarationsPath) with
  | .error _ => return .ok w
  | .ok objects => if objects = w.current then return .ok w else w.applyAll access objects

end Watch

end IngressRouting
