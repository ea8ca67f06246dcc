/-
Why a binding is refused: a fault in what it says, a conflict with a binding
that was there first, or redirect actions that exclude each other. The wording
is in the `message` functions and nowhere else.
-/
import IngressRouting.Binding

namespace IngressRouting

/-- What is wrong with a binding taken by itself. -/
inductive Fault
  | wildcardHost (host : String)
  | emptyPath
  | illegalPath (path : String)
  /-- An annotation value that cannot be understood. -/
  | badValue (key reason : String)
  /-- A status override without any redirect action. -/
  | strayOverride (key value : String)
  | redirectStatus (key value : String)
  | noRedirectAction
  | wrongKind (expected found : TableKind)
  deriving DecidableEq, Repr

/-- The wording of a fault. -/
def Fault.message : Fault → String
  | wildcardHost host => "wildcard host [" ++ host ++ "] is illegal, should start with *."
  | emptyPath => "path is not set"
  | illegalPath path => "path [" ++ path ++ "] is illegal"
  | badValue key reason => "annotation " ++ key ++ " is invalid: " ++ reason
  | strayOverride key value => "unexpected annotation: \x7b" ++ key ++ ":" ++ value ++ "\x7d"
  | redirectStatus key value =>
    "the annotation " ++ key ++ " should be an integer number with format 3XX, got [" ++ value ++ "]"
  | noRedirectAction => "no redirect action annotation present"
  | wrongKind expected found =>
    found.name ++ " declaration submitted to the " ++ expected.name ++ " compiler"

/-- Two sources bind the same host, path and annotations, and the holder is
the older one. -/
structure Conflict where
  claimant : String
  holder : String
  host : String
  path : String
  deriving DecidableEq, Repr

/-- The wording of a conflict. -/
def Conflict.message (c : Conflict) : String :=
  "source [" ++ c.claimant ++ "] conflicts with existing " ++ c.holder ++ ", rule [host: " ++
    c.host ++ ", path: " ++ c.path ++ "]"

/-- Why an object is refused. -/
inductive Rejection
  | fault (f : Fault)
  | conflict (c : Conflict)
  /-- The redirect annotations that exclude each other. -/
  | manyActions (keys : List String)
  deriving DecidableEq, Repr

/-- The wording of a refusal, which is also that of its report. -/
def Rejection.message : Rejection → String
  | fault f => "validation failed: " ++ f.message
  | conflict c => c.message
  | manyActions keys =>
    "setting multiple redirection-related annotations at the same time is not supported: " ++
      ", ".intercalate keys

/-- A short label for reports. -/
def Rejection.label : Rejection → String
  | fault _ => "validation"
  | conflict _ => "conflict"
  | manyActions _ => "multiple_actions"

end IngressRouting
