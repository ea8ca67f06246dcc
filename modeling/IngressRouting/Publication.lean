/-
Writing the published tables to their files. A table is written when its
version is not the one written last; `Written` keeps track of that, and stays as
it was where a write fails.
-/
import IngressRouting.Files.Pathname
import IngressRouting.Gateway
import IngressRouting.Settings.Basic
import IngressRouting.Wire.Table

namespace IngressRouting

/-- The versions of the tables that were written last. -/
structure Written where
  route : Option UInt64 := none
  redirect : Option UInt64 := none
  deriving DecidableEq, Repr

/-- A published table as it goes into its file. -/
structure TableFile where
  kind : TableKind
  path : String
  version : UInt64
  text : String
  deriving DecidableEq, Repr

namespace Written

/-- The version of a table that was written last. -/
def version? (w : Written) : TableKind → Option UInt64
  | .route => w.route
  | .redirect => w.redirect

/-- Marks a table as written. -/
def mark (w : Written) (f : TableFile) : Written :=
  match f.kind with
  | .route => { w with route := some f.version }
  | .redirect => { w with redirect := some f.version }

/-- The files that are not as they were written last. -/
def due (w : Written) (files : List TableFile) : List TableFile :=
  files.filter fun f => w.version? f.kind ≠ some f.version

end Written

/-- The text of a table in a file. -/
def dump (pretty : Bool) (v : Json.Value) : String := if pretty then v.pretty else v.compact

/-- The text of a route table with its version. -/
def RouteTable.dump (pretty : Bool) (e : Edition RouteTable) : String :=
  IngressRouting.dump pretty (e.toJson members)

/-- The text of a redirect table with its version. -/
def RedirectTable.dump (pretty : Bool) (e : Edition RedirectTable) : String :=
  IngressRouting.dump pretty (e.toJson members)

/-- The file of each published table, that of the route table first. -/
def Gateway.tableFiles (g : Gateway) (o : OutputSettings) : List TableFile :=
  ⟨.route, o.routePath, g.routeEdition.version, RouteTable.dump o.pretty g.routeEdition⟩ ::
    if g.redirectEnabled then
      [⟨.redirect, o.redirectPath, g.redirectEdition.version,
        RedirectTable.dump o.pretty g.redirectEdition⟩]
    else []

/-- A file that could not be written, and why. -/
structure WriteError where
  path : String
  cause : FileError
  deriving DecidableEq, Repr

/-- The wording of a failed write. -/
def WriteError.message (e : WriteError) : String :=
  "failed to write " ++ e.path ++ ": " ++ e.cause.message

variable {m : Type → Type} [Monad m]

/-- Writes files up to the first failure. -/
def FileAccess.writeAll (access : FileAccess m) :
    List TableFile → Written → m (Except WriteError Written)
  | [], w => return .ok w
  | f :: fs, w => do
    match ← access.write f.path f.text with
    | .error e => return .error ⟨f.path, e⟩
    | .ok () => access.writeAll fs (w.mark f)

/-- Writes the tables that have changed since they were written last. -/
def Gateway.writeTables (g : Gateway) (access : FileAccess m) (o : OutputSettings)
    (w : Written) : m (Except WriteError Written) :=
  access.writeAll (w.due (g.tableFiles o)) w

end IngressRouting
