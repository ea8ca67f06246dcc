/-
TOML values, and the tree of tables that a document builds up.

A table knows how it came to be, because that decides what may still be added
to it: a header defines a table once, and dotted keys only add to tables that
dotted keys made.
-/
namespace IngressRouting.Toml

/-- A value of a document. -/
inductive Value
  | string (s : String)
  | integer (n : Int)
  | float (text : String)
  | bool (b : Bool)
  | dateTime (text : String)
  | array (items : List Value)
  | table (entries : List (String × Value))

/-- How a table came to be. -/
inductive Origin
  /-- On the way to the table of a header. -/
  | implied
  /-- On the way to a dotted key. -/
  | dotted
  /-- By a header of its own. -/
  | defined
  deriving DecidableEq

/-- What is kept under a key while a document is being read. -/
inductive Node
  | value (v : Value)
  | table (origin : Origin) (entries : List (String × Node))
  /-- Tables under a double-bracketed header, the first one first. -/
  | tables (items : List (List (String × Node)))

/-- The entries of a table. -/
abbrev Entries := List (String × Node)

mutual

/-- The value of a node, once the document has been read. -/
def Node.toValue : Node → Value
  | .value v => v
  | .table _ es => .table (entriesToValues es)
  | .tables items => .array (itemsToValues items)

/-- The values of entries, in order. -/
def entriesToValues : List (String × Node) → List (String × Value)
  | [] => []
  | (k, n) :: es => (k, n.toValue) :: entriesToValues es

/-- The tables of an array, in order. -/
def itemsToValues : List (List (String × Node)) → List Value
  | [] => []
  | es :: items => .table (entriesToValues es) :: itemsToValues items

end

namespace Entries

/-- The node under a key. -/
def get? (es : Entries) (k : String) : Option Node :=
  (es.find? (·.1 = k)).map (·.2)

/-- Puts a node under a key, where the key stands or behind all others. -/
def set (es : Entries) (k : String) (n : Node) : Entries :=
  if es.any (·.1 = k) then es.map fun e => if e.1 = k then (k, n) else e else es ++ [(k, n)]

/-- Changes the table at the end of a path, making the tables on the way that
are missing. The change is told how the table came to be. -/
def update (dotted : Bool) (change : Origin → Entries → Option Entries) :
    List String → Origin → Entries → Option Entries
  | [], origin, es => change origin es
  | k :: ks, _, es =>
    match es.get? k with
    | none => do
      let made := if dotted then Origin.dotted else .implied
      let inner ← update dotted change ks made []
      return es.set k (.table made inner)
    | some (.value _) => none
    | some (.table origin inner) => do
      if dotted ∧ origin = .defined then none
      let inner ← update dotted change ks origin inner
      return es.set k (.table origin inner)
    | some (.tables items) => do
      let last ← items.getLast?
      let inner ← update dotted change ks .defined last
      return es.set k (.tables (items.dropLast ++ [inner]))

/-- Adds a value at the end of a dotted key. -/
def add (path : List String) (k : String) (v : Value) (origin : Origin) (es : Entries) :
    Option Entries :=
  update true (fun made inner =>
    if path ≠ [] ∧ made ≠ .dotted then none
    else if (inner.get? k).isSome then none
    else some (inner.set k (.value v))) path origin es

/-- Defines the table of a header. -/
def define (path : List String) (k : String) (es : Entries) : Option Entries :=
  update false (fun _ inner =>
    match inner.get? k with
    | none => some (inner.set k (.table .defined []))
    | some (.table .implied es) => some (inner.set k (.table .defined es))
    | some _ => none) path .defined es

/-- Begins another table under a double-bracketed header. -/
def extend (path : List String) (k : String) (es : Entries) : Option Entries :=
  update false (fun _ inner =>
    match inner.get? k with
    | none => some (inner.set k (.tables [[]]))
    | some (.tables items) => some (inner.set k (.tables (items ++ [[]])))
    | some _ => none) path .defined es

/-- Adds a value to the table of the current header. -/
def addAt (header path : List String) (k : String) (v : Value) (es : Entries) :
    Option Entries :=
  update false (fun _ inner => inner.add path k v .defined) header .defined es

end Entries

end IngressRouting.Toml
