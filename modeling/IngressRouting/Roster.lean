/-
The roster: every binding in force, found by host and path or by source.

Bindings live in numbered slots; a freed slot is used again, the last one
freed first. Each host and path lists its slots in the order in which their
bindings came, and each source has the set of its slots, so removing a source
costs only its own bindings. Host-and-path lists and source sets that run empty
are dropped at once.

While a journal is open it records, newest first, how to undo each change, and
`rollback` puts everything back where it was: slots, free slots and positions.
-/
import IngressRouting.Binding
import IngressRouting.Rejection

namespace IngressRouting

/-- What becomes of a newcomer. -/
inductive Verdict
  /-- Nobody holds its annotations: it joins behind the occupants. -/
  | join
  /-- It is older than the holder, who is in this slot, and takes its place. -/
  | displace (slot : Nat) (holder : Binding)
  /-- An occupant of the same age is already there. -/
  | same
  deriving DecidableEq

/-- Judges a newcomer against the occupants of its host and path, each with
its slot. -/
def contest (newcomer : Binding) (occupants : List (Nat × Binding)) : Except Conflict Verdict :=
  match occupants.find? fun o => newcomer.annotations = o.2.annotations with
  | none => .ok .join
  | some (slot, holder) =>
    if newcomer.since < holder.since then .ok (.displace slot holder)
    else if newcomer.since = holder.since then .ok .same
    else .error ⟨newcomer.source, holder.source, newcomer.host, newcomer.path⟩

/-- The slots listed at each path of each host. -/
abbrev Sites := Dict (Dict (List Nat))

namespace Sites

/-- The slots at a host and path. -/
def slots (s : Sites) (host path : String) : List Nat :=
  ((s.get? host).bind (·.get? path)).getD []

/-- Sets the slots listed at a host and path; an empty list is dropped, and so
is a host without paths. -/
def setSlots (s : Sites) (host path : String) (slots : List Nat) : Sites :=
  let paths := (s.get? host).getD ∅
  let paths := if slots.isEmpty then paths.erase path else paths.insert path slots
  if paths.isEmpty then s.erase host else s.insert host paths

/-- Takes a slot off its list; also says at which position it stood. -/
def detach (s : Sites) (host path : String) (slot : Nat) : Option Nat × Sites :=
  let listed := s.slots host path
  match listed.idxOf? slot with
  | none => (none, s)
  | some i => (some i, s.setSlots host path (listed.eraseIdx i))

/-- Lists a slot behind those already there. -/
def append (s : Sites) (host path : String) (slot : Nat) : Sites :=
  s.setSlots host path (s.slots host path ++ [slot])

/-- Lists a slot at a position, or last where there is no such position. -/
def restore (s : Sites) (host path : String) (slot : Nat) (position : Option Nat) : Sites :=
  let listed := s.slots host path
  s.setSlots host path (listed.insertIdx (min (position.getD listed.length) listed.length) slot)

end Sites

/-- Adds to an ascending list of slots. -/
def insertSlot (slot : Nat) : List Nat → List Nat
  | [] => [slot]
  | s :: ss =>
    if slot < s then slot :: s :: ss else if slot = s then s :: ss else s :: insertSlot slot ss

/-- The slots of each source, ascending. -/
abbrev Owners := Dict (List Nat)

namespace Owners

/-- Adds a slot to those of a source. -/
def add (o : Owners) (source : String) (slot : Nat) : Owners :=
  o.insert source (insertSlot slot ((o.get? source).getD []))

/-- Takes a slot from a source; a source without slots is dropped. -/
def remove (o : Owners) (source : String) (slot : Nat) : Owners :=
  match o.get? source with
  | none => o
  | some slots =>
    let slots := slots.erase slot
    if slots.isEmpty then o.erase source else o.insert source slots

end Owners

/-- How to take one change back. -/
inductive Undo
  /-- The slot was filled; `fresh` where it was a new one. -/
  | joined (slot : Nat) (fresh : Bool)
  /-- The binding was overwritten in its slot. -/
  | displaced (slot : Nat) (old : Binding)
  /-- The binding was taken out of the slot, and off its list at the position. -/
  | removed (slot : Nat) (position : Option Nat) (old : Binding)

/-- Every binding in force, with what is needed to find it and to take changes back. -/
structure Roster where
  cells : List (Option Binding)
  /-- The free slots; the next one to use comes first. -/
  vacant : List Nat
  sites : Sites
  owners : Owners
  /-- The changes since `begin`, newest first. -/
  journal : Option (List Undo)

/-- What a successful `put` did. -/
inductive Admission
  | inserted
  /-- A younger binding of the source `previous` was overwritten. -/
  | replaced (previous : String)
  | unchanged
  deriving DecidableEq, Repr

/-- What an outcome is counted as. -/
def Admission.name : Admission → String
  | inserted => "inserted"
  | replaced _ => "replaced"
  | unchanged => "unchanged"

/-- The bindings at one host and path, in the order in which they came. -/
structure Site where
  host : String
  path : String
  bindings : List Binding

namespace Roster

/-- The roster without bindings. -/
def empty : Roster := ⟨[], [], ∅, ∅, none⟩

instance : Inhabited Roster := ⟨empty⟩

/-- The binding in a slot, if there is one. -/
def get? (r : Roster) (slot : Nat) : Option Binding := (r.cells[slot]?).join

/-- The slots in a list that hold a binding, with it. -/
def occupied (r : Roster) (slots : List Nat) : List (Nat × Binding) :=
  slots.filterMap fun slot => (r.get? slot).map (slot, ·)

/-- The bindings at a host and path, each with its slot. -/
def occupants (r : Roster) (host path : String) : List (Nat × Binding) :=
  r.occupied (r.sites.slots host path)

/-- Enters a change into the journal, if one is open. -/
def record (r : Roster) (u : Undo) : Roster :=
  { r with journal := r.journal.map (u :: ·) }

/-- Puts a binding into a free slot, or into a new one where none is free. -/
def allocate (r : Roster) (b : Binding) : Nat × Roster :=
  match r.vacant with
  | slot :: rest => (slot, { r with cells := r.cells.set slot (some b), vacant := rest })
  | [] => (r.cells.length, { r with cells := r.cells ++ [some b] })

/-- Puts a binding behind those at its host and path. -/
def join (r : Roster) (b : Binding) : Roster :=
  let fresh := r.vacant.isEmpty
  let (slot, r) := r.allocate b
  { r with
    sites := r.sites.append b.host b.path slot
    owners := r.owners.add b.source slot }.record (.joined slot fresh)

/-- Overwrites the binding `old` of a slot. -/
def displace (r : Roster) (slot : Nat) (old b : Binding) : Roster :=
  { r with
    cells := r.cells.set slot (some b)
    owners := (r.owners.remove old.source slot).add b.source slot }.record (.displaced slot old)

/-- Adds a binding as its contest is decided. A refused one changes nothing. -/
def put (r : Roster) (b : Binding) : Except Conflict Admission × Roster :=
  match contest b (r.occupants b.host b.path) with
  | .error c => (.error c, r)
  | .ok .same => (.ok .unchanged, r)
  | .ok .join => (.ok .inserted, r.join b)
  | .ok (.displace slot old) => (.ok (.replaced old.source), r.displace slot old b)

/-- Frees a slot and takes it off its list. -/
def vacate (r : Roster) (slot : Nat) : Roster :=
  match r.get? slot with
  | none => r
  | some b =>
    let (position, sites) := r.sites.detach b.host b.path slot
    { r with
      cells := r.cells.set slot none
      vacant := slot :: r.vacant
      sites := sites }.record (.removed slot position b)

/-- Removes every binding of a source, in ascending order of their slots, and
says how many there were. -/
def removeSource (r : Roster) (source : String) : Nat × Roster :=
  match r.owners.get? source with
  | none => (0, r)
  | some slots =>
    (slots.length, slots.foldl vacate { r with owners := r.owners.erase source })

/-- Opens a journal. One already open is dropped. -/
def begin (r : Roster) : Roster := { r with journal := some [] }

/-- Closes the journal and keeps the changes. -/
def commit (r : Roster) : Roster := { r with journal := none }

/-- Takes one change back. -/
def undo (r : Roster) : Undo → Roster
  | .joined slot fresh =>
    match r.get? slot with
    | none => r
    | some b =>
      let last := fresh && slot + 1 == r.cells.length
      { r with
        cells := if last then r.cells.dropLast else r.cells.set slot none
        vacant := if last then r.vacant else slot :: r.vacant
        sites := (r.sites.detach b.host b.path slot).2
        owners := r.owners.remove b.source slot }
  | .displaced slot old =>
    let owners := match r.get? slot with
      | none => r.owners
      | some b => r.owners.remove b.source slot
    { r with cells := r.cells.set slot (some old), owners := owners.add old.source slot }
  | .removed slot position old =>
    { r with
      cells := r.cells.set slot (some old)
      vacant := r.vacant.erase slot
      sites := r.sites.restore old.host old.path slot position
      owners := r.owners.add old.source slot }

/-- Takes back every change since `begin`, newest first, closes the journal and
says how many changes there were. Without a journal nothing happens. -/
def rollback (r : Roster) : Nat × Roster :=
  match r.journal with
  | none => (0, r)
  | some changes => (changes.length, changes.foldl undo { r with journal := none })

/-- Whether a source owns a binding. -/
def containsSource (r : Roster) (source : String) : Bool := r.owners.contains source

/-- Every source that owns a binding, in ascending order. -/
def sources (r : Roster) : List String := r.owners.keys

/-- The bindings of a source in the order of their slots. -/
def ofSource (r : Roster) (source : String) : List Binding :=
  (r.occupied ((r.owners.get? source).getD [])).map (·.2)

/-- Every host and path with its bindings, by host and then by path. -/
def toSites (r : Roster) : List Site :=
  r.sites.entries.flatMap fun (host, paths) =>
    paths.entries.map fun (path, slots) => ⟨host, path, (r.occupied slots).map (·.2)⟩

/-- Every binding in the order of the sites. -/
def toList (r : Roster) : List Binding := r.toSites.flatMap (·.bindings)

/-- The number of bindings in force. -/
def size (r : Roster) : Nat := r.cells.length - r.vacant.length

/-- Whether no binding is in force. -/
def isEmpty (r : Roster) : Bool := r.size == 0

end Roster

end IngressRouting
