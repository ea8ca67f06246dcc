/-
Paths. A path is looked up part by part from the working directory; empty parts
and the part "." stay where they are, and ".." goes up. `Pathname.locate` says which
entry a path names, given which entries are files; no other directories exist
than the working directory and those above it.

What can go wrong with a file is worded in `FileError.message`.
-/
import IngressRouting.Text.Cut

namespace IngressRouting

/-- What can go wrong with a file. -/
inductive FileError
  | notFound
  /-- Something on the way to the file is no directory. -/
  | notDirectory
  | isDirectory
  | nameTooLong
  /-- The path has a NUL character. -/
  | nulInPath
  /-- The content is not UTF-8. -/
  | notText
  /-- Anything else, in the words of the system. -/
  | other (text : String)
  deriving DecidableEq, Repr

/-- The wording of an error of the system. -/
def FileError.message : FileError → String
  | notFound => "No such file or directory (os error 2)"
  | notDirectory => "Not a directory (os error 20)"
  | isDirectory => "Is a directory (os error 21)"
  | nameTooLong => "File name too long (os error 36)"
  | nulInPath => "file name contained an unexpected NUL byte"
  | notText => "stream did not contain valid UTF-8"
  | other text => text

/-- The text that some bytes are. -/
def decodeText (bytes : ByteArray) : Except FileError String :=
  match String.fromUTF8? bytes with
  | some s => .ok s
  | none => .error .notText

/-- Reading and writing whole files by their paths. -/
structure FileAccess (m : Type → Type) where
  read : String → m (Except FileError String)
  write : String → String → m (Except FileError Unit)

end IngressRouting

namespace IngressRouting.Pathname

/-- A directory: the root, or the one so many levels above the working
directory. -/
inductive Folder
  | root
  | above (levels : Nat)
  deriving DecidableEq, Repr

/-- The directory above one; the root is above itself. -/
def Folder.parent : Folder → Folder
  | root => root
  | above n => above (n + 1)

/-- A name in a directory. -/
structure Entry where
  folder : Folder
  name : String
  deriving DecidableEq, Repr

/-- What a path names. -/
inductive Place
  | folder (f : Folder)
  | entry (e : Entry)
  deriving DecidableEq, Repr

/-- How long the name of a file may be. -/
def maxNameBytes : Nat := 255

/-- How long a path may be. -/
def maxPathBytes : Nat := 4095

/-- The parts of a path that are not empty. -/
def parts (path : String) : List String := (splitAt '/' path).filter (· ≠ "")

/-- Whether a path ends in a slash, so that it can only name a directory. -/
def endsInSlash (path : String) : Bool := path.toList.getLast? = some '/'

/-- Where the lookup of a path starts. -/
def startFolder (path : String) : Folder :=
  if path.toList.head? = some '/' then .root else .above 0

/-- Follows the parts of a path. An entry that is passed through has to be a
directory, and none is. -/
def follow (isFile : Entry → Bool) : Folder → List String → Except FileError Place
  | f, [] => .ok (.folder f)
  | f, p :: ps =>
    if p = "." then follow isFile f ps
    else if p = ".." then follow isFile f.parent ps
    else if maxNameBytes < p.utf8ByteSize then .error .nameTooLong
    else if ps.isEmpty then .ok (.entry ⟨f, p⟩)
    else if isFile ⟨f, p⟩ then .error .notDirectory
    else .error .notFound

/-- The place that a path names. -/
def locate (isFile : Entry → Bool) (path : String) : Except FileError Place :=
  if path.toList.contains '\x00' then .error .nulInPath
  else if path = "" then .error .notFound
  else if maxPathBytes < path.utf8ByteSize then .error .nameTooLong
  else follow isFile (startFolder path) (parts path)

end IngressRouting.Pathname
