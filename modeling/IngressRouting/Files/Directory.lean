/-
A directory of files, as a program sees it that runs in it. Files are read and
written by path; a file is made where it is missing, a directory never.
-/
import IngressRouting.Files.Pathname

namespace IngressRouting

open Pathname (Entry Place)

/-- Each file with its bytes; the file written last stands first. -/
structure Directory where
  files : List (Entry × ByteArray)

namespace Directory

/-- A directory without files. -/
def empty : Directory := ⟨[]⟩

/-- The bytes in the file of an entry, if it is one. -/
def get? (d : Directory) (e : Entry) : Option ByteArray := d.files.lookup e

/-- The directory without a file. -/
def remove (d : Directory) (e : Entry) : Directory := ⟨d.files.filter fun f => f.1 ≠ e⟩

/-- Puts bytes into a file, in place of those before. -/
def put (d : Directory) (e : Entry) (bytes : ByteArray) : Directory :=
  ⟨(e, bytes) :: (d.remove e).files⟩

/-- The entry of the working directory with a name. -/
def here (name : String) : Entry := ⟨.above 0, name⟩

/-- The names of the files in the working directory, with their bytes. -/
def listing (d : Directory) : List (String × ByteArray) :=
  d.files.filterMap fun (e, bytes) => if e.folder = .above 0 then some (e.name, bytes) else none

/-- Which place a path names, with the files that there are. -/
def locate (d : Directory) (path : String) : Except FileError Place :=
  Pathname.locate (fun e => (d.get? e).isSome) path

/-- Reads the text of the file that a path names. -/
def read (d : Directory) (path : String) : Except FileError String := do
  match ← d.locate path with
  | .folder _ => throw .isDirectory
  | .entry e =>
    match d.get? e with
    | none => throw .notFound
    | some bytes => if Pathname.endsInSlash path then throw .notDirectory else decodeText bytes

/-- Writes a text to the file that a path names. A path that ends in a slash names none. -/
def write (d : Directory) (path text : String) : Except FileError Directory := do
  match ← d.locate path with
  | .folder _ => throw .isDirectory
  | .entry e => if Pathname.endsInSlash path then throw .isDirectory else return d.put e text.toUTF8

/-- Access to a directory that is held as a state. -/
def access : FileAccess (StateM Directory) where
  read path := return (← get).read path
  write path text := do
    match (← get).write path text with
    | .ok d =>
      set d
      return .ok ()
    | .error e => return .error e

end Directory

end IngressRouting
