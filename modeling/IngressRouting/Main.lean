/-
The program: the command line over the files of the system.
-/
import IngressRouting.CommandLine

namespace IngressRouting

/-- What an error of the system means for a file. -/
def fileError : IO.Error → FileError
  | .noFileOrDirectory .. => .notFound
  | .inappropriateType _ 21 _ => .isDirectory
  | .inappropriateType _ 20 _ => .notDirectory
  | e => .other (toString e)

/-- Access to the files of the system. -/
def systemFiles : FileAccess IO where
  read path := do
    try
      return decodeText (← IO.FS.readBinFile path)
    catch e => return .error (fileError e)
  write path text := do
    try
      IO.FS.writeFile path text
      return .ok ()
    catch e => return .error (fileError e)

/-- The time between two looks at the declarations, in milliseconds, as far as
it can be waited for. -/
def pauseOf (w : Watch) : UInt32 :=
  UInt32.ofNat (min (1000 * w.settings.input.pollSeconds.toNat) (UInt32.size - 1))

/-- Looks at the declarations again and again. -/
partial def keepWatching (w : Watch) : IO CommandLine.Ending := do
  IO.sleep (pauseOf w)
  match ← w.refresh systemFiles with
  | .ok w => keepWatching w
  | .error e => return .failed e

end IngressRouting

open IngressRouting in

/-- Runs the program with its arguments, and answers with its exit code. -/
def main (args : List String) : IO UInt32 := do
  let ending ← match ← CommandLine.run systemFiles args with
    | .ended e => pure e
    | .watching w => keepWatching w
  IO.print ending.out
  IO.eprint ending.err
  for line in ending.log do IO.eprintln line
  return ending.exitCode.toUInt32
