/-
The command line: what its arguments ask for, and doing that.

Options stand before the command. `compile` writes the tables, `check` prints
the report on each source, and `watch` keeps compiling.
-/
import IngressRouting.Watch
import IngressRouting.Wire.Report

namespace IngressRouting.CommandLine

/-- What the program can be asked to do. -/
inductive Command
  /-- Prints the route table as well, if asked to. -/
  | compile (stdout : Bool)
  | check
  | watch
  deriving DecidableEq, Repr

/-- A command with the file of its settings, where one is named. -/
structure Invocation where
  settingsPath : Option String
  command : Command
  deriving DecidableEq, Repr

/-- Whether an argument can be the value of the option before it. -/
def isValue (a : String) : Bool := a ≠ "" && (a = "-" || a.toList.head? ≠ some '-')

/-- The value of the settings option, where it stands in the same argument. -/
def attachedValue? (a : String) : Option String :=
  match a.toList with
  | '-' :: '-' :: 'c' :: 'o' :: 'n' :: 'f' :: 'i' :: 'g' :: '=' :: v => some (String.ofList v)
  | '-' :: 'c' :: '=' :: v => some (String.ofList v)
  | '-' :: 'c' :: v => some (String.ofList v)
  | _ => none

/-- The arguments of a command that takes none. -/
def takesNothing (args : List String) : Bool := args = [] || args = ["--"]

/-- Reads a command with the arguments that it takes. -/
def parseCommand : List String → Option Command
  | "compile" :: "--stdout" :: args => if takesNothing args then some (.compile true) else none
  | "compile" :: args => if takesNothing args then some (.compile false) else none
  | "check" :: args => if takesNothing args then some .check else none
  | "watch" :: args => if takesNothing args then some .watch else none
  | _ => none

/-- What the arguments ask for. The settings option may be given once, and its
value may not be empty. -/
def parseFrom (path : Option String) : List String → Option Invocation
  | [] => none
  | a :: args =>
    if a = "-c" ∨ a = "--config" then
      match args with
      | [] => none
      | v :: args => if path.isNone && isValue v then parseFrom (some v) args else none
    else
      match attachedValue? a with
      | some v => if path.isNone && v ≠ "" then parseFrom (some v) args else none
      | none => (parseCommand (a :: args)).map fun c => ⟨path, c⟩

/-- Reads the arguments of the program; nothing where they are none of its own. -/
def parse (args : List String) : Option Invocation := parseFrom none args

/-- How a run ends: its exit code, what it prints, and what it has to say to
the log. -/
structure Ending where
  exitCode : UInt8
  out : String := ""
  err : String := ""
  log : List String := []
  deriving DecidableEq, Repr

/-- What is printed where the arguments are not understood. -/
def usageText : String := "usage: [-c FILE] compile [--stdout] | check | watch\n"

/-- The end of a run that was called in a wrong way. -/
def Ending.usage : Ending := { exitCode := 2, err := usageText }

/-- How the program ends on an error. -/
def Ending.failed (e : RunError) : Ending := { exitCode := 1, log := [e.message] }

/-- The end of a run that has compiled: it succeeds if every source did. -/
def Ending.compiled (outcomes : List Outcome) (out : String) : Ending :=
  { exitCode := if outcomes.all Outcome.isOk then 0 else 1, out := out }

/-- How far a run has come. -/
inductive Progress
  | ended (e : Ending)
  | watching (w : Watch)

/-- The line about a source. -/
def reportLine (o : Outcome) : String :=
  o.source ++ "\t" ++ (Report.ofResult o.result).render ++ "\n"

variable {m : Type → Type} [Monad m]

/-- Compiles the declarations once and writes the tables. -/
def compile (access : FileAccess m) (s : Settings) (stdout : Bool) : m Ending := do
  match IngressObject.loadAll (← access.read s.input.declarationsPath) with
  | .error e => return .failed (.load e)
  | .ok objects =>
    let compiled := s.compileOnce objects
    match ← compiled.state.writeTables access s.output {} with
    | .error e => return .failed (.write e)
    | .ok _ =>
      let table := RouteTable.dump true compiled.state.routeEdition
      return .compiled compiled.answer (if stdout then table ++ "\n" else "")

/-- Compiles the declarations without writing anything, and says what was refused. -/
def check (access : FileAccess m) (s : Settings) : m Ending := do
  match IngressObject.loadAll (← access.read s.input.declarationsPath) with
  | .error e => return .failed (.load e)
  | .ok objects =>
    let outcomes := (s.compileOnce objects).answer
    return .compiled outcomes (String.join (outcomes.map reportLine))

/-- Carries a command out, as far as the start of a watch. -/
def perform (access : FileAccess m) (s : Settings) : Command → m Progress
  | .compile stdout => .ended <$> compile access s stdout
  | .check => .ended <$> check access s
  | .watch => do
    match ← Watch.start s access with
    | .error e => return .ended (.failed e)
    | .ok w => return .watching w

/-- Runs the program up to its end, or to where a watch waits for changes. -/
def run (access : FileAccess m) (args : List String) : m Progress := do
  match parse args with
  | none => return .ended .usage
  | some ⟨none, command⟩ => perform access {} command
  | some ⟨some path, command⟩ =>
    match Settings.load (← access.read path) with
    | .error e =>
      return .ended { exitCode := 1, err := "Failed to load " ++ path ++ ": " ++ e.message ++ "\n" }
    | .ok s => perform access s command

end IngressRouting.CommandLine
