/-
Stop requests. Whoever may end a watch holds a handle, and every watch holds a
listener. All requests go through one channel that keeps the last of them, so a
listener that was slow skips what it has missed; and it finds none that was made
before it was there.
-/
import IngressRouting.Broadcast

namespace IngressRouting

/-- Why the program is asked to stop. -/
inductive StopReason
  | interrupted
  | requested
  /-- Every handle is gone. -/
  | abandoned
  deriving DecidableEq, Repr

/-- The name of a reason in the log. -/
def StopReason.name : StopReason → String
  | interrupted => "interrupted"
  | requested => "requested"
  | abandoned => "abandoned"

/-- A handle or a listener is named by how many of its kind were made before. -/
structure StopSignal where
  /-- Whether each handle is still there. -/
  handles : List Bool
  /-- Which request is due for each listener, while it is there. -/
  listeners : List (Option Nat)
  requests : Broadcast StopReason
  deriving DecidableEq, Repr

namespace StopSignal

/-- One handle, and nobody listening. -/
def new : StopSignal := ⟨[true], [], .silent⟩

/-- Whether a handle is left that could ask for a stop. -/
def hasHandle (s : StopSignal) : Bool := s.handles.any id

/-- Whether anybody is listening. -/
def hasListener (s : StopSignal) : Bool := s.listeners.any (·.isSome)

/-- Whether a handle is still there. -/
def isHeld (s : StopSignal) (handle : Nat) : Bool := s.handles[handle]?.getD false

/-- Whether a listener is still there. -/
def isHeard (s : StopSignal) (listener : Nat) : Bool := (s.listeners[listener]?.join).isSome

/-- Makes a listener; also gives its name. -/
def listen (s : StopSignal) : Nat × StopSignal :=
  (s.listeners.length, { s with listeners := s.listeners ++ [some s.requests.next] })

/-- Makes another handle; also gives its name. -/
def clone (s : StopSignal) : Nat × StopSignal :=
  (s.handles.length, { s with handles := s.handles ++ [true] })

/-- Asks all listeners to stop. Where nobody listens the request is lost; the
answer says so. -/
def stop (s : StopSignal) (reason : StopReason) : Bool × StopSignal :=
  if s.hasListener then (true, { s with requests := s.requests.send reason })
  else (false, s)

/-- Gives a handle up. -/
def drop (s : StopSignal) (handle : Nat) : StopSignal :=
  { s with handles := s.handles.set handle false }

/-- The listener goes away. -/
def dropListener (s : StopSignal) (listener : Nat) : StopSignal :=
  { s with listeners := s.listeners.set listener none }

/-- What is found by a listener for which the request `due` is due, and which is due then.
Where it has missed some it looks again. -/
def find (requests : Broadcast StopReason) (held : Bool) (due : Nat) : Option StopReason × Nat :=
  match _h : requests.receive held due with
  | (.message reason, due') => (some reason, due')
  | (.lagged _, due') => find requests held due'
  | (.closed, due') => (some .abandoned, due')
  | (.empty, due') => (none, due')
termination_by requests.next - due
decreasing_by
  have := Broadcast.receive_lagged _h
  omega

/-- What a listener finds when it looks: the last request, if it was made since the listener
found one; or, once no handle is left, that it is abandoned; or nothing yet. -/
def poll (s : StopSignal) (listener : Nat) : Option StopReason × StopSignal :=
  match s.listeners[listener]?.join with
  | none => (none, s)
  | some due =>
    let (found, due) := find s.requests s.hasHandle due
    (found, { s with listeners := s.listeners.set listener (some due) })

end StopSignal

end IngressRouting
