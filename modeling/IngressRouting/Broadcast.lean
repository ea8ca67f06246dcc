/-
A channel that sends every message to all receivers and keeps the last one only. The
messages are numbered, and a receiver knows which one is due. Where that has been
overwritten, the receiver is told how many it has missed, and the one that is kept is
due then.
-/
namespace IngressRouting

/-- A channel on which only the last message can still be heard. -/
structure Broadcast (α : Type) where
  /-- The last message with its number; none before the first. -/
  slot : Option (Nat × α)
  deriving DecidableEq, Repr

/-- What a receiver gets. -/
inductive Receipt (α : Type)
  | message (m : α)
  /-- So many messages were overwritten before they were received. -/
  | lagged (missed : Nat)
  /-- All messages are received, and nobody is left to send another. -/
  | closed
  /-- All messages are received so far. -/
  | empty
  deriving DecidableEq, Repr

namespace Broadcast

variable {α : Type}

/-- The channel before the first message. -/
def silent : Broadcast α := ⟨none⟩

/-- The number of the next message. -/
def next (c : Broadcast α) : Nat :=
  match c.slot with
  | none => 0
  | some (n, _) => n + 1

/-- The last message, if there was one. -/
def last? (c : Broadcast α) : Option α := c.slot.map (·.2)

/-- The channel after one more message, which takes the place of the last one. -/
def send (c : Broadcast α) (m : α) : Broadcast α := ⟨some (c.next, m)⟩

/-- What the receiver gets for which the message `due` is due, and which is due then. -/
def receive (c : Broadcast α) (isOpen : Bool) (due : Nat) : Receipt α × Nat :=
  let nothing := if isOpen then Receipt.empty else .closed
  match c.slot with
  | none => (nothing, due)
  | some (n, m) =>
    if due < n then (.lagged (n - due), n)
    else if due = n then (.message m, n + 1)
    else (nothing, due)

@[simp] theorem next_silent : (silent : Broadcast α).next = 0 := rfl

@[simp] theorem next_send (c : Broadcast α) (m : α) : (c.send m).next = c.next + 1 := rfl

@[simp] theorem last?_send (c : Broadcast α) (m : α) : (c.send m).last? = some m := rfl

/-- A receiver that has missed messages is nearer to the last one then. -/
theorem receive_lagged {c : Broadcast α} {isOpen : Bool} {due due' missed : Nat}
    (h : c.receive isOpen due = (.lagged missed, due')) : due < due' ∧ due' < c.next := by
  rw [receive] at h
  cases hs : c.slot with
  | none => cases isOpen <;> simp [hs] at h
  | some s =>
    obtain ⟨n, m⟩ := s
    simp only [hs] at h
    split at h
    · next hlt =>
      cases h
      exact ⟨hlt, by simp [next, hs]⟩
    · split at h
      · cases h
      · cases isOpen <;> simp at h

end Broadcast

end IngressRouting
