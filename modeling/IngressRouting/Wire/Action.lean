/-
The JSON form of redirect actions.
-/
import IngressRouting.Binding
import IngressRouting.Json.Record
import IngressRouting.Json.Value

namespace IngressRouting

open Json

namespace RedirectCommand

/-- The name of a command in JSON. -/
def wireName : RedirectCommand → String
  | urlSet => "URL_SET"
  | urlFromQuery => "URL_FROM_QUERY"
  | urlPrefixAdd => "URL_PREFIX_ADD"
  | schemeSet => "SCHEME_SET"

/-- The commands by their names. -/
def known : List (String × RedirectCommand) := every.map fun c => (c.wireName, c)

end RedirectCommand

namespace RedirectAction

/-- The JSON form of an action. -/
def toJson (a : RedirectAction) : Json.Value :=
  .object [("cmd", .string a.command.wireName), ("params", .list (a.params.map .string))]

/-- An action as far as its fields have been read. -/
structure Draft where
  command : Option RedirectCommand
  params : Option (List String)

/-- How an action is read, given readers for the parts. -/
def record {R : Type → Type} (command : Field R Draft) (params : Field R Draft) :
    Record R Draft RedirectAction where
  title := "struct RedirectAction"
  fields := [command, params]
  blank := ⟨none, none⟩
  build s := do
    let command ← required "cmd" s.command
    let params ← required "params" s.params
    return ⟨command, params⟩

/-- Reads an action. -/
def decoder : Decoder RedirectAction := .record <| record
  (.ofDecoder "cmd" (·.command) (fun c s => { s with command := some c })
    (.variant RedirectCommand.known))
  (.ofDecoder "params" (·.params) (fun ps s => { s with params := some ps }) (.listOf .text))

/-- Takes an action from a value that is held. -/
def reader : Buffered.Reader RedirectAction := Buffered.record <| record
  (.ofReader "cmd" (·.command) (fun c s => { s with command := some c })
    (Buffered.variant RedirectCommand.known))
  (.ofReader "params" (·.params) (fun ps s => { s with params := some ps })
    (Buffered.listOf Buffered.text))

end RedirectAction

/-- A variant that carries a target. -/
def targetReader {α : Type} (title : String) (make : String → α) : Buffered.Reader α :=
  Buffered.record
    { title := title
      fields := [.ofReader "target" id (fun t _ => some t) Buffered.text]
      blank := none
      build := fun s => (required "target" s).map make }

/-- A redirect as far as its fields have been read. -/
structure RedirectDraft where
  action : Option RedirectAction
  status : Option UInt16

/-- A variant that carries a redirect action and a status. -/
def redirectReader {α : Type} (title : String) (make : RedirectAction → UInt16 → α) :
    Buffered.Reader α :=
  Buffered.record
    { title := title
      fields :=
        [.ofReader "action" (·.action) (fun a s => { s with action := some a })
          RedirectAction.reader,
         .ofReader "status" (·.status) (fun n s => { s with status := some n })
          (fun b => (Buffered.naturalBelow UInt16.size "u16" b).map UInt16.ofNat)]
      blank := (⟨none, none⟩ : RedirectDraft)
      build := fun s => do
        let action ← required "action" s.action
        let status ← required "status" s.status
        return make action status }

end IngressRouting
