/-
The report on a source, as it is written back to its ingress object: its JSON form
is its text in an annotation.
-/
import IngressRouting.Json.Record
import IngressRouting.Json.Value
import IngressRouting.Rejection

namespace IngressRouting

/-- Whether an object was accepted. -/
inductive ReportStatus
  | success
  | error
  deriving DecidableEq, Repr

/-- What is written back to an object: a status, and why it was refused. -/
structure Report where
  status : ReportStatus
  message : String
  deriving DecidableEq, Repr

/-- The report on what became of an object. -/
def Report.ofResult : Except Rejection Unit → Report
  | .ok () => ⟨.success, ""⟩
  | .error e => ⟨.error, e.message⟩

open Json

/-- The name of a status in JSON. -/
def ReportStatus.wireName : ReportStatus → String
  | success => "success"
  | error => "error"

/-- The statuses by their names. -/
def ReportStatus.known : List (String × ReportStatus) :=
  [success, error].map fun s => (s.wireName, s)

namespace Report

/-- An empty message is left out. -/
def toJson (r : Report) : Json.Value :=
  .object (("status", .string r.status.wireName) ::
    if r.message = "" then [] else [("message", .string r.message)])

/-- The text of a report in an annotation. -/
def render (r : Report) : String := r.toJson.compact

/-- A report as far as its fields have been read. -/
structure Draft where
  status : Option ReportStatus
  message : Option String

/-- How a report is read: it need not have a message. -/
def record : Record Decoder Draft Report where
  title := "struct StatusValue"
  fields :=
    [.ofDecoder "status" (·.status) (fun x s => { s with status := some x })
      (.variant ReportStatus.known),
     .ofDecoder "message" (·.message) (fun x s => { s with message := some x }) .text]
  blank := ⟨none, none⟩
  build s := do
    let status ← required "status" s.status
    return ⟨status, s.message.getD ""⟩

/-- Reads a report. -/
def decoder : Decoder Report := .record record

end Report

end IngressRouting
