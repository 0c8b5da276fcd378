import Gatehouse.Job.Basic
import Gatehouse.Write.Envelope

/-! # Audit events

The lines of the audit trail: what happened, to which write or job, with which
outcome. A sink may refuse a line; whoever records it goes on either way and
only learns whether the line now has a name in the trail.
-/

namespace Gatehouse

/-- The part of the system an event comes from. -/
inductive AuditCategory where
  | gateway
  | orchestrator
  | system
  deriving DecidableEq, Repr

namespace AuditCategory

/-- The name of a category. -/
def text : AuditCategory → String
  | .gateway => "gateway"
  | .orchestrator => "orchestrator"
  | .system => "system"

/-- Every category under its name. -/
def names : List (String × AuditCategory) :=
  [gateway, orchestrator, system].map fun c => (c.text, c)

/-- Decodes a category. -/
def decode : Decoder AuditCategory :=
  .variant names .direct

end AuditCategory

/-- How what is recorded ended. -/
inductive AuditOutcome where
  | success
  | pending
  | rejected
  | failed
  deriving DecidableEq, Repr

namespace AuditOutcome

/-- The name of an outcome. -/
def text : AuditOutcome → String
  | .success => "success"
  | .pending => "pending"
  | .rejected => "rejected"
  | .failed => "failed"

/-- Every outcome under its name. -/
def names : List (String × AuditOutcome) :=
  [success, pending, rejected, failed].map fun o => (o.text, o)

/-- Decodes an outcome. -/
def decode : Decoder AuditOutcome :=
  .variant names .direct

end AuditOutcome

/-- A line of the audit trail. -/
structure AuditEvent where
  id : String
  type : String
  category : AuditCategory
  actor : String
  outcome : AuditOutcome
  writeId : Option String
  jobId : Option String
  execution : Option String
  data : List (String × Json)
  occurredAt : Moment
  deriving DecidableEq

namespace AuditEvent

/-- An event named and dated by the stamp, about nothing in particular. -/
def new (stamp : Stamp) (type : String) (category : AuditCategory) (actor : String)
    (outcome : AuditOutcome) : AuditEvent where
  id := stamp.eventId
  type := type
  category := category
  actor := actor
  outcome := outcome
  writeId := none
  jobId := none
  execution := none
  data := []
  occurredAt := stamp.now

/-- Adds a detail, replacing one of the same name. -/
def withData (e : AuditEvent) (key : String) (value : Json) : AuditEvent :=
  { e with data := Json.insertField key value e.data }

/-- An event about a write. -/
def forWrite (stamp : Stamp) (envelope : Envelope) (type : String) (outcome : AuditOutcome) :
    AuditEvent :=
  let event := new stamp type .gateway envelope.actor outcome
  { event with
    writeId := some envelope.id.text
    execution := envelope.execution
    data := Json.sortFields [
      ("command", .str envelope.command),
      ("resource", .str envelope.resource)] }

/-- An event about a job. -/
def forJob (stamp : Stamp) (job : Job) (type : String) (outcome : AuditOutcome) : AuditEvent :=
  let event := new stamp type .orchestrator "orchestrator" outcome
  { event with
    jobId := some job.id.text
    execution := job.execution
    data := [("job_type", .str job.kind.text)] }

/-- The fields of an event. -/
def record : Record AuditEvent :=
  AuditEvent.mk
    <$> .field "event_id" .text
    <*> .field "event_type" .text
    <*> .field "category" AuditCategory.decode
    <*> .field "actor" .text
    <*> .field "outcome" AuditOutcome.decode
    <*> .optional "write_id" .text
    <*> .optional "job_id" .text
    <*> .optional "execution_id" .text
    <*> .field "data" .fields
    <*> .field "occurred_at" .moment

/-- Decodes an event. -/
def decode : Decoder AuditEvent :=
  record.decode "struct AuditEvent" .direct

/-- Encodes an event. -/
def toJson (e : AuditEvent) : Json :=
  .ofFields [
    ("event_id", .str e.id),
    ("event_type", .str e.type),
    ("category", .str e.category.text),
    ("actor", .str e.actor),
    ("outcome", .str e.outcome.text),
    ("write_id", .ofText? e.writeId),
    ("job_id", .ofText? e.jobId),
    ("execution_id", .ofText? e.execution),
    ("data", .obj e.data),
    ("occurred_at", .str e.occurredAt.text)]

end AuditEvent

end Gatehouse
