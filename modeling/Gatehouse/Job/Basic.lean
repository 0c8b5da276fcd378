import Gatehouse.Json.Decode
import Gatehouse.Stamp
import Gatehouse.Text.Blank

/-! # Jobs

A job is a payload with a kind that says who can do it, and a record of how the
doing went. A job may be tried several times, at least once.
-/

namespace Gatehouse

/-- The name of a job. -/
structure JobId where
  text : String
  deriving DecidableEq, Inhabited

/-- Who can do a job. -/
inductive JobKind where
  | agentExecute
  | writeExecute
  | other (name : String)
  deriving DecidableEq

namespace JobKind

/-- The name of a kind. -/
def text : JobKind → String
  | .agentExecute => "agent_execute"
  | .writeExecute => "write_execute"
  | .other name => name

/-- Every name is the name of a kind; blanks around it do not count. -/
def parse (s : String) : JobKind :=
  let name := Text.trim s
  if name = "agent_execute" then .agentExecute
  else if name = "write_execute" then .writeExecute
  else .other name

/-- Decodes a kind. -/
def decode : Decoder JobKind := fun j =>
  (Decoder.text j).map parse

/-- Whether nothing is known about the kind but its name. -/
def isOther : JobKind → Bool
  | .other _ => true
  | .agentExecute | .writeExecute => false

end JobKind

/-- Where a job stands. -/
inductive JobStatus where
  | queued
  | processing
  | succeeded
  | failed
  | cancelled
  deriving DecidableEq, Repr

namespace JobStatus

/-- The name of a status. -/
def text : JobStatus → String
  | .queued => "queued"
  | .processing => "processing"
  | .succeeded => "succeeded"
  | .failed => "failed"
  | .cancelled => "cancelled"

/-- Every status under its name. -/
def names : List (String × JobStatus) :=
  [queued, processing, succeeded, failed, cancelled].map fun s => (s.text, s)

/-- Reads a name as people type it. -/
def parse (s : String) : Option JobStatus :=
  names.lookup (Text.normalName s)

/-- Decodes a status. -/
def decode : Decoder JobStatus :=
  .variant names .direct

/-- A job in this status is over. -/
def isTerminal : JobStatus → Bool
  | .succeeded | .failed | .cancelled => true
  | .queued | .processing => false

end JobStatus

/-- A job and how it went so far. -/
structure Job where
  id : JobId
  kind : JobKind
  payload : Json
  execution : Option String
  status : JobStatus
  attempts : Nat
  maxAttempts : Nat
  lastError : Option String
  result : Option Json
  createdAt : Moment
  updatedAt : Moment
  deriving DecidableEq

namespace Job

/-- A job that waits for its first attempt; at least one attempt is allowed. -/
def new (stamp : Stamp) (kind : JobKind) (payload : Json) (execution : Option String)
    (maxAttempts : Nat) : Job where
  id := ⟨stamp.id⟩
  kind := kind
  payload := payload
  execution := execution
  status := .queued
  attempts := 0
  maxAttempts := max maxAttempts 1
  lastError := none
  result := none
  createdAt := stamp.now
  updatedAt := stamp.now

/-- The fields of a job. -/
def record : Record Job :=
  Job.mk
    <$> .field "id" (fun j => (Decoder.text j).map JobId.mk)
    <*> .field "job_type" JobKind.decode
    <*> .field "payload" .value
    <*> .optional "execution_id" .text
    <*> .field "status" JobStatus.decode
    <*> .field "attempts" .word32
    <*> .field "max_attempts" .word32
    <*> .optional "last_error" .text
    <*> .optional "result" .value
    <*> .field "created_at" .moment
    <*> .field "updated_at" .moment

/-- Decodes a job. -/
def decode : Decoder Job :=
  record.decode "struct Job" .direct

/-- Encodes a job. -/
def toJson (j : Job) : Json :=
  .ofFields [
    ("id", .str j.id.text),
    ("job_type", .str j.kind.text),
    ("payload", j.payload),
    ("execution_id", .ofText? j.execution),
    ("status", .str j.status.text),
    ("attempts", .ofNat j.attempts),
    ("max_attempts", .ofNat j.maxAttempts),
    ("last_error", .ofText? j.lastError),
    ("result", j.result.getD .null),
    ("created_at", .str j.createdAt.text),
    ("updated_at", .str j.updatedAt.text)]

end Job

/-- How many jobs stand where. -/
structure JobTally where
  queued : Nat
  processing : Nat
  succeeded : Nat
  failed : Nat
  cancelled : Nat
  deriving DecidableEq

namespace JobTally

/-- The fields of a tally. -/
def record : Record JobTally :=
  JobTally.mk
    <$> .field "queued" .count
    <*> .field "processing" .count
    <*> .field "succeeded" .count
    <*> .field "failed" .count
    <*> .field "cancelled" .count

/-- Decodes a tally. -/
def decode : Decoder JobTally :=
  record.decode "struct QueueStats" .direct

/-- Encodes a tally. -/
def toJson (t : JobTally) : Json :=
  .ofFields [
    ("queued", .ofNat t.queued),
    ("processing", .ofNat t.processing),
    ("succeeded", .ofNat t.succeeded),
    ("failed", .ofNat t.failed),
    ("cancelled", .ofNat t.cancelled)]

/-- Counts jobs by status. -/
def ofJobs (jobs : List Job) : JobTally :=
  let number (s : JobStatus) := jobs.countP fun j => decide (j.status = s)
  ⟨number .queued, number .processing, number .succeeded, number .failed, number .cancelled⟩

end JobTally

end Gatehouse
