import Gatehouse.Job.Queue

/-! # Submissions

Handing a job to the orchestrator. A submission either returns at once or polls
the queue until the job is over or its time is up; what it answers is the
record of the job as the last look found it.
-/

namespace Gatehouse

/-- The times, in milliseconds, and limits of the orchestrator. -/
structure OrchestratorSettings where
  claimPollMillis : Nat
  waitPollMillis : Nat
  waitTimeoutMillis : Nat
  summaryKeys : Nat
  defaultMaxAttempts : Nat
  deriving DecidableEq

namespace OrchestratorSettings

/-- Half a second per claim, 150 milliseconds per look, half a minute of waiting, sixteen keys in a
summary, one attempt. -/
def standard : OrchestratorSettings := ⟨500, 150, 30000, 16, 1⟩

end OrchestratorSettings

/-- A job to be done. Waiting takes the time given, or that of the settings. -/
structure Submission where
  kind : JobKind
  payload : Json
  execution : Option String
  maxAttempts : Option Nat
  wait : Bool
  waitMillis : Option Nat
  deriving DecidableEq

/-- What a submission is answered. -/
structure SubmitResponse where
  jobId : JobId
  execution : Option String
  status : JobStatus
  queued : Bool
  result : Option Json
  error : Option String
  reason : Option String
  deriving DecidableEq

namespace SubmitResponse

/-- The answer that a job's record gives. -/
def ofJob (job : Job) : SubmitResponse where
  jobId := job.id
  execution := job.execution
  status := job.status
  queued := !job.status.isTerminal
  result := job.result
  error := job.lastError
  reason := none

/-- The answer when nobody waits. -/
def unawaited (job : Job) : SubmitResponse :=
  { ofJob job with queued := true }

/-- The answer when the time is up. -/
def timedOut (job : Job) : SubmitResponse :=
  { ofJob job with reason := some "timeout_waiting_for_result" }

/-- The fields of an answer. -/
def record : Record SubmitResponse :=
  SubmitResponse.mk
    <$> .field "job_id" (fun j => (Decoder.text j).map JobId.mk)
    <*> .optional "execution_id" .text
    <*> .field "status" JobStatus.decode
    <*> .field "queued" .boolean
    <*> .optional "result" .value
    <*> .optional "error" .text
    <*> .optional "reason" .text

/-- Decodes an answer. -/
def decode : Decoder SubmitResponse :=
  record.decode "struct SubmitResponse" .direct

/-- Encodes an answer; what there is nothing to say about is left out. -/
def toJson (r : SubmitResponse) : Json :=
  .ofFields (
    ("job_id", .str r.jobId.text) ::
    ("execution_id", .ofText? r.execution) ::
    ("status", .str r.status.text) ::
    ("queued", .bool r.queued) ::
    Json.optionalField "result" id r.result ++
    Json.optionalField "error" .str r.error ++
    Json.optionalField "reason" .str r.reason)

end SubmitResponse

/-- A submission that waits: the job as last seen, and the time, in milliseconds, when it is up. -/
structure Waiting where
  latest : Job
  deadline : Nat
  deriving DecidableEq

/-- What a look at the queue brings: the answer, or the time of the next look. -/
inductive Look where
  | answered (response : SubmitResponse)
  | again (waiting : Waiting) (wakeAt : Nat)
  deriving DecidableEq

namespace Submission

/-- Hands the job to the queue. -/
def enqueue (s : Submission) (settings : OrchestratorSettings) (q : JobQueue) (stamp : Stamp) :
    Job × JobQueue :=
  q.enqueue stamp s.kind s.payload s.execution (s.maxAttempts.getD settings.defaultMaxAttempts)

/-- How long the submission waits, in milliseconds. -/
def patience (s : Submission) (settings : OrchestratorSettings) : Nat :=
  s.waitMillis.getD settings.waitTimeoutMillis

end Submission

namespace Waiting

/-- Looks at the queue at a time, in milliseconds. -/
def look (w : Waiting) (pollMillis : Nat) (q : JobQueue) (now : Nat) : Look :=
  let latest := (q.get? w.latest.id).getD w.latest
  if latest.status.isTerminal then .answered (.ofJob latest)
  else if w.deadline ≤ now then .answered (.timedOut latest)
  else .again { w with latest := latest } (now + min pollMillis (w.deadline - now))

end Waiting

end Gatehouse
