import Gatehouse.Job.Basic
import Gatehouse.Table

/-! # The job queue

The table of jobs is the truth; the channel only carries the names of jobs in
the order in which they were handed in. A name whose job is no longer queued is
passed over when it comes to the front, so cancelling need not search the
channel. A job whose execution is already known is not taken in a second time.
-/

namespace Gatehouse

/-- What somebody wanted to do to a job. -/
inductive JobAction where
  | ack
  | nack
  | cancel
  deriving DecidableEq, Repr

/-- The name of an action. -/
def JobAction.text : JobAction → String
  | .ack => "ack"
  | .nack => "nack"
  | .cancel => "cancel"

/-- Why something could not be done to a job. -/
inductive QueueError where
  | jobNotFound (id : JobId)
  | invalidTransition (id : JobId) (status : JobStatus) (action : JobAction)
  deriving DecidableEq

/-- The wording of a queue error. -/
def QueueError.message : QueueError → String
  | .jobNotFound id => "job not found: " ++ id.text
  | .invalidTransition id status action =>
    "cannot " ++ action.text ++ " job " ++ id.text ++ " in status " ++ status.text

/-- Jobs by name, names by execution, and the names that wait to be claimed. -/
structure JobQueue where
  jobs : Table JobId Job
  byExecution : Table String JobId
  channel : List JobId
  deriving DecidableEq

namespace JobQueue

/-- The queue without jobs. -/
def empty : JobQueue := ⟨.empty, .empty, []⟩

/-- The job of a name. -/
def get? (q : JobQueue) (id : JobId) : Option Job :=
  q.jobs.get? id

/-- The job of an execution. -/
def getByExecution? (q : JobQueue) (execution : String) : Option Job :=
  (q.byExecution.get? execution).bind q.jobs.get?

/-- The job that is already known for an execution. -/
def known? (q : JobQueue) (execution : Option String) : Option Job :=
  execution.bind q.getByExecution?

/-- Takes in a job that is not known yet. -/
def add (q : JobQueue) (job : Job) : JobQueue where
  jobs := q.jobs.put job.id job
  byExecution :=
    match job.execution with
    | some execution => q.byExecution.put execution job.id
    | none => q.byExecution
  channel := q.channel ++ [job.id]

/-- Takes in a job, or returns the one that is already known for its execution. -/
def enqueue (q : JobQueue) (stamp : Stamp) (kind : JobKind) (payload : Json)
    (execution : Option String) (maxAttempts : Nat) : Job × JobQueue :=
  match q.known? execution with
  | some job => (job, q)
  | none =>
    let job := Job.new stamp kind payload execution maxAttempts
    (job, q.add job)

/-- Replaces the record of a job. -/
def update (q : JobQueue) (job : Job) : JobQueue :=
  { q with jobs := q.jobs.put job.id job }

/-- Takes the name at the front of the channel; if its job is queued, an attempt at it starts. -/
def claim (q : JobQueue) (now : Moment) : Option Job × JobQueue :=
  match q.channel with
  | [] => (none, q)
  | id :: rest =>
    let q := { q with channel := rest }
    match q.get? id with
    | none => (none, q)
    | some job =>
      if job.status = .queued then
        let job :=
          { job with status := .processing, attempts := job.attempts + 1, updatedAt := now }
        (some job, q.update job)
      else (none, q)

/-- The job of a name, if an attempt at it is running. -/
def processing (q : JobQueue) (id : JobId) (action : JobAction) : Except QueueError Job :=
  match q.get? id with
  | none => .error (.jobNotFound id)
  | some job =>
    if job.status = .processing then .ok job
    else .error (.invalidTransition id job.status action)

/-- The running attempt at a job succeeded. -/
def ack (q : JobQueue) (id : JobId) (result : Json) (now : Moment) :
    Except QueueError (Job × JobQueue) := do
  let job ← q.processing id .ack
  let job :=
    { job with status := .succeeded, result := some result, lastError := none, updatedAt := now }
  .ok (job, q.update job)

/-- The running attempt at a job failed: the job waits for the next one, if it is allowed one. -/
def nack (q : JobQueue) (id : JobId) (error : String) (now : Moment) :
    Except QueueError (Job × JobQueue) := do
  let job ← q.processing id .nack
  if job.attempts < job.maxAttempts then
    let job := { job with status := .queued, lastError := some error, updatedAt := now }
    .ok (job, { q.update job with channel := q.channel ++ [id] })
  else
    let job := { job with status := .failed, lastError := some error, updatedAt := now }
    .ok (job, q.update job)

/-- Nobody wants a job done any more. -/
def cancel (q : JobQueue) (id : JobId) (now : Moment) : Except QueueError (Job × JobQueue) :=
  match q.get? id with
  | none => .error (.jobNotFound id)
  | some job =>
    if job.status.isTerminal then .error (.invalidTransition id job.status .cancel)
    else
      let job := { job with status := .cancelled, updatedAt := now }
      .ok (job, q.update job)

/-- How many jobs stand where. -/
def tally (q : JobQueue) : JobTally :=
  .ofJobs q.jobs.values

end JobQueue

end Gatehouse
