import Gatehouse.Agent.Router
import Gatehouse.Gateway.Basic
import Gatehouse.Job.Queue

/-! # The worker

The worker claims one job after the other and has it done: by an agent through
the router, or as a write through the gateway. What either reports is the
result of the job, also when it reports a failure; only a job that cannot even
be handed over counts as a failed attempt. Like a gateway call, the work on a
job is cut where it waits for somebody outside.
-/

namespace Gatehouse

/-- What the work on jobs touches. -/
structure Workshop where
  gateway : Gateway
  router : Router
  queue : JobQueue
  deriving DecidableEq

/-- Where the work on a claimed job waits. -/
inductive Work where
  /-- An agent is at work. -/
  | executing (job : Job) (execution : Execution)
  /-- A write is on its way through the gateway. -/
  | writing (job : Job) (call : Call)
  /-- The end of the attempt is being recorded. -/
  | recording (event : AuditEvent)
  deriving DecidableEq

/-- How far the work on a job is: waiting, over, or broken down together with its worker. -/
inductive WorkProgress where
  | waiting (work : Work)
  | done
  | broken
  deriving DecidableEq

/-- The keys of a result that go into the audit trail. -/
def summaryOf (result : Json) (limit : Nat) : List String :=
  result.keys.take limit

namespace Workshop

/-- Acknowledges a job whose attempt brought a result, and records that. A job that is no longer
being processed is left alone. -/
def acknowledge (w : Workshop) (limit : Nat) (stamp : Stamp) (job : Job) (result : Json) :
    Workshop × WorkProgress :=
  match w.queue.ack job.id result stamp.now with
  | .error _ => (w, .done)
  | .ok (_, queue) =>
    let event :=
      ((AuditEvent.forJob stamp job "orchestrator.job.succeeded" .success).withData
        "success" (.bool true)).withData
        "result_keys" (.arr ((summaryOf result limit).map .str))
    ({ w with queue := queue }, .waiting (.recording event))

/-- Counts a failed attempt at a job, and records that. A job that is no longer being processed is
left alone. -/
def refuse (w : Workshop) (stamp : Stamp) (job : Job) (fault : Fault) : Workshop × WorkProgress :=
  match w.queue.nack job.id fault.text stamp.now with
  | .error _ => (w, .done)
  | .ok (updated, queue) =>
    let event :=
      ((((AuditEvent.forJob stamp job "orchestrator.job.failed" .failed).withData
        "success" (.bool false)).withData
        "error" (.str fault.text)).withData
        "attempt" (.ofNat job.attempts)).withData
        "retrying" (.bool (updated.status = .queued))
    ({ w with queue := queue }, .waiting (.recording event))

/-- Goes on with the work on a job after the gateway made progress. -/
def afterGateway (w : Workshop) (limit : Nat) (stamp : Stamp) (job : Job) :
    Progress → Workshop × WorkProgress
  | .waiting call => (w, .waiting (.writing job call))
  | .answered outcome => w.acknowledge limit stamp job outcome.toJson
  | .broken => (w, .broken)

/-- The write a job asks for; an execution it does not name is that of the job. -/
def writeOf (stamp : Stamp) (job : Job) : Except Fault Envelope :=
  match Envelope.decode stamp job.payload with
  | .error e => .error (.ofDecodeError e)
  | .ok envelope => .ok { envelope with execution := envelope.execution <|> job.execution }

/-- A payload names a command: a text of which trimming leaves something. -/
def namesCommand (payload : Json) : Bool :=
  ((payload.get? "command").bind Json.text?).any fun command => Text.trim command ≠ ""

/-- The router finds a command just in the payloads that name one. -/
theorem isSome_commandOf (payload : Json) :
    (Router.commandOf payload).isSome = namesCommand payload := by
  unfold Router.commandOf namesCommand
  cases (payload.get? "command").bind Json.text? with
  | none => rfl
  | some command => by_cases hblank : Text.trim command = "" <;> simp [hblank]

/-- Starts the work on a claimed job. A job for an agent that names no command is refused before the
router is asked. -/
def start (w : Workshop) (env : Environment) (limit : Nat) (stamp : Stamp) (job : Job) :
    Workshop × WorkProgress :=
  match job.kind with
  | .agentExecute =>
    if !namesCommand job.payload then
      w.refuse stamp job (.invalidPayload "missing_command")
    else
      let (router, dispatch) := w.router.execute env stamp job.payload
      let w := { w with router := router }
      match dispatch with
      | .reported report => w.acknowledge limit stamp job report.toJson
      | .running execution => (w, .waiting (.executing job execution))
  | .writeExecute =>
    match writeOf stamp job with
    | .error fault => w.refuse stamp job fault
    | .ok envelope => w.afterGateway limit stamp job (Gateway.request stamp envelope true)
  | .other name => w.refuse stamp job (.invalidJob ("unknown_job_type:" ++ name))

/-- Goes on with a job after the agent's adapter answered. -/
def executed (w : Workshop) (limit : Nat) (stamp : Stamp) (job : Job) (execution : Execution)
    (answer : Except Fault Json) : Workshop × WorkProgress :=
  let (router, report) := w.router.finished execution stamp.now answer
  let w := { w with router := router }
  match report with
  | some report => w.acknowledge limit stamp job report.toJson
  | none => (w, .broken)

/-- Goes on with a job after the gateway call was answered. -/
def replied (w : Workshop) (limit : Nat) (stamp : Stamp) (job : Job) (call : Call)
    (reply : Reply) : Workshop × WorkProgress :=
  let (gateway, progress) := w.gateway.resume stamp call reply
  { w with gateway := gateway }.afterGateway limit stamp job progress

/-- What remains of the work on a job that is dropped or breaks down: a slot or a key it holds is
given back, and the job stays as it is. -/
def abandon (w : Workshop) (now : Moment) : Work → Workshop
  | .executing _ execution => { w with router := w.router.abandoned execution }
  | .writing _ call => { w with gateway := w.gateway.abandon now call }
  | .recording _ => w

end Workshop

end Gatehouse
