import Gatehouse.Audit.Event
import Gatehouse.Fault
import Gatehouse.Gateway.Handlers
import Gatehouse.Gateway.Ledger
import Gatehouse.Gateway.Tokens
import Gatehouse.Policy.Decision

/-! # The write gateway

Every write passes the gateway in two phases. A request asks governance and, if
allowed, is accepted under a commit token; a commit redeems the token, reserves
the idempotency key and calls the handler. A call is cut at the points where it
waits for somebody outside: the audit sink, the evaluator, the approval
creator, the handler. `Call` says where a call waits and what it needs to go
on, `Gateway.resume` takes it from one point to the next, and `Gateway.abandon`
is what remains of a call that is dropped there. Between two such points
nothing else happens to the gateway.
-/

namespace Gatehouse

/-- The gateway at rest: whether somebody opens approvals for it, its handlers, the accepted writes,
and the ledger of keys. -/
structure Gateway where
  opensApprovals : Bool
  handlers : HandlerTable
  tokens : CommitTokens
  ledger : KeyLedger
  deriving DecidableEq

/-- A write request on its way through phase one. -/
structure WriteRequest where
  /-- The envelope with its resolved key filled in. -/
  envelope : Envelope
  execution : String
  key : WriteKey
  /-- The caller wants the commit right after the acceptance. -/
  thenCommit : Bool
  deriving DecidableEq

namespace WriteRequest

/-- The question about a request that is put to governance. -/
def question (r : WriteRequest) : PolicyRequest where
  actor := r.envelope.actor
  contextType := r.envelope.contextType
  command := r.envelope.command
  parameters := r.envelope.payload
  execution := some r.execution
  approval := r.envelope.approval

/-- An answer to a request. -/
def outcome (r : WriteRequest) (status : WriteStatus) (reason : Option String) : WriteOutcome :=
  { WriteOutcome.new status r.envelope.id with reason := reason, key := some r.key }

end WriteRequest

/-- Where a call waits. -/
inductive Call where
  /-- The receipt is being recorded. -/
  | receiving (request : WriteRequest) (event : AuditEvent)
  /-- Governance is deciding. -/
  | evaluating (request : WriteRequest)
  /-- The decision is being recorded. -/
  | judged (request : WriteRequest) (decision : Decision) (event : AuditEvent)
  /-- An approval is being opened. -/
  | opening (request : WriteRequest) (reason : String) (payload : Json)
  /-- The acceptance is being recorded; the token is already valid. -/
  | accepting (outcome : WriteOutcome) (token : String) (thenCommit : Bool) (event : AuditEvent)
  /-- The handler is at work and the key is held. -/
  | applying (envelope : Envelope) (key : WriteKey) (handler : HandlerId)
  /-- The end is being recorded; all that is missing in the answer is the name of the record. -/
  | closing (outcome : WriteOutcome) (event : AuditEvent)
  deriving DecidableEq

/-- Whom a call waits for, and with what. -/
inductive Awaited where
  | sink (event : AuditEvent)
  | evaluator (question : PolicyRequest)
  | creator (envelope : Envelope) (payload : Json)
  | handler (handler : HandlerId) (envelope : Envelope)
  deriving DecidableEq

/-- What a call is answered. -/
inductive Reply where
  | recorded (accepted : Bool)
  | decided (answer : Except Fault Decision)
  | opened (answer : Except Fault String)
  | applied (answer : Except Fault Json)

/-- How far a call got: to its answer, to the next point where it waits, or to its breakdown. -/
inductive Progress where
  | answered (outcome : WriteOutcome)
  | waiting (call : Call)
  | broken
  deriving DecidableEq

namespace Call

/-- Whom a call waits for. -/
def awaits : Call → Awaited
  | .receiving _ event => .sink event
  | .evaluating request => .evaluator request.question
  | .judged _ _ event => .sink event
  | .opening request _ payload => .creator request.envelope payload
  | .accepting _ _ _ event => .sink event
  | .applying envelope _ handler => .handler handler envelope
  | .closing _ event => .sink event

/-- The key that a call holds. -/
def heldKey? : Call → Option WriteKey
  | .applying _ key _ => some key
  | .receiving .. | .evaluating .. | .judged .. | .opening .. | .accepting .. | .closing .. => none

end Call

namespace Gateway

/-- How long a commit token lasts when the wanted time, in seconds, is too long for a span. -/
def fallbackTtl : Span := .ofSeconds 120

/-- A gateway without handlers, whose commit tokens last so many seconds. -/
def new (opensApprovals : Bool) (ttlSeconds : Nat) : Gateway where
  opensApprovals := opensApprovals
  handlers := .empty
  tokens := .new ((Span.ofSeconds? ttlSeconds).getD fallbackTtl)
  ledger := .empty

/-- Binds a command to a handler. -/
def register (g : Gateway) (command : String) (handler : HandlerId) : Gateway :=
  { g with handlers := g.handlers.register command handler }

/-- Drops the commit tokens whose time is over. -/
def purge (g : Gateway) (now : Moment) : Gateway :=
  { g with tokens := g.tokens.purge now }

/-- Starts phase one. A write without an execution has no key and goes no further. -/
def request (stamp : Stamp) (envelope : Envelope) (thenCommit : Bool) : Progress :=
  match envelope.execution, envelope.resolvedKey with
  | some execution, some key =>
    let envelope := { envelope with key := some key }
    let event := (AuditEvent.forWrite stamp envelope "write.received" .pending).withData
      "idempotency_key" (.str key.text)
    .waiting (.receiving ⟨envelope, execution, key, thenCommit⟩ event)
  | _, _ =>
    .answered { WriteOutcome.new .rejected envelope.id with reason := some "missing_execution_id" }

/-- Ends phase one with a refusal. -/
def refuse (stamp : Stamp) (request : WriteRequest) (reason : String) : Progress :=
  let event := (AuditEvent.forWrite stamp request.envelope "write.rejected" .rejected).withData
    "reason" (.str reason)
  .waiting (.closing (request.outcome .rejected (some reason)) event)

/-- Ends phase one with an approval that has to be granted first. -/
def park (stamp : Stamp) (request : WriteRequest) (reason approval : String) : Progress :=
  let event :=
    ((AuditEvent.forWrite stamp request.envelope "write.approval_required" .pending).withData
      "approval_id" (.str approval)).withData "reason" (.str reason)
  .waiting (.closing
    { request.outcome .requiresApproval (some reason) with approval := some approval } event)

/-- The name of an approval that nobody opened: the one the caller came with, or a new one. -/
def unopenedApproval (stamp : Stamp) (request : WriteRequest) : String :=
  request.envelope.approval.getD ("apr_" ++ stamp.id)

/-- Ends phase one with a commit token for the write. -/
def accept (g : Gateway) (stamp : Stamp) (request : WriteRequest) (reason : Option String) :
    Gateway × Progress :=
  match g.tokens.issue stamp.token request.envelope stamp.now with
  | none => (g, .broken)
  | some (expiresAt, tokens) =>
    let event := (AuditEvent.forWrite stamp request.envelope "write.accepted" .success).withData
      "expires_at" (.str expiresAt.textWithOffset)
    let outcome := { request.outcome .accepted reason with token := some stamp.token }
    ({ g with tokens := tokens },
      .waiting (.accepting outcome stamp.token request.thenCommit event))

/-- Records the decision of governance; without one the write is refused. -/
def judge (stamp : Stamp) (request : WriteRequest) : Except Fault Decision → Progress
  | .error fault => refuse stamp request ("governance_unavailable:" ++ fault.text)
  | .ok decision =>
    let event :=
      ((AuditEvent.forWrite stamp request.envelope "write.policy_evaluated" .success).withData
        "decision" (.str decision.kind)).withData "reason" (.ofText? decision.reason)
    .waiting (.judged request decision event)

/-- Acts on a decision that has been recorded. -/
def enact (g : Gateway) (stamp : Stamp) (request : WriteRequest) : Decision → Gateway × Progress
  | .deny reason => (g, refuse stamp request reason)
  | .requiresApproval reason (some approval) _ => (g, park stamp request reason approval)
  | .requiresApproval reason none payload =>
    if g.opensApprovals then (g, .waiting (.opening request reason payload))
    else (g, park stamp request reason (unopenedApproval stamp request))
  | .allow reason => g.accept stamp request reason

/-- Writes down how the handler did, frees the key and records the end. -/
def settle (g : Gateway) (stamp : Stamp) (envelope : Envelope) (key : WriteKey)
    (answer : Except String Json) : Gateway × Progress :=
  match answer with
  | .ok data =>
    let outcome :=
      { WriteOutcome.new .applied envelope.id with data := some data, key := some key }
    let event := (AuditEvent.forWrite stamp envelope "write.applied" .success).withData
      "idempotency_key" (.str key.text)
    ({ g with ledger := g.ledger.finish key .succeeded outcome stamp.now },
      .waiting (.closing outcome event))
  | .error reason =>
    let outcome :=
      { WriteOutcome.new .failed envelope.id with reason := some reason, key := some key }
    let event :=
      ((AuditEvent.forWrite stamp envelope "write.failed" .failed).withData
        "idempotency_key" (.str key.text)).withData "reason" (.str reason)
    ({ g with ledger := g.ledger.finish key .failed outcome stamp.now },
      .waiting (.closing outcome event))

/-- Answers a commit with the outcome of an earlier one for the same key. -/
def replay (stamp : Stamp) (envelope : Envelope) (key : WriteKey) (stored : WriteOutcome) :
    Progress :=
  let event :=
    ((AuditEvent.forWrite stamp envelope "write.idempotent_replay" .success).withData
      "idempotency_key" (.str key.text)).withData "original_write_id" (.str stored.writeId.text)
  .waiting (.closing
    { WriteOutcome.new .replayed envelope.id with data := stored.data, key := some key } event)

/-- Commits a write whose token was valid: reserves its key and calls the handler. -/
def apply (g : Gateway) (stamp : Stamp) (envelope : Envelope) (key : WriteKey) :
    Gateway × Progress :=
  let (reservation, ledger) := g.ledger.begin key stamp.now
  let g := { g with ledger := ledger }
  match reservation with
  | .inProgress =>
    (g, .answered { WriteOutcome.new .failed envelope.id with
      reason := some "idempotency_in_progress", key := some key })
  | .replay stored => (g, replay stamp envelope key stored)
  | .reserved =>
    match g.handlers.get? envelope.command with
    | some handler => (g, .waiting (.applying envelope key handler))
    | none =>
      g.settle stamp envelope key
        (.error ("no_handler_registered_for_command:" ++ envelope.command))

/-- Starts phase two. -/
def commit (g : Gateway) (stamp : Stamp) (token : String) : Gateway × Progress :=
  let (redemption, tokens) := g.tokens.take token stamp.now
  let g := { g with tokens := tokens }
  match redemption with
  | .unknown =>
    (g, .answered
      { WriteOutcome.new .invalidToken ⟨""⟩ with reason := some "unknown_token" })
  | .expired envelope =>
    (g, .answered
      { WriteOutcome.new .invalidToken envelope.id with reason := some "token_expired" })
  | .valid envelope =>
    match envelope.resolvedKey with
    | none =>
      (g, .answered
        { WriteOutcome.new .failed envelope.id with reason := some "missing_execution_id" })
    | some key => g.apply stamp envelope key

/-- The name of a record, when the sink accepted it. -/
def recordId (event : AuditEvent) (accepted : Bool) : Option String :=
  if accepted then some event.id else none

/-- Takes a call from the point where it waits to the next one. A reply that the call does not wait
for leaves it where it is. -/
def resume (g : Gateway) (stamp : Stamp) (call : Call) (reply : Reply) : Gateway × Progress :=
  match call, reply with
  | .receiving request _, .recorded _ => (g, .waiting (.evaluating request))
  | .evaluating request, .decided answer => (g, judge stamp request answer)
  | .judged request decision _, .recorded _ => g.enact stamp request decision
  | .opening request reason _, .opened (.ok approval) => (g, park stamp request reason approval)
  | .opening request reason _, .opened (.error _) =>
    (g, park stamp request reason (unopenedApproval stamp request))
  | .accepting outcome token thenCommit event, .recorded accepted =>
    if thenCommit then g.commit stamp token
    else (g, .answered { outcome with auditId := recordId event accepted })
  | .applying envelope key _, .applied answer =>
    g.settle stamp envelope key (answer.mapError Fault.text)
  | .closing outcome event, .recorded accepted =>
    (g, .answered { outcome with auditId := recordId event accepted })
  | call, _ => (g, .waiting call)

/-- What remains of a call that is dropped, or whose handler breaks down: a held key is freed. -/
def abandon (g : Gateway) (now : Moment) : Call → Gateway
  | .applying envelope key _ => { g with ledger := g.ledger.interrupted key envelope.id now }
  | .receiving .. | .evaluating .. | .judged .. | .opening .. | .accepting .. | .closing .. => g

end Gateway

end Gatehouse
