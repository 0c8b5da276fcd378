import Gatehouse.Json.Decode
import Gatehouse.Table
import Gatehouse.Text.Blank

/-! # Agent health

What is known about the liveness of each agent. An agent is healthy while its
last mark was a heartbeat and that heartbeat is no older than the time to live;
one that has grown too old is written down as unhealthy the next time somebody
looks.
-/

namespace Gatehouse

/-- How an agent was last marked. -/
inductive HealthStatus where
  | healthy
  | degraded
  | unhealthy
  | unknown
  deriving DecidableEq, Repr

namespace HealthStatus

/-- The name of a status. -/
def text : HealthStatus → String
  | .healthy => "healthy"
  | .degraded => "degraded"
  | .unhealthy => "unhealthy"
  | .unknown => "unknown"

/-- Every status under its name. -/
def names : List (String × HealthStatus) :=
  [healthy, degraded, unhealthy, unknown].map fun s => (s.text, s)

/-- Reads a name as people type it. -/
def parse (s : String) : Option HealthStatus :=
  names.lookup (Text.normalName s)

/-- Decodes a status. -/
def decode (reading : Reading) : Decoder HealthStatus :=
  .variant names reading

end HealthStatus

/-- What is known about the liveness of an agent. -/
structure AgentHealth where
  agent : String
  alive : Bool
  status : HealthStatus
  lastHeartbeat : Option Moment
  reason : Option String
  updatedAt : Moment
  deriving DecidableEq

namespace AgentHealth

/-- An agent nobody has heard of yet. -/
def unknown (agent : String) (now : Moment) : AgentHealth where
  agent := agent
  alive := false
  status := .unknown
  lastHeartbeat := none
  reason := none
  updatedAt := now

/-- The agent has just given a sign of life. -/
def heartbeat (h : AgentHealth) (now : Moment) : AgentHealth :=
  { h with
    alive := true
    status := .healthy
    lastHeartbeat := some now
    reason := none
    updatedAt := now }

/-- The agent is marked with a status. -/
def marked (h : AgentHealth) (status : HealthStatus) (alive : Bool) (reason : Option String)
    (now : Moment) : AgentHealth :=
  { h with status := status, alive := alive, reason := reason, updatedAt := now }

/-- The last heartbeat, if there was one, is older than the time to live. -/
def isStale (h : AgentHealth) (ttl : Span) (now : Moment) : Bool :=
  match h.lastHeartbeat with
  | some heartbeat => decide (ttl < now.since heartbeat)
  | none => false

/-- The record after somebody looked: a stale heartbeat makes the agent unhealthy. -/
def checked (h : AgentHealth) (ttl : Span) (now : Moment) : AgentHealth :=
  if h.isStale ttl now then h.marked .unhealthy false (some "heartbeat_ttl_expired") now else h

/-- The agent is marked healthy and its heartbeat is fresh. -/
def isHealthy (h : AgentHealth) (ttl : Span) (now : Moment) : Bool :=
  h.lastHeartbeat.isSome && !h.isStale ttl now && decide (h.status = .healthy)

/-- The fields of a health record. -/
def record (reading : Reading) : Record AgentHealth :=
  AgentHealth.mk
    <$> .field "agent" .text
    <*> .field "alive" .boolean
    <*> .field "status" (HealthStatus.decode reading)
    <*> .optional "last_heartbeat" .moment
    <*> .optional "reason" .text
    <*> .field "updated_at" .moment

/-- Decodes a health record. -/
def decode (reading : Reading) : Decoder AgentHealth :=
  (record reading).decode "struct AgentHealth" reading

/-- Encodes a health record. -/
def toJson (h : AgentHealth) : Json :=
  .ofFields [
    ("agent", .str h.agent),
    ("alive", .bool h.alive),
    ("status", .str h.status.text),
    ("last_heartbeat", .ofText? (h.lastHeartbeat.map Moment.text)),
    ("reason", .ofText? h.reason),
    ("updated_at", .str h.updatedAt.text)]

end AgentHealth

/-- The health records of all agents, and how long a heartbeat counts. -/
structure HealthBook where
  ttl : Span
  records : Table String AgentHealth
  deriving DecidableEq

namespace HealthBook

/-- The book without records. -/
def new (ttl : Span) : HealthBook := ⟨ttl, .empty⟩

/-- The record of an agent. -/
def get? (book : HealthBook) (agent : String) : Option AgentHealth :=
  book.records.get? agent

/-- Starts a record for an agent that has none. -/
def register (book : HealthBook) (agent : String) (now : Moment) : HealthBook :=
  { book with records := book.records.putIfAbsent agent (.unknown agent now) }

/-- Changes the record of an agent, starting one if there is none. -/
def update (book : HealthBook) (agent : String) (now : Moment)
    (change : AgentHealth → AgentHealth) : HealthBook :=
  let before := (book.get? agent).getD (.unknown agent now)
  { book with records := book.records.put agent (change before) }

/-- Writes down a heartbeat. -/
def heartbeat (book : HealthBook) (agent : String) (now : Moment) : HealthBook :=
  book.update agent now fun h => h.heartbeat now

/-- Marks an agent as alive but impaired. -/
def degraded (book : HealthBook) (agent : String) (reason : Option String) (now : Moment) :
    HealthBook :=
  book.update agent now fun h => h.marked .degraded true reason now

/-- Marks an agent as out of order. -/
def unhealthy (book : HealthBook) (agent : String) (reason : Option String) (now : Moment) :
    HealthBook :=
  book.update agent now fun h => h.marked .unhealthy false reason now

/-- The book after somebody looked at an agent. -/
def checked (book : HealthBook) (agent : String) (now : Moment) : HealthBook :=
  { book with records := book.records.modify agent fun h => h.checked book.ttl now }

/-- Whether an agent is healthy. -/
def isHealthy (book : HealthBook) (agent : String) (now : Moment) : Bool :=
  match book.get? agent with
  | some h => h.isHealthy book.ttl now
  | none => false

/-- All records, by agent. -/
def snapshot (book : HealthBook) : List AgentHealth :=
  book.records.values.mergeSort fun a b => decide (a.agent ≤ b.agent)

end HealthBook

end Gatehouse
