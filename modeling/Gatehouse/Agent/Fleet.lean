import Gatehouse.Agent.Health
import Gatehouse.Agent.Isolation
import Gatehouse.Agent.Load

/-! # The fleet

The three books on agents together: health, load and isolation. An agent is
eligible for work when it is in service, healthy and able to accept; looking at
its health is the only part of the question that writes anything down.
-/

namespace Gatehouse

/-- The times and limits a fleet works with, times in milliseconds. -/
structure FleetSettings where
  heartbeatTtlMillis : Nat
  failureThreshold : Nat
  cooldownMillis : Nat
  defaultMaxConcurrency : Nat
  deriving DecidableEq

namespace FleetSettings

/-- Two minutes for a heartbeat, three failures, a minute of cooldown, one execution at a time. -/
def standard : FleetSettings := ⟨120000, 3, 60000, 1⟩

end FleetSettings

/-- All that is known about one agent. -/
structure AgentSnapshot where
  agent : String
  health : Option AgentHealth
  load : Option AgentLoad
  isolation : Option Isolation
  deriving DecidableEq

namespace AgentSnapshot

/-- The fields of a snapshot. -/
def record (reading : Reading) : Record AgentSnapshot :=
  AgentSnapshot.mk
    <$> .field "agent" .text
    <*> .optional "health" (AgentHealth.decode reading)
    <*> .optional "load" (AgentLoad.decode reading)
    <*> .optional "isolation" (Isolation.decode reading)

/-- Decodes a snapshot. -/
def decode : Decoder AgentSnapshot :=
  (record .direct).decode "struct AgentStateSnapshot" .direct

/-- The encoded fields of a snapshot. -/
def toFields (s : AgentSnapshot) : List (String × Json) := [
  ("agent", .str s.agent),
  ("health", .ofOption AgentHealth.toJson s.health),
  ("load", .ofOption AgentLoad.toJson s.load),
  ("isolation", .ofOption Isolation.toJson s.isolation)]

/-- Encodes a snapshot. -/
def toJson (s : AgentSnapshot) : Json :=
  .ofFields s.toFields

end AgentSnapshot

/-- The books on all agents. -/
structure Fleet where
  health : HealthBook
  load : LoadBook
  isolation : IsolationBook
  deriving DecidableEq

namespace Fleet

/-- A length of time as a span; one that is too long becomes that of 2³² - 1 seconds. -/
def spanOfMillis (n : Nat) : Span :=
  (Span.ofMillis? n).getD (.ofSeconds (pow2 32 - 1))

/-- A fleet without agents. Threshold and ceiling are at least one. -/
def new (settings : FleetSettings) : Fleet where
  health := .new (spanOfMillis settings.heartbeatTtlMillis)
  load := .new {
    failureThreshold := max settings.failureThreshold 1
    cooldown := spanOfMillis settings.cooldownMillis
    defaultMaxConcurrency := max settings.defaultMaxConcurrency 1 }
  isolation := .empty

/-- Starts the records of an agent, or sets its ceiling. -/
def register (f : Fleet) (agent : String) (wanted : Option Nat) (now : Moment) : Fleet :=
  { f with health := f.health.register agent now, load := f.load.register agent wanted }

/-- Whether an agent may be given work. -/
def isEligible (f : Fleet) (agent : String) (now : Moment) : Bool :=
  !f.isolation.isIsolated agent && f.health.isHealthy agent now && f.load.canAccept agent now

/-- The fleet after somebody asked whether an agent may be given work; the health of an isolated
agent is not looked at. -/
def checked (f : Fleet) (agent : String) (now : Moment) : Fleet :=
  if f.isolation.isIsolated agent then f else { f with health := f.health.checked agent now }

/-- All that is known about an agent. -/
def snapshot (f : Fleet) (agent : String) : AgentSnapshot :=
  ⟨agent, f.health.get? agent, f.load.get? agent, f.isolation.get? agent⟩

end Fleet

end Gatehouse
