import Gatehouse.Config.Validation
import Gatehouse.Orchestrator.Submission
import Gatehouse.Orchestrator.Worker
import Gatehouse.Policy.Guardrails

/-! # The application

All parts of the system, made from its settings: the router with the configured
agents, the gateway, the queue, the guardrails by which the gateway's writes
are judged, and the one approval book that the gateway opens approvals in, the
guardrails look them up in and the operator decides them in.
-/

namespace Gatehouse

namespace Config

/-- The times and limits of the fleet. -/
def fleetSettings (c : Config) : FleetSettings where
  heartbeatTtlMillis := 1000 * c.heartbeatTtlSecs
  failureThreshold := c.failureThreshold
  cooldownMillis := 1000 * c.cooldownSecs
  defaultMaxConcurrency := c.defaultMaxConcurrency

/-- The times and limits of the orchestrator. -/
def orchestratorSettings (c : Config) : OrchestratorSettings where
  claimPollMillis := c.claimPollMillis
  waitPollMillis := c.waitPollMillis
  waitTimeoutMillis := 1000 * c.waitTimeoutSecs
  summaryKeys := c.summaryKeys
  defaultMaxAttempts := c.defaultMaxAttempts

/-- The policy for writes. -/
def guardrails (c : Config) : Guardrails :=
  ⟨c.deniedCommands, c.approvalRequiredCommands⟩

end Config

/-- The registration of a configured agent, whose adapter goes by the agent's place in the list. -/
def AgentConfig.registration (a : AgentConfig) (place : Nat) : Registration where
  name := a.name
  capabilities := a.capabilities
  executor := a.executor
  maxConcurrency := a.maxConcurrency
  adapter := ⟨place⟩

/-- The system made from its settings. -/
structure Application where
  workshop : Workshop
  approvals : ApprovalBook
  guardrails : Guardrails
  settings : OrchestratorSettings
  deriving DecidableEq

namespace Application

/-- Registers the configured agents in order. -/
def registerAgents (router : Router) (agents : List AgentConfig) (now : Moment) : Router :=
  agents.zipIdx.foldl (fun r (a, place) => r.register (a.registration place) now) router

/-- The system for settings that have been checked. -/
def wire (c : Config) (now : Moment) : Application where
  workshop := {
    gateway := .new true c.commitTokenTtlSecs
    router := registerAgents (.new c.fleetSettings) c.agents now
    queue := .empty }
  approvals := .empty
  guardrails := c.guardrails
  settings := c.orchestratorSettings

/-- Checks settings and makes the system from them. -/
def ofConfig (c : Config) (now : Moment) : Except ConfigRule Application := do
  c.validate
  .ok (wire c now)

theorem ofConfig_eq_ok_iff {c : Config} {now : Moment} {app : Application} :
    ofConfig c now = .ok app ↔ c.validate = .ok () ∧ app = wire c now := by
  unfold ofConfig
  cases c.validate with
  | error rule => simp [bind, Except.bind]
  | ok => simp [bind, Except.bind, eq_comm]

theorem ofConfig_eq_error_iff {c : Config} {now : Moment} {rule : ConfigRule} :
    ofConfig c now = .error rule ↔ c.validate = .error rule := by
  unfold ofConfig
  cases c.validate <;> simp [bind, Except.bind]

end Application

end Gatehouse
