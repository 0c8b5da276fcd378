import Gatehouse.Config.Settings
import Gatehouse.Json.Basic

/-! # Settings in force

The settings as JSON, section by section, for whoever wants to see what the
system runs with. The agents' tokens are part of it.
-/

namespace Gatehouse

/-- The settings of an agent. -/
def AgentConfig.report (a : AgentConfig) : Json :=
  .ofFields [
    ("name", .str a.name),
    ("capabilities", .arr (a.capabilities.map .str)),
    ("executor", .str a.executor),
    ("max_concurrency", .ofOption .ofNat a.maxConcurrency),
    ("auth_token", .ofText? a.authToken)]

/-- The sections of the settings. -/
def Config.report (c : Config) : List (String × Json) := [
  ("gateway", .ofFields [
    ("commit_token_ttl_secs", .ofNat c.commitTokenTtlSecs)]),
  ("queue", .ofFields [
    ("default_max_attempts", .ofNat c.defaultMaxAttempts),
    ("claim_poll_ms", .ofNat c.claimPollMillis)]),
  ("orchestrator", .ofFields [
    ("wait_poll_ms", .ofNat c.waitPollMillis),
    ("wait_timeout_secs", .ofNat c.waitTimeoutSecs),
    ("outcome_summary_keys", .ofNat c.summaryKeys)]),
  ("runtime", .ofFields [
    ("heartbeat_ttl_secs", .ofNat c.heartbeatTtlSecs),
    ("failure_threshold", .ofNat c.failureThreshold),
    ("cooldown_secs", .ofNat c.cooldownSecs),
    ("default_max_concurrency", .ofNat c.defaultMaxConcurrency),
    ("heartbeat_interval_secs", .ofNat c.heartbeatIntervalSecs)]),
  ("guardrails", .ofFields [
    ("denied_commands", .arr (c.deniedCommands.map .str)),
    ("approval_required_commands", .arr (c.approvalRequiredCommands.map .str))]),
  ("agents", .arr (c.agents.map AgentConfig.report)),
  ("logging", .ofFields [
    ("level", .str c.logLevel),
    ("format", .str c.logFormat.text)])]

end Gatehouse
