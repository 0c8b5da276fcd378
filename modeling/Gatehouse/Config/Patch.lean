import Gatehouse.Config.Settings

/-! # Patches

A source of settings rarely says something about all of them. A patch holds
what one source says; applying it replaces exactly the settings it speaks of.
-/

namespace Gatehouse

/-- What one source says about the settings. -/
structure ConfigPatch where
  commitTokenTtlSecs : Option Nat := none
  defaultMaxAttempts : Option Nat := none
  claimPollMillis : Option Nat := none
  waitPollMillis : Option Nat := none
  waitTimeoutSecs : Option Nat := none
  summaryKeys : Option Nat := none
  heartbeatTtlSecs : Option Nat := none
  failureThreshold : Option Nat := none
  cooldownSecs : Option Nat := none
  defaultMaxConcurrency : Option Nat := none
  heartbeatIntervalSecs : Option Nat := none
  deniedCommands : Option (List String) := none
  approvalRequiredCommands : Option (List String) := none
  agents : Option (List AgentConfig) := none
  logLevel : Option String := none
  logFormat : Option LogFormat := none
  deriving DecidableEq

/-- Replaces the settings that a patch speaks of. -/
def Config.patched (c : Config) (p : ConfigPatch) : Config where
  commitTokenTtlSecs := p.commitTokenTtlSecs.getD c.commitTokenTtlSecs
  defaultMaxAttempts := p.defaultMaxAttempts.getD c.defaultMaxAttempts
  claimPollMillis := p.claimPollMillis.getD c.claimPollMillis
  waitPollMillis := p.waitPollMillis.getD c.waitPollMillis
  waitTimeoutSecs := p.waitTimeoutSecs.getD c.waitTimeoutSecs
  summaryKeys := p.summaryKeys.getD c.summaryKeys
  heartbeatTtlSecs := p.heartbeatTtlSecs.getD c.heartbeatTtlSecs
  failureThreshold := p.failureThreshold.getD c.failureThreshold
  cooldownSecs := p.cooldownSecs.getD c.cooldownSecs
  defaultMaxConcurrency := p.defaultMaxConcurrency.getD c.defaultMaxConcurrency
  heartbeatIntervalSecs := p.heartbeatIntervalSecs.getD c.heartbeatIntervalSecs
  deniedCommands := p.deniedCommands.getD c.deniedCommands
  approvalRequiredCommands := p.approvalRequiredCommands.getD c.approvalRequiredCommands
  agents := p.agents.getD c.agents
  logLevel := p.logLevel.getD c.logLevel
  logFormat := p.logFormat.getD c.logFormat

end Gatehouse
