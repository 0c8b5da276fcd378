import Gatehouse.Agent.Binding
import Gatehouse.Config.Error
import Gatehouse.Config.Settings
import Gatehouse.Text.Blank

/-! # Validation

The rules that settings have to keep before a system is made from them. They
are checked in a fixed order and the first one broken is reported.
-/

namespace Gatehouse

/-- A rule that is kept when a condition holds. -/
def ConfigRule.unless (rule : ConfigRule) (kept : Prop) [Decidable kept] :
    Except ConfigRule Unit :=
  if kept then .ok () else .error rule

namespace AgentConfig

/-- The name that counts: without the blanks around it. -/
def trimmedName (a : AgentConfig) : String :=
  Text.trim a.name

/-- A binding names a variable, or is a target of the web. -/
def hasValidExecutor (a : AgentConfig) : Bool :=
  match Binding.parse a.executor with
  | .variableNamed name => !name.isEmpty
  | .literal target =>
    "http://".toList.isPrefixOf target.toList || "https://".toList.isPrefixOf target.toList

/-- Checks an agent; `seen` are the names of those before it. -/
def validate (seen : List String) (a : AgentConfig) : Except ConfigRule Unit := do
  let name := a.trimmedName
  ConfigRule.agentUnnamed.unless (name ≠ "")
  (ConfigRule.agentDuplicate name).unless (name ∉ seen)
  (ConfigRule.agentIncapable name).unless (a.capabilities.any fun c => !Text.isBlankText c)
  (ConfigRule.agentExecutor name).unless a.hasValidExecutor
  (ConfigRule.agentMaxConcurrency name).unless (a.maxConcurrency ≠ some 0)
  (ConfigRule.agentTokenBlank name).unless (a.authToken.all fun t => !Text.isBlankText t)

/-- Checks agents one after the other. -/
def validateAll : List String → List AgentConfig → Except ConfigRule Unit
  | _, [] => .ok ()
  | seen, a :: rest => do
    a.validate seen
    validateAll (a.trimmedName :: seen) rest

end AgentConfig

namespace Config

/-- The log levels there are. -/
def logLevels : List String :=
  ["trace", "debug", "info", "warn", "error"]

/-- Checks settings. -/
def validate (c : Config) : Except ConfigRule Unit := do
  ConfigRule.commitTokenTtl.unless (1 ≤ c.commitTokenTtlSecs ∧ c.commitTokenTtlSecs ≤ 3600)
  ConfigRule.defaultMaxAttempts.unless (0 < c.defaultMaxAttempts)
  ConfigRule.claimPoll.unless (1 ≤ c.claimPollMillis ∧ c.claimPollMillis ≤ 60000)
  ConfigRule.waitPoll.unless (0 < c.waitPollMillis)
  ConfigRule.waitTimeout.unless (0 < c.waitTimeoutSecs)
  ConfigRule.summaryKeys.unless (0 < c.summaryKeys)
  ConfigRule.heartbeatTtl.unless (0 < c.heartbeatTtlSecs)
  ConfigRule.failureThreshold.unless (0 < c.failureThreshold)
  ConfigRule.defaultMaxConcurrency.unless (0 < c.defaultMaxConcurrency)
  ConfigRule.heartbeatInterval.unless (0 < c.heartbeatIntervalSecs)
  ConfigRule.heartbeatIntervalTooLong.unless (c.heartbeatIntervalSecs < c.heartbeatTtlSecs)
  AgentConfig.validateAll [] c.agents
  ConfigRule.logLevel.unless (Text.normalName c.logLevel ∈ logLevels)

end Config

end Gatehouse
