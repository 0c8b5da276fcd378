/-! # Configuration errors

Why no settings come about: the file, a reference to the environment in it, a
value in the environment, or settings that break a rule.
-/

namespace Gatehouse

/-- The rule that settings break. -/
inductive ConfigRule where
  | commitTokenTtl
  | defaultMaxAttempts
  | claimPoll
  | waitPoll
  | waitTimeout
  | summaryKeys
  | heartbeatTtl
  | failureThreshold
  | defaultMaxConcurrency
  | heartbeatInterval
  | heartbeatIntervalTooLong
  | agentUnnamed
  | agentDuplicate (name : String)
  | agentIncapable (name : String)
  | agentExecutor (name : String)
  | agentMaxConcurrency (name : String)
  | agentTokenBlank (name : String)
  | logLevel
  | logFormat (format : String)
  deriving DecidableEq

/-- The wording of a rule. -/
def ConfigRule.message : ConfigRule → String
  | .commitTokenTtl => "gateway.commit_token_ttl_secs must be in range 1..=3600"
  | .defaultMaxAttempts => "queue.default_max_attempts must be greater than zero"
  | .claimPoll => "queue.claim_poll_ms must be in range 1..=60000"
  | .waitPoll => "orchestrator.wait_poll_ms must be greater than zero"
  | .waitTimeout => "orchestrator.wait_timeout_secs must be greater than zero"
  | .summaryKeys => "orchestrator.outcome_summary_keys must be greater than zero"
  | .heartbeatTtl => "runtime.heartbeat_ttl_secs must be greater than zero"
  | .failureThreshold => "runtime.failure_threshold must be greater than zero"
  | .defaultMaxConcurrency => "runtime.default_max_concurrency must be greater than zero"
  | .heartbeatInterval => "runtime.heartbeat_interval_secs must be greater than zero"
  | .heartbeatIntervalTooLong =>
    "runtime.heartbeat_interval_secs must be shorter than runtime.heartbeat_ttl_secs"
  | .agentUnnamed => "agents[].name must not be empty"
  | .agentDuplicate name => "agents[] has duplicate name `" ++ name ++ "`"
  | .agentIncapable name => "agent `" ++ name ++ "` must declare at least one capability"
  | .agentExecutor name =>
    "agent `" ++ name ++ "` executor must be an http(s) URL or an `ENV:<NAME>` binding"
  | .agentMaxConcurrency name => "agent `" ++ name ++ "` max_concurrency must be greater than zero"
  | .agentTokenBlank name => "agent `" ++ name ++ "` auth_token must not be empty when set"
  | .logLevel => "logging.level must be one of trace|debug|info|warn|error"
  | .logFormat format =>
    "unsupported log format `" ++ format ++ "` (expected compact|pretty|json)"

/-- Why a text with references to the environment cannot be filled in. -/
inductive InterpolationError where
  | missing (variableName : String)
  | unterminated
  deriving DecidableEq

/-- Why no settings come about. -/
inductive ConfigError where
  | unreadable (path : String)
  | unparsable (path : String)
  | missingFile (path : String)
  | interpolation (cause : InterpolationError)
  | invalidOverride (variableName value : String)
  | broken (rule : ConfigRule)
  deriving DecidableEq

/-- The wording of a configuration error. -/
def ConfigError.message : ConfigError → String
  | .unreadable path => "could not read config file `" ++ path ++ "`"
  | .unparsable path => "could not parse config file `" ++ path ++ "`"
  | .missingFile path => "required config file was not found: `" ++ path ++ "`"
  | .interpolation (.missing variableName) =>
    "environment variable interpolation failed for `" ++ variableName ++ "`"
  | .interpolation .unterminated => "unterminated environment interpolation expression"
  | .invalidOverride variableName value =>
    "invalid environment override for `" ++ variableName ++ "`: `" ++ value ++ "`"
  | .broken rule => "configuration validation failed: " ++ rule.message

end Gatehouse
