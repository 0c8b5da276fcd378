import Gatehouse.Json.Decode
import Gatehouse.Text.Quoted

/-! # Settings

Everything about the system that can be configured, with its defaults. The text
form of the settings is for logs: it shows that an agent has a token and never
which.
-/

namespace Gatehouse

/-- How log lines look. -/
inductive LogFormat where
  | compact
  | pretty
  | json
  deriving DecidableEq, Repr

namespace LogFormat

/-- The name of a format. -/
def text : LogFormat → String
  | .compact => "compact"
  | .pretty => "pretty"
  | .json => "json"

/-- Every format under its name. -/
def names : List (String × LogFormat) :=
  [compact, pretty, json].map fun f => (f.text, f)

/-- Decodes a format. -/
def decode : Decoder LogFormat :=
  .variant names .direct

/-- A format in the text form of the settings. -/
def describe : LogFormat → String
  | .compact => "Compact"
  | .pretty => "Pretty"
  | .json => "Json"

end LogFormat

/-- An agent that is configured. -/
structure AgentConfig where
  name : String
  capabilities : List String
  executor : String
  maxConcurrency : Option Nat
  authToken : Option String
  deriving DecidableEq

/-- The settings. -/
structure Config where
  commitTokenTtlSecs : Nat
  defaultMaxAttempts : Nat
  claimPollMillis : Nat
  waitPollMillis : Nat
  waitTimeoutSecs : Nat
  summaryKeys : Nat
  heartbeatTtlSecs : Nat
  failureThreshold : Nat
  cooldownSecs : Nat
  defaultMaxConcurrency : Nat
  heartbeatIntervalSecs : Nat
  deniedCommands : List String
  approvalRequiredCommands : List String
  agents : List AgentConfig
  logLevel : String
  logFormat : LogFormat
  deriving DecidableEq

namespace AgentConfig

/-- An agent in the text form of the settings. -/
def describe (a : AgentConfig) : String :=
  let ceiling := match a.maxConcurrency with
    | some n => "Some(" ++ toString n ++ ")"
    | none => "None"
  let token := if a.authToken.isSome then "Some(SecretBox<str>([REDACTED]))" else "None"
  "AgentConfig \x7b name: " ++ Text.quoted a.name ++
    ", capabilities: " ++ Text.quotedList a.capabilities ++
    ", executor: " ++ Text.quoted a.executor ++
    ", max_concurrency: " ++ ceiling ++ ", auth_token: " ++ token ++ " \x7d"

end AgentConfig

namespace Config

/-- The settings of a system that nobody configured. -/
def standard : Config where
  commitTokenTtlSecs := 120
  defaultMaxAttempts := 1
  claimPollMillis := 500
  waitPollMillis := 150
  waitTimeoutSecs := 30
  summaryKeys := 16
  heartbeatTtlSecs := 120
  failureThreshold := 3
  cooldownSecs := 60
  defaultMaxConcurrency := 1
  heartbeatIntervalSecs := 30
  deniedCommands := []
  approvalRequiredCommands := []
  agents := []
  logLevel := "info"
  logFormat := .compact

/-- A number among the fields of the text form. -/
def numberField (name : String) (n : Nat) : String :=
  name ++ ": " ++ toString n

/-- A section of the text form. -/
def sectionText (name : String) (fields : List String) : String :=
  name ++ " \x7b " ++ String.intercalate ", " fields ++ " \x7d"

/-- The settings as text. -/
def describe (c : Config) : String :=
  sectionText "AppConfig" [
    "gateway: " ++ sectionText "GatewayConfig" [
      numberField "commit_token_ttl_secs" c.commitTokenTtlSecs],
    "queue: " ++ sectionText "QueueConfig" [
      numberField "default_max_attempts" c.defaultMaxAttempts,
      numberField "claim_poll_ms" c.claimPollMillis],
    "orchestrator: " ++ sectionText "OrchestratorConfig" [
      numberField "wait_poll_ms" c.waitPollMillis,
      numberField "wait_timeout_secs" c.waitTimeoutSecs,
      numberField "outcome_summary_keys" c.summaryKeys],
    "runtime: " ++ sectionText "RuntimeConfig" [
      numberField "heartbeat_ttl_secs" c.heartbeatTtlSecs,
      numberField "failure_threshold" c.failureThreshold,
      numberField "cooldown_secs" c.cooldownSecs,
      numberField "default_max_concurrency" c.defaultMaxConcurrency,
      numberField "heartbeat_interval_secs" c.heartbeatIntervalSecs],
    "guardrails: " ++ sectionText "GuardrailsConfig" [
      "denied_commands: " ++ Text.quotedList c.deniedCommands,
      "approval_required_commands: " ++ Text.quotedList c.approvalRequiredCommands],
    "agents: [" ++ String.intercalate ", " (c.agents.map AgentConfig.describe) ++ "]",
    "logging: " ++ sectionText "LoggingConfig" [
      "level: " ++ Text.quoted c.logLevel,
      "format: " ++ c.logFormat.describe]]

/-- Whether some characters occur in a row among others. -/
def occursIn (needle : List Char) : List Char → Bool
  | [] => needle.isEmpty
  | c :: rest => needle.isPrefixOf (c :: rest) || occursIn needle rest

/-- Whether the token of some agent can be found in a text. -/
def tokenShowsIn (c : Config) (text : String) : Bool :=
  c.agents.any fun a =>
    match a.authToken with
    | some token => occursIn token.toList text.toList
    | none => false

end Config

end Gatehouse
