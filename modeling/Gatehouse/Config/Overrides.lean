import Gatehouse.Config.Error
import Gatehouse.Config.Patch
import Gatehouse.Environment
import Gatehouse.Power
import Gatehouse.Text.Blank
import Gatehouse.Text.Digits

/-! # Settings in the environment

What the environment says about the settings. A variable that is unset or blank
says nothing; one that says something in the wrong form is an error, and of
several the first in the order of the settings is reported.
-/

namespace Gatehouse

/-- Reads the name of a log format as people type it. -/
def LogFormat.parse (s : String) : Except ConfigRule LogFormat :=
  match names.lookup (Text.normalName s) with
  | some format => .ok format
  | none => .error (.logFormat (Text.normalName s))

namespace ConfigOverrides

/-- The value of a variable that is not blank. -/
def read (env : Environment) (name : String) : Option String :=
  (env.get? name).filter fun value => !Text.isBlankText value

/-- A natural number of so many bits: digits, perhaps behind a plus sign. -/
def parseNatural (bits : Nat) (s : String) : Option Nat :=
  let digits := match s.toList with
    | '+' :: rest => rest
    | cs => cs
  if digits.isEmpty || !digits.all Char.isDigit then none
  else
    let n := Text.decimalValue digits
    if n < pow2 bits then some n else none

/-- The number that a variable holds. -/
def number (env : Environment) (bits : Nat) (name : String) :
    Except ConfigError (Option Nat) :=
  match read env name with
  | none => .ok none
  | some value =>
    match parseNatural bits value with
    | some n => .ok (some n)
    | none => .error (.invalidOverride name value)

/-- Cuts a text at its commas. -/
def splitAtCommas : List Char → List (List Char)
  | [] => [[]]
  | c :: rest =>
    match c, splitAtCommas rest with
    | ',', parts => [] :: parts
    | c, part :: parts => (c :: part) :: parts
    | c, [] => [[c]]

/-- The items between commas, trimmed, without the blank ones. -/
def parseList (s : String) : List String :=
  ((splitAtCommas s.toList).map Text.trimChars).filterMap fun item =>
    if item.isEmpty then none else some (String.ofList item)

/-- The items that a variable lists. -/
def list (env : Environment) (name : String) : Option (List String) :=
  (read env name).map parseList

/-- The log format that a variable names. -/
def format (env : Environment) : Except ConfigError (Option LogFormat) :=
  match read env "EXECGATE_LOGGING_FORMAT" <|> read env "EXECGATE_LOG_FORMAT" with
  | none => .ok none
  | some value =>
    match LogFormat.parse value with
    | .ok format => .ok (some format)
    | .error rule => .error (.broken rule)

/-- What the environment says about the settings. -/
def patch (env : Environment) : Except ConfigError ConfigPatch := do
  let commitTokenTtlSecs ← number env 64 "EXECGATE_GATEWAY_COMMIT_TOKEN_TTL_SECS"
  let defaultMaxAttempts ← number env 32 "EXECGATE_QUEUE_DEFAULT_MAX_ATTEMPTS"
  let claimPollMillis ← number env 64 "EXECGATE_QUEUE_CLAIM_POLL_MS"
  let waitPollMillis ← number env 64 "EXECGATE_ORCHESTRATOR_WAIT_POLL_MS"
  let waitTimeoutSecs ← number env 64 "EXECGATE_ORCHESTRATOR_WAIT_TIMEOUT_SECS"
  let summaryKeys ← number env 64 "EXECGATE_ORCHESTRATOR_OUTCOME_SUMMARY_KEYS"
  let heartbeatTtlSecs ← number env 64 "EXECGATE_RUNTIME_HEARTBEAT_TTL_SECS"
  let failureThreshold ← number env 32 "EXECGATE_RUNTIME_FAILURE_THRESHOLD"
  let cooldownSecs ← number env 64 "EXECGATE_RUNTIME_COOLDOWN_SECS"
  let defaultMaxConcurrency ← number env 32 "EXECGATE_RUNTIME_DEFAULT_MAX_CONCURRENCY"
  let heartbeatIntervalSecs ← number env 64 "EXECGATE_RUNTIME_HEARTBEAT_INTERVAL_SECS"
  let logFormat ← format env
  .ok {
    commitTokenTtlSecs, defaultMaxAttempts, claimPollMillis, waitPollMillis, waitTimeoutSecs,
    summaryKeys, heartbeatTtlSecs, failureThreshold, cooldownSecs, defaultMaxConcurrency,
    heartbeatIntervalSecs
    deniedCommands := list env "EXECGATE_GUARDRAILS_DENIED_COMMANDS"
    approvalRequiredCommands := list env "EXECGATE_GUARDRAILS_APPROVAL_REQUIRED_COMMANDS"
    logLevel := read env "EXECGATE_LOGGING_LEVEL" <|> read env "EXECGATE_LOG_LEVEL"
    logFormat }

/-- The variables that `patch` reads. -/
def variableNames : List String := [
  "EXECGATE_GATEWAY_COMMIT_TOKEN_TTL_SECS",
  "EXECGATE_GUARDRAILS_APPROVAL_REQUIRED_COMMANDS",
  "EXECGATE_GUARDRAILS_DENIED_COMMANDS",
  "EXECGATE_LOGGING_FORMAT",
  "EXECGATE_LOGGING_LEVEL",
  "EXECGATE_LOG_FORMAT",
  "EXECGATE_LOG_LEVEL",
  "EXECGATE_ORCHESTRATOR_OUTCOME_SUMMARY_KEYS",
  "EXECGATE_ORCHESTRATOR_WAIT_POLL_MS",
  "EXECGATE_ORCHESTRATOR_WAIT_TIMEOUT_SECS",
  "EXECGATE_QUEUE_CLAIM_POLL_MS",
  "EXECGATE_QUEUE_DEFAULT_MAX_ATTEMPTS",
  "EXECGATE_RUNTIME_COOLDOWN_SECS",
  "EXECGATE_RUNTIME_DEFAULT_MAX_CONCURRENCY",
  "EXECGATE_RUNTIME_FAILURE_THRESHOLD",
  "EXECGATE_RUNTIME_HEARTBEAT_INTERVAL_SECS",
  "EXECGATE_RUNTIME_HEARTBEAT_TTL_SECS"]

end ConfigOverrides

end Gatehouse
