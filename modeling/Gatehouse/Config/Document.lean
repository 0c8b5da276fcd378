import Gatehouse.Config.Patch
import Gatehouse.Power
import Gatehouse.Toml.Value

/-! # Settings in a document

What a TOML document says about the settings. Keys nobody knows are passed
over. A section is a table or, by position, an array that has at least all of
its fields; a date in the place of a table counts as a table in which nothing
is known. A document that says something in the wrong form says nothing at all.
-/

namespace Gatehouse.ConfigDocument

/-- Where the fields of a section are looked up. -/
inductive Fields where
  | named (fields : List (String × Toml))
  | listed (items : List Toml)

namespace Fields

/-- The fields of a section with so many of them, the last ones of which an array may lack. -/
def ofToml (count : Nat) : Toml → Option Fields
  | .table fields => some (.named fields)
  | .datetime => some (.named [])
  | .array items => if count ≤ items.length then some (.listed items) else none
  | .text _ | .integer _ | .float _ | .boolean _ => none

/-- The value of a field, by name or by position. -/
def get? : Fields → String → Nat → Option Toml
  | .named fields, name, _ => fields.lookup name
  | .listed items, _, position => items[position]?

end Fields

/-- A field that may be missing but must not be wrong. -/
def optional {α : Type} (read : Toml → Option α) (fields : Fields) (name : String)
    (position : Nat) : Option (Option α) :=
  match fields.get? name position with
  | none => some none
  | some v => (read v).map some

/-- A field that must be there. -/
def required {α : Type} (read : Toml → Option α) (fields : Fields) (name : String)
    (position : Nat) : Option α :=
  (fields.get? name position).bind read

/-- A natural number of so many bits. -/
def natural (bits : Nat) : Toml → Option Nat
  | .integer n => if 0 ≤ n ∧ n < pow2 bits then some n.toNat else none
  | _ => none

/-- A text. -/
def text : Toml → Option String
  | .text s => some s
  | _ => none

/-- A list of texts. -/
def texts : Toml → Option (List String)
  | .array items => items.mapM text
  | _ => none

/-- A table or array with nothing in it. -/
def isEmpty : Toml → Bool
  | .table fields => fields.isEmpty
  | .array items => items.isEmpty
  | _ => false

/-- A log format: its name, or a table whose only key is the name and has nothing under it. -/
def logFormat : Toml → Option LogFormat
  | .text s => LogFormat.names.lookup s
  | .table [(name, content)] => if isEmpty content then LogFormat.names.lookup name else none
  | _ => none

/-- An agent. -/
def agent (v : Toml) : Option AgentConfig := do
  let fields ← Fields.ofToml 5 v
  let name ← required text fields "name" 0
  let capabilities ← optional texts fields "capabilities" 1
  let executor ← required text fields "executor" 2
  let maxConcurrency ← optional (natural 32) fields "max_concurrency" 3
  let authToken ← optional text fields "auth_token" 4
  some ⟨name, capabilities.getD [], executor, maxConcurrency, authToken⟩

/-- The agents. -/
def agents : Toml → Option (List AgentConfig)
  | .array items => items.mapM agent
  | _ => none

/-- A section that may be missing; without it nothing is said about its fields. -/
def sectionFields (fields : Fields) (name : String) (position count : Nat) : Option Fields :=
  match fields.get? name position with
  | none => some (.named [])
  | some v => Fields.ofToml count v

/-- What a document says about the settings. -/
def patch (document : Toml) : Option ConfigPatch := do
  let top ← Fields.ofToml 7 document
  let gateway ← sectionFields top "gateway" 0 1
  let queue ← sectionFields top "queue" 1 2
  let orchestrator ← sectionFields top "orchestrator" 2 3
  let runtime ← sectionFields top "runtime" 3 5
  let guardrails ← sectionFields top "guardrails" 4 2
  let agents ← optional agents top "agents" 5
  let logging ← sectionFields top "logging" 6 2
  let commitTokenTtlSecs ← optional (natural 64) gateway "commit_token_ttl_secs" 0
  let defaultMaxAttempts ← optional (natural 32) queue "default_max_attempts" 0
  let claimPollMillis ← optional (natural 64) queue "claim_poll_ms" 1
  let waitPollMillis ← optional (natural 64) orchestrator "wait_poll_ms" 0
  let waitTimeoutSecs ← optional (natural 64) orchestrator "wait_timeout_secs" 1
  let summaryKeys ← optional (natural 64) orchestrator "outcome_summary_keys" 2
  let heartbeatTtlSecs ← optional (natural 64) runtime "heartbeat_ttl_secs" 0
  let failureThreshold ← optional (natural 32) runtime "failure_threshold" 1
  let cooldownSecs ← optional (natural 64) runtime "cooldown_secs" 2
  let defaultMaxConcurrency ← optional (natural 32) runtime "default_max_concurrency" 3
  let heartbeatIntervalSecs ← optional (natural 64) runtime "heartbeat_interval_secs" 4
  let deniedCommands ← optional texts guardrails "denied_commands" 0
  let approvalRequiredCommands ← optional texts guardrails "approval_required_commands" 1
  let logLevel ← optional text logging "level" 0
  let logFormat ← optional logFormat logging "format" 1
  some {
    commitTokenTtlSecs, defaultMaxAttempts, claimPollMillis, waitPollMillis, waitTimeoutSecs,
    summaryKeys, heartbeatTtlSecs, failureThreshold, cooldownSecs, defaultMaxConcurrency,
    heartbeatIntervalSecs, deniedCommands, approvalRequiredCommands, agents, logLevel, logFormat }

end Gatehouse.ConfigDocument
