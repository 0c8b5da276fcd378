import Gatehouse.Json.Decode

/-! # Agent tasks

What an agent's executor is handed, and what is reported when it is done or
could not even start. A failed execution is a report like any other.
-/

namespace Gatehouse

/-- A unit of work for one agent. -/
structure AgentTask where
  execution : String
  agent : String
  command : String
  payload : Json
  deriving DecidableEq

namespace AgentTask

/-- The fields of a task. -/
def record : Record AgentTask :=
  AgentTask.mk
    <$> .field "execution_id" .text
    <*> .field "agent" .text
    <*> .field "command" .text
    <*> .field "payload" .value

/-- Decodes a task. -/
def decode : Decoder AgentTask :=
  record.decode "struct AgentTask" .direct

/-- Encodes a task. -/
def toJson (t : AgentTask) : Json :=
  .ofFields [
    ("execution_id", .str t.execution),
    ("agent", .str t.agent),
    ("command", .str t.command),
    ("payload", t.payload)]

end AgentTask

/-- How an execution ended. -/
structure ExecutionReport where
  success : Bool
  execution : Option String
  agent : Option String
  result : Option Json
  reason : Option String
  error : Option String
  deriving DecidableEq

namespace ExecutionReport

/-- The report of an execution that no agent was found for. -/
def rejected (reason : String) : ExecutionReport :=
  ⟨false, none, none, none, some reason, none⟩

/-- The fields of a report. -/
def record : Record ExecutionReport :=
  ExecutionReport.mk
    <$> .field "success" .boolean
    <*> .optional "execution_id" .text
    <*> .optional "agent" .text
    <*> .optional "result" .value
    <*> .optional "reason" .text
    <*> .optional "error" .text

/-- Decodes a report. -/
def decode : Decoder ExecutionReport :=
  record.decode "struct AgentExecution" .direct

/-- Encodes a report; what there is nothing to say about is left out. -/
def toJson (r : ExecutionReport) : Json :=
  .ofFields (
    ("success", .bool r.success) ::
    Json.optionalField "execution_id" .str r.execution ++
    Json.optionalField "agent" .str r.agent ++
    Json.optionalField "result" id r.result ++
    Json.optionalField "reason" .str r.reason ++
    Json.optionalField "error" .str r.error)

end ExecutionReport

end Gatehouse
