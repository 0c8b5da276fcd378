import Gatehouse.Json.Decode
import Gatehouse.Stamp
import Gatehouse.Write.Key

/-! # Write envelopes

A write that somebody wants done: who, what, on which resource, with which
payload, and the names that tie it to a task, an execution, an idempotency key
and an approval.
-/

namespace Gatehouse

/-- A requested write. -/
structure Envelope where
  command : String
  actor : String
  resource : String
  payload : Json
  task : Option String
  execution : Option String
  key : Option WriteKey
  approval : Option String
  id : WriteId
  createdAt : Moment
  deriving DecidableEq

namespace Envelope

/-- A write named and dated by the stamp, tied to nothing yet. -/
def new (stamp : Stamp) (command actor resource : String) (payload : Json) : Envelope where
  command := command
  actor := actor
  resource := resource
  payload := payload
  task := none
  execution := none
  key := none
  approval := none
  id := ⟨stamp.id⟩
  createdAt := stamp.now

/-- The key of the write: the one supplied, or the one derived once an execution is known. -/
def resolvedKey (e : Envelope) : Option WriteKey :=
  match e.key with
  | some key => some key
  | none => e.execution.map fun execution =>
      WriteKey.derive e.task execution e.command e.resource

/-- The part of the resource before its first colon, or all of it when that part is empty or there
is no colon. -/
def contextType (e : Envelope) : String :=
  let front := e.resource.toList.takeWhile (· ≠ ':')
  if front.isEmpty then e.resource else String.ofList front

/-- The fields of an envelope. An identifier and a date that are missing come from the stamp. -/
def record (stamp : Stamp) : Record Envelope :=
  Envelope.mk
    <$> .field "command" .text
    <*> .field "actor_id" .text
    <*> .field "resource" .text
    <*> .defaulted "payload" .value .null
    <*> .defaulted "task_id" (.nullable .text) none
    <*> .defaulted "execution_id" (.nullable .text) none
    <*> .defaulted "idempotency_key" (.nullable fun j => (Decoder.text j).map WriteKey.mk) none
    <*> .defaulted "approval_id" (.nullable .text) none
    <*> .defaulted "write_id" (fun j => (Decoder.text j).map WriteId.mk) ⟨stamp.id⟩
    <*> .defaulted "created_at" .moment stamp.now

/-- Decodes an envelope. -/
def decode (stamp : Stamp) : Decoder Envelope :=
  (record stamp).decode "struct WriteEnvelope" .direct

/-- Encodes an envelope. -/
def toJson (e : Envelope) : Json :=
  .ofFields [
    ("command", .str e.command),
    ("actor_id", .str e.actor),
    ("resource", .str e.resource),
    ("payload", e.payload),
    ("task_id", .ofText? e.task),
    ("execution_id", .ofText? e.execution),
    ("idempotency_key", .ofText? (e.key.map WriteKey.text)),
    ("approval_id", .ofText? e.approval),
    ("write_id", .str e.id.text),
    ("created_at", .str e.createdAt.text)]

end Envelope

end Gatehouse
