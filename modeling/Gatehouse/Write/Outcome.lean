import Gatehouse.Json.Decode
import Gatehouse.Text.Blank
import Gatehouse.Write.Key

/-! # Outcomes of writes

What the gateway answers to a write: a status, and whatever goes with it. The
answer says success for the three statuses that let the caller go on.
-/

namespace Gatehouse

/-- How far a write got. -/
inductive WriteStatus where
  | accepted
  | requiresApproval
  | rejected
  | applied
  | replayed
  | failed
  | invalidToken
  deriving DecidableEq, Repr

namespace WriteStatus

/-- The name of a status. -/
def text : WriteStatus → String
  | .accepted => "accepted"
  | .requiresApproval => "requires_approval"
  | .rejected => "rejected"
  | .applied => "applied"
  | .replayed => "replayed"
  | .failed => "failed"
  | .invalidToken => "invalid_token"

/-- Every status under its name. -/
def names : List (String × WriteStatus) :=
  [accepted, requiresApproval, rejected, applied, replayed, failed, invalidToken].map
    fun s => (s.text, s)

/-- Reads a name as people type it. -/
def parse (s : String) : Option WriteStatus :=
  names.lookup (Text.normalName s)

/-- Decodes a status. -/
def decode : Decoder WriteStatus :=
  .variant names .direct

/-- The statuses after which the caller can go on. -/
def isSuccess : WriteStatus → Bool
  | .accepted | .applied | .replayed => true
  | .requiresApproval | .rejected | .failed | .invalidToken => false

end WriteStatus

/-- The answer to a write. -/
structure WriteOutcome where
  success : Bool
  status : WriteStatus
  writeId : WriteId
  reason : Option String
  data : Option Json
  auditId : Option String
  key : Option WriteKey
  token : Option String
  approval : Option String
  deriving DecidableEq

namespace WriteOutcome

/-- The answer with the given status and nothing else. -/
def new (status : WriteStatus) (writeId : WriteId) : WriteOutcome where
  success := status.isSuccess
  status := status
  writeId := writeId
  reason := none
  data := none
  auditId := none
  key := none
  token := none
  approval := none

/-- The fields of an answer. -/
def record : Record WriteOutcome :=
  WriteOutcome.mk
    <$> .field "success" .boolean
    <*> .field "status" WriteStatus.decode
    <*> .field "write_id" (fun j => (Decoder.text j).map WriteId.mk)
    <*> .optional "reason" .text
    <*> .optional "data" .value
    <*> .optional "audit_id" .text
    <*> .optional "idempotency_key" (fun j => (Decoder.text j).map WriteKey.mk)
    <*> .optional "commit_token" .text
    <*> .optional "approval_id" .text

/-- Decodes an answer. -/
def decode : Decoder WriteOutcome :=
  record.decode "struct WriteResult" .direct

/-- Encodes an answer. -/
def toJson (r : WriteOutcome) : Json :=
  .ofFields [
    ("success", .bool r.success),
    ("status", .str r.status.text),
    ("write_id", .str r.writeId.text),
    ("reason", .ofText? r.reason),
    ("data", r.data.getD .null),
    ("audit_id", .ofText? r.auditId),
    ("idempotency_key", .ofText? (r.key.map WriteKey.text)),
    ("commit_token", .ofText? r.token),
    ("approval_id", .ofText? r.approval)]

end WriteOutcome

end Gatehouse
