import Gatehouse.Json.Decode

/-! # Policy decisions

What governance is asked before a write goes on, and what it may answer. Some
evaluators answer with a bare verdict; `Verdict.decision` reads it as a
decision.
-/

namespace Gatehouse

/-- The question put to governance. -/
structure PolicyRequest where
  actor : String
  contextType : String
  command : String
  parameters : Json
  execution : Option String
  approval : Option String
  deriving DecidableEq

namespace PolicyRequest

/-- The fields of a question. -/
def record : Record PolicyRequest :=
  PolicyRequest.mk
    <$> .field "actor_id" .text
    <*> .field "context_type" .text
    <*> .field "directive" .text
    <*> .field "params" .value
    <*> .optional "execution_id" .text
    <*> .optional "approval_id" .text

/-- Decodes a question. -/
def decode : Decoder PolicyRequest :=
  record.decode "struct PolicyRequest" .direct

/-- Encodes a question. -/
def toJson (r : PolicyRequest) : Json :=
  .ofFields [
    ("actor_id", .str r.actor),
    ("context_type", .str r.contextType),
    ("directive", .str r.command),
    ("params", r.parameters),
    ("execution_id", .ofText? r.execution),
    ("approval_id", .ofText? r.approval)]

end PolicyRequest

/-- The answer of governance. -/
inductive Decision where
  | allow (reason : Option String)
  | deny (reason : String)
  | requiresApproval (reason : String) (approval : Option String) (payload : Json)
  deriving DecidableEq

namespace Decision

/-- The name of the kind of a decision. -/
def kind : Decision → String
  | .allow _ => "allow"
  | .deny _ => "deny"
  | .requiresApproval .. => "requires_approval"

/-- The reason given. -/
def reason : Decision → Option String
  | .allow reason => reason
  | .deny reason => some reason
  | .requiresApproval reason _ _ => some reason

/-- The kinds of decision, each with how the rest of it decodes. -/
def kinds : List (String × Decoder Decision) := [
  ("allow",
    (Decision.allow <$> Record.optional "reason" .text).decode
      "struct variant PolicyDecision::Allow" .setAside),
  ("deny",
    (Decision.deny <$> Record.field "reason" .text).decode
      "struct variant PolicyDecision::Deny" .setAside),
  ("requires_approval",
    (Decision.requiresApproval
      <$> Record.field "reason" .text
      <*> Record.optional "approval_id" .text
      <*> Record.defaulted "approval_payload" .value .null).decode
        "struct variant PolicyDecision::RequiresApproval" .setAside)]

/-- Decodes a decision: the kind stands under `decision` in an object and first in an array. -/
def decode : Decoder Decision
  | .obj fields =>
    match fields.lookup "decision" with
    | some tag => do
      let decodeRest ← choose tag
      decodeRest (.obj (fields.filter fun (k, _) => decide (k ≠ "decision")))
    | none => .error (.missingField "decision")
  | .arr (tag :: items) => do
    let decodeRest ← choose tag
    decodeRest (.arr items)
  | .arr [] => .error (.missingField "decision")
  | j => .error (.wrongType j "internally tagged enum PolicyDecision")
where
  choose : Json → Except DecodeError (Decoder Decision)
    | .str name =>
      match kinds.lookup name with
      | some decoder => .ok decoder
      | none => .error (.unknownVariant name (kinds.map Prod.fst))
    | j => .error (.wrongType j "variant identifier")

/-- Encodes a decision. -/
def toJson : Decision → Json
  | .allow reason => .ofFields [("decision", .str "allow"), ("reason", .ofText? reason)]
  | .deny reason => .ofFields [("decision", .str "deny"), ("reason", .str reason)]
  | .requiresApproval reason approval payload =>
    .ofFields [
      ("decision", .str "requires_approval"),
      ("reason", .str reason),
      ("approval_id", .ofText? approval),
      ("approval_payload", payload)]

end Decision

/-- A bare yes or no, perhaps with the approval that is still missing. -/
structure Verdict where
  allowed : Bool
  approval : Option String
  reason : Option String
  deriving DecidableEq

namespace Verdict

/-- The fields of a verdict. -/
def record : Record Verdict :=
  Verdict.mk
    <$> .field "allowed" .boolean
    <*> .defaulted "approval_id" (.nullable .text) none
    <*> .defaulted "reason" (.nullable .text) none

/-- Decodes a verdict. -/
def decode : Decoder Verdict :=
  record.decode "struct GovernanceVerdict" .direct

/-- Encodes a verdict. -/
def toJson (v : Verdict) : Json :=
  .ofFields [
    ("allowed", .bool v.allowed),
    ("approval_id", .ofText? v.approval),
    ("reason", .ofText? v.reason)]

/-- A refusal waits for approval when it names one or says so, and is a denial otherwise. -/
def decision (v : Verdict) : Decision :=
  if v.allowed then .allow v.reason
  else if v.approval.isSome ∨ v.reason = some "requires_approval" then
    .requiresApproval (v.reason.getD "requires_approval") v.approval .null
  else .deny (v.reason.getD "policy_denied")

end Verdict

end Gatehouse
