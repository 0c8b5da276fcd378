import Gatehouse.Approval.Book
import Gatehouse.Fault
import Gatehouse.Policy.Decision

/-! # Guardrails

The policy by which governance decides when nobody else does: some commands are
denied, some need an approval, all others are allowed. Commands are compared as
they are. A command that needs an approval goes through once the approval that
comes with it is granted; an approval nobody opened counts as none.
-/

namespace Gatehouse

/-- The commands that are denied and those that need an approval. -/
structure Guardrails where
  denied : List String
  approvalRequired : List String
  deriving DecidableEq

namespace Guardrails

/-- Guardrails that allow everything. -/
def allowAll : Guardrails := ⟨[], []⟩

/-- Denies one more command. -/
def deny (g : Guardrails) (command : String) : Guardrails :=
  { g with denied := g.denied ++ [command] }

/-- Makes one more command need an approval. -/
def requireApproval (g : Guardrails) (command : String) : Guardrails :=
  { g with approvalRequired := g.approvalRequired ++ [command] }

/-- The decision that parks a write. -/
def parked (question : PolicyRequest) (reason : String) (approval : Option String) : Decision :=
  .requiresApproval reason approval (.ofFields [
    ("actor_id", .str question.actor),
    ("context_type", .str question.contextType),
    ("command", .str question.command),
    ("execution_id", .ofText? question.execution)])

/-- Decides on a write whose approval stands as given. -/
def decideOn (question : PolicyRequest) (approval : String) : Option ApprovalState → Decision
  | some .approved => .allow (some "approval_granted")
  | some .rejected => .deny "approval_rejected"
  | some .pending => parked question "approval_pending" (some approval)
  | none => parked question "approval_unknown" none

/-- Decides on a write; `status` says how an approval stands, if the policy has to ask. -/
def decide (g : Guardrails) (status : String → Except Fault (Option ApprovalState))
    (question : PolicyRequest) : Except Fault Decision :=
  if question.command ∈ g.denied then .ok (.deny "command_denied")
  else if question.command ∉ g.approvalRequired then .ok (.allow none)
  else
    match question.approval with
    | none => .ok (parked question "approval_required" none)
    | some approval => (status approval).map (decideOn question approval)

/-- Decides on a write by an approval book. -/
def decideBy (g : Guardrails) (book : ApprovalBook) : PolicyRequest → Except Fault Decision :=
  g.decide fun id => .ok (book.state? id)

end Guardrails

end Gatehouse
