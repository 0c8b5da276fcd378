import Gatehouse.Json.Decode
import Gatehouse.Stamp
import Gatehouse.Table

/-! # The approval book

Approvals are opened when governance parks a write and decided by an operator.
The book knows every approval it ever opened; a decision on one it knows takes
effect whatever was decided before, and a decision on any other does nothing.
-/

namespace Gatehouse

/-- What an operator has said about an approval. -/
inductive ApprovalState where
  | pending
  | approved
  | rejected
  deriving DecidableEq, Repr

namespace ApprovalState

/-- The name of a state. -/
def text : ApprovalState → String
  | .pending => "pending"
  | .approved => "approved"
  | .rejected => "rejected"

/-- Every state under its name. -/
def names : List (String × ApprovalState) :=
  [pending, approved, rejected].map fun s => (s.text, s)

/-- Decodes a state. -/
def decode : Decoder ApprovalState :=
  .variant names .direct

end ApprovalState

/-- All approvals ever opened, by name. -/
structure ApprovalBook where
  states : Table String ApprovalState
  deriving DecidableEq, Inhabited

namespace ApprovalBook

/-- The book before anything was opened. -/
def empty : ApprovalBook := ⟨.empty⟩

/-- The name that an approval opened with this stamp gets. -/
def nameFor (stamp : Stamp) : String :=
  "apr_" ++ stamp.id

/-- Opens an approval. -/
def opened (book : ApprovalBook) (stamp : Stamp) : ApprovalBook :=
  ⟨book.states.put (nameFor stamp) .pending⟩

/-- The state of an approval, if the book opened it. -/
def state? (book : ApprovalBook) (id : String) : Option ApprovalState :=
  book.states.get? id

/-- Whether the book opened an approval. -/
def knows (book : ApprovalBook) (id : String) : Bool :=
  (book.state? id).isSome

/-- Writes down an operator's decision on an approval that the book knows. -/
def decide (book : ApprovalBook) (id : String) (decision : ApprovalState) : ApprovalBook :=
  ⟨book.states.modify id fun _ => decision⟩

/-- The operator grants an approval. -/
def approve (book : ApprovalBook) (id : String) : ApprovalBook :=
  book.decide id .approved

/-- The operator refuses an approval. -/
def reject (book : ApprovalBook) (id : String) : ApprovalBook :=
  book.decide id .rejected

/-- How many approvals wait for a decision. -/
def pendingCount (book : ApprovalBook) : Nat :=
  book.states.values.countP fun s => Decidable.decide (s = .pending)

theorem state?_opened (book : ApprovalBook) (stamp : Stamp) (id : String) :
    (book.opened stamp).state? id =
      if id = nameFor stamp then some .pending else book.state? id :=
  Table.get?_put ..

theorem state?_decide (book : ApprovalBook) (id other : String) (decision : ApprovalState) :
    (book.decide id decision).state? other =
      if other = id then (book.state? other).map fun _ => decision else book.state? other :=
  Table.get?_modify ..

end ApprovalBook

end Gatehouse
