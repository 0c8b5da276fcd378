import Gatehouse.Json.Decode
import Gatehouse.Table

/-! # Isolated agents

The agents an operator has taken out of service. An agent stays isolated until
it is released; isolating it again replaces reason and date.
-/

namespace Gatehouse

/-- Why and since when an agent is out of service. -/
structure Isolation where
  agent : String
  reason : Option String
  isolatedAt : Moment
  deriving DecidableEq

namespace Isolation

/-- The fields of an isolation. -/
def record : Record Isolation :=
  Isolation.mk
    <$> .field "agent" .text
    <*> .optional "reason" .text
    <*> .field "isolated_at" .moment

/-- Decodes an isolation. -/
def decode (reading : Reading) : Decoder Isolation :=
  record.decode "struct IsolationEntry" reading

/-- Encodes an isolation. -/
def toJson (i : Isolation) : Json :=
  .ofFields [
    ("agent", .str i.agent),
    ("reason", .ofText? i.reason),
    ("isolated_at", .str i.isolatedAt.text)]

end Isolation

/-- The isolated agents. -/
structure IsolationBook where
  entries : Table String Isolation
  deriving DecidableEq

namespace IsolationBook

/-- The book in which every agent is in service. -/
def empty : IsolationBook := ⟨.empty⟩

/-- The isolation of an agent. -/
def get? (book : IsolationBook) (agent : String) : Option Isolation :=
  book.entries.get? agent

/-- Whether an agent is out of service. -/
def isIsolated (book : IsolationBook) (agent : String) : Bool :=
  book.entries.contains agent

/-- Takes an agent out of service. -/
def isolate (book : IsolationBook) (agent : String) (reason : Option String) (now : Moment) :
    IsolationBook :=
  ⟨book.entries.put agent ⟨agent, reason, now⟩⟩

/-- Puts an agent back into service. -/
def release (book : IsolationBook) (agent : String) : IsolationBook :=
  ⟨book.entries.erase agent⟩

/-- All isolations, by agent. -/
def snapshot (book : IsolationBook) : List Isolation :=
  book.entries.values.mergeSort fun a b => decide (a.agent ≤ b.agent)

end IsolationBook

end Gatehouse
