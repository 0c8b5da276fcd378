import Gatehouse.Json.Decode
import Gatehouse.Table

/-! # Agent load

How many executions each agent is busy with, how many of its last ones failed
in a row, and until when it is left alone after too many did. A slot is taken
only while the agent is below its ceiling and not cooling down; the failure
that reaches the threshold opens a cooldown and starts the count afresh.
-/

namespace Gatehouse

/-- The load of one agent. -/
structure AgentLoad where
  agent : String
  inFlight : Nat
  maxConcurrency : Nat
  consecutiveFailures : Nat
  cooldownUntil : Option Moment
  deriving DecidableEq

namespace AgentLoad

/-- The end of the cooldown that a moment falls into. -/
def coolingUntil? (l : AgentLoad) (now : Moment) : Option Moment :=
  l.cooldownUntil.filter fun u => decide (now < u)

/-- The agent is being left alone. -/
def isCooling (l : AgentLoad) (now : Moment) : Bool :=
  (l.coolingUntil? now).isSome

/-- The agent can take one more execution. -/
def canAccept (l : AgentLoad) (now : Moment) : Bool :=
  decide (l.inFlight < l.maxConcurrency) && !l.isCooling now

/-- The fields of a load record. -/
def record : Record AgentLoad :=
  AgentLoad.mk
    <$> .field "agent" .text
    <*> .field "in_flight" .word32
    <*> .field "max_concurrency" .word32
    <*> .field "consecutive_failures" .word32
    <*> .optional "cooldown_until" .moment

/-- Decodes a load record. -/
def decode (reading : Reading) : Decoder AgentLoad :=
  record.decode "struct AgentLoad" reading

/-- Encodes a load record. -/
def toJson (l : AgentLoad) : Json :=
  .ofFields [
    ("agent", .str l.agent),
    ("in_flight", .ofNat l.inFlight),
    ("max_concurrency", .ofNat l.maxConcurrency),
    ("consecutive_failures", .ofNat l.consecutiveFailures),
    ("cooldown_until", .ofText? (l.cooldownUntil.map Moment.text))]

end AgentLoad

/-- Why a slot was not given. -/
inductive LoadError where
  | notRegistered (agent : String)
  | atCapacity (agent : String) (inFlight maxConcurrency : Nat)
  | coolingDown (agent : String) (deadline : Moment)
  deriving DecidableEq

namespace LoadError

/-- The wording of a load error. -/
def message : LoadError → String
  | .notRegistered agent => "agent `" ++ agent ++ "` is not registered"
  | .atCapacity agent inFlight maxConcurrency =>
    "agent `" ++ agent ++ "` is at capacity (" ++ toString inFlight ++ "/" ++
      toString maxConcurrency ++ ")"
  | .coolingDown agent deadline =>
    "agent `" ++ agent ++ "` is cooling down until " ++ deadline.display

end LoadError

/-- When the breaker opens, for how long, and the ceiling of an agent that brings none. -/
structure LoadPolicy where
  failureThreshold : Nat
  cooldown : Span
  defaultMaxConcurrency : Nat
  deriving DecidableEq

/-- What a failure led to. The last case is a cooldown whose end no calendar shows. -/
inductive FailureEffect where
  | counted
  | opened
  | overflow
  deriving DecidableEq, Repr

/-- The load of all agents. -/
structure LoadBook where
  policy : LoadPolicy
  records : Table String AgentLoad
  deriving DecidableEq

namespace LoadBook

/-- The book without records. -/
def new (policy : LoadPolicy) : LoadBook := ⟨policy, .empty⟩

/-- The record of an agent. -/
def get? (book : LoadBook) (agent : String) : Option AgentLoad :=
  book.records.get? agent

/-- The ceiling of an agent that asks for one, or for none: at least one. -/
def ceiling (book : LoadBook) (wanted : Option Nat) : Nat :=
  max (wanted.getD book.policy.defaultMaxConcurrency) 1

/-- Starts a record for an agent, or sets the ceiling of the record it has. -/
def register (book : LoadBook) (agent : String) (wanted : Option Nat) : LoadBook :=
  let fresh : AgentLoad := ⟨agent, 0, book.ceiling wanted, 0, none⟩
  let before := (book.get? agent).getD fresh
  { book with
    records := book.records.put agent { before with maxConcurrency := book.ceiling wanted } }

/-- Whether an agent can take one more execution. -/
def canAccept (book : LoadBook) (agent : String) (now : Moment) : Bool :=
  match book.get? agent with
  | some l => l.canAccept now
  | none => false

/-- Takes a slot and says how many are taken then. -/
def reserve (book : LoadBook) (agent : String) (now : Moment) :
    Except LoadError (Nat × LoadBook) :=
  match book.get? agent with
  | none => .error (.notRegistered agent)
  | some l =>
    match l.coolingUntil? now with
    | some u => .error (.coolingDown agent u)
    | none =>
      if l.maxConcurrency ≤ l.inFlight then
        .error (.atCapacity agent l.inFlight l.maxConcurrency)
      else
        .ok (l.inFlight + 1,
          { book with records := book.records.put agent { l with inFlight := l.inFlight + 1 } })

/-- Gives a slot back; there are never less than none taken. -/
def release (book : LoadBook) (agent : String) : LoadBook :=
  { book with
    records := book.records.modify agent fun l => { l with inFlight := l.inFlight - 1 } }

/-- The number of slots an agent has taken; none if it is not registered. -/
def inFlight (book : LoadBook) (agent : String) : Nat :=
  ((book.get? agent).map AgentLoad.inFlight).getD 0

/-- Counts a failure. The one that reaches the threshold opens a cooldown and resets the count. A
cooldown whose end no calendar shows leaves the failure counted and nothing else changed. -/
def failed (book : LoadBook) (agent : String) (now : Moment) : LoadBook × FailureEffect :=
  match book.get? agent with
  | none => (book, .counted)
  | some l =>
    let counted := { l with consecutiveFailures := l.consecutiveFailures + 1 }
    let keep (l : AgentLoad) : LoadBook := { book with records := book.records.put agent l }
    if counted.consecutiveFailures < book.policy.failureThreshold then (keep counted, .counted)
    else
      match now.add? book.policy.cooldown with
      | some u =>
        (keep { counted with cooldownUntil := some u, consecutiveFailures := 0 }, .opened)
      | none => (keep counted, .overflow)

/-- A success ends a row of failures. An open cooldown runs on. -/
def succeeded (book : LoadBook) (agent : String) : LoadBook :=
  { book with
    records := book.records.modify agent fun l => { l with consecutiveFailures := 0 } }

/-- All records, by agent. -/
def snapshot (book : LoadBook) : List AgentLoad :=
  book.records.values.mergeSort fun a b => decide (a.agent ≤ b.agent)

end LoadBook

end Gatehouse
