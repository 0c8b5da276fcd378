import Gatehouse.Write.Outcome

/-! # Records of idempotency keys

What is remembered about a key: whether an attempt is running or how the last
one ended, how many attempts there were, and when.
-/

namespace Gatehouse

/-- Where the last attempt for a key stands. -/
inductive KeyState where
  | processing
  | succeeded
  | failed
  deriving DecidableEq, Repr

namespace KeyState

/-- The name of a state. -/
def text : KeyState → String
  | .processing => "processing"
  | .succeeded => "succeeded"
  | .failed => "failed"

/-- Every state under its name. -/
def names : List (String × KeyState) :=
  [processing, succeeded, failed].map fun s => (s.text, s)

/-- Reads a name as people type it. -/
def parse (s : String) : Option KeyState :=
  names.lookup (Text.normalName s)

/-- Decodes a state. -/
def decode : Decoder KeyState :=
  .variant names .direct

end KeyState

/-- What is known about a key. -/
structure KeyRecord where
  key : WriteKey
  state : KeyState
  outcome : Option WriteOutcome
  attempts : Nat
  firstSeenAt : Moment
  updatedAt : Moment
  deriving DecidableEq

namespace KeyRecord

/-- The fields of a record. -/
def record : Record KeyRecord :=
  KeyRecord.mk
    <$> .field "key" (fun j => (Decoder.text j).map WriteKey.mk)
    <*> .field "state" KeyState.decode
    <*> .optional "result" WriteOutcome.decode
    <*> .field "attempt_count" .word32
    <*> .field "first_seen_at" .moment
    <*> .field "updated_at" .moment

/-- Decodes a record. -/
def decode : Decoder KeyRecord :=
  record.decode "struct IdempotencyRecord" .direct

/-- Encodes a record. -/
def toJson (r : KeyRecord) : Json :=
  .ofFields [
    ("key", .str r.key.text),
    ("state", .str r.state.text),
    ("result", .ofOption WriteOutcome.toJson r.outcome),
    ("attempt_count", .ofNat r.attempts),
    ("first_seen_at", .str r.firstSeenAt.text),
    ("updated_at", .str r.updatedAt.text)]

end KeyRecord

end Gatehouse
