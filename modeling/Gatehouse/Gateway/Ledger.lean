import Gatehouse.Table
import Gatehouse.Write.KeyRecord

/-! # The key ledger

The ledger remembers every idempotency key that was ever reserved. A key is
reserved for one attempt at a time; a failed attempt frees it, a successful one
keeps its outcome for all later attempts.
-/

namespace Gatehouse

/-- What an attempt for a key may do. -/
inductive Reservation where
  | reserved
  | inProgress
  | replay (outcome : WriteOutcome)
  deriving DecidableEq

/-- The records of all keys. -/
structure KeyLedger where
  records : Table WriteKey KeyRecord
  deriving DecidableEq

namespace KeyLedger

/-- The ledger without records. -/
def empty : KeyLedger := ⟨.empty⟩

/-- The record of a key. -/
def get? (l : KeyLedger) (key : WriteKey) : Option KeyRecord :=
  l.records.get? key

/-- Marks the next attempt in the record of a key. -/
def reserveAgain (l : KeyLedger) (r : KeyRecord) (key : WriteKey) (now : Moment) : KeyLedger :=
  ⟨l.records.put key
    { r with state := .processing, outcome := none, attempts := r.attempts + 1, updatedAt := now }⟩

/-- Asks to start an attempt for a key. -/
def begin (l : KeyLedger) (key : WriteKey) (now : Moment) : Reservation × KeyLedger :=
  match l.get? key with
  | none => (.reserved, ⟨l.records.put key ⟨key, .processing, none, 1, now, now⟩⟩)
  | some r =>
    match r.state, r.outcome with
    | .succeeded, some outcome => (.replay outcome, l)
    | .processing, _ => (.inProgress, l)
    | .succeeded, none => (.reserved, l.reserveAgain r key now)
    | .failed, _ => (.reserved, l.reserveAgain r key now)

/-- Writes down how an attempt for a key ended. -/
def finish (l : KeyLedger) (key : WriteKey) (state : KeyState) (outcome : WriteOutcome)
    (now : Moment) : KeyLedger :=
  let before := (l.get? key).getD ⟨key, state, none, 1, now, now⟩
  ⟨l.records.put key { before with state := state, outcome := some outcome, updatedAt := now }⟩

/-- The outcome of an attempt that was broken off. -/
def interruption (key : WriteKey) (writeId : WriteId) : WriteOutcome :=
  { WriteOutcome.new .failed writeId with reason := some "commit_interrupted", key := some key }

/-- Writes down that an attempt for a key was broken off. -/
def interrupted (l : KeyLedger) (key : WriteKey) (writeId : WriteId) (now : Moment) : KeyLedger :=
  l.finish key .failed (interruption key writeId) now

/-- The record order: by first appearance, then by key. -/
def recordLe (a b : KeyRecord) : Bool :=
  decide (a.firstSeenAt < b.firstSeenAt) ||
    (decide (a.firstSeenAt ≤ b.firstSeenAt) && decide (a.key.text ≤ b.key.text))

/-- All records, oldest first. -/
def snapshot (l : KeyLedger) : List KeyRecord :=
  l.records.values.mergeSort recordLe

end KeyLedger

end Gatehouse
