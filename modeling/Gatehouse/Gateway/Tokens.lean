import Gatehouse.Table
import Gatehouse.Write.Envelope

/-! # Commit tokens

Writes that were accepted and not yet committed, each under a token that can be
redeemed once and only for a limited time. Purging drops the tokens whose time
is over and changes nothing about the others.
-/

namespace Gatehouse

/-- An accepted write and the moment its token ends. -/
structure PendingWrite where
  envelope : Envelope
  expiresAt : Moment
  deriving DecidableEq

/-- What a token turned out to be worth. -/
inductive Redemption where
  | valid (envelope : Envelope)
  | expired (envelope : Envelope)
  | unknown
  deriving DecidableEq

/-- The accepted writes by token, and how long a token lasts. -/
structure CommitTokens where
  ttl : Span
  pending : Table String PendingWrite
  deriving DecidableEq

namespace CommitTokens

/-- No accepted writes yet. -/
def new (ttl : Span) : CommitTokens := ⟨ttl, .empty⟩

/-- Accepts a write under the token of the stamp and says when that ends. There is no answer when
no calendar shows the end. -/
def issue (t : CommitTokens) (token : String) (envelope : Envelope) (now : Moment) :
    Option (Moment × CommitTokens) :=
  (now.add? t.ttl).map fun expiresAt =>
    (expiresAt, { t with pending := t.pending.put token ⟨envelope, expiresAt⟩ })

/-- What a pending write is worth at a moment. -/
def PendingWrite.redeem (p : PendingWrite) (now : Moment) : Redemption :=
  if p.expiresAt ≤ now then .expired p.envelope else .valid p.envelope

/-- What a token is worth at a moment. -/
def worth (t : CommitTokens) (token : String) (now : Moment) : Redemption :=
  match t.pending.get? token with
  | some p => PendingWrite.redeem p now
  | none => .unknown

section Worth

variable {t : CommitTokens} {token : String} {now : Moment} {envelope : Envelope}

theorem worth_valid_iff : t.worth token now = .valid envelope ↔
    ∃ expiresAt, t.pending.get? token = some ⟨envelope, expiresAt⟩ ∧ now < expiresAt := by
  cases hpending : t.pending.get? token with
  | none => simp [worth, hpending]
  | some write =>
      obtain ⟨found, expiresAt⟩ := write
      have hlt : ¬ expiresAt ≤ now ↔ now < expiresAt := Int.not_le
      by_cases hover : expiresAt ≤ now
      · simp [worth, hpending, PendingWrite.redeem, hover, ← hlt, and_assoc]
      · simp [worth, hpending, PendingWrite.redeem, hover, ← hlt, and_assoc]

theorem worth_expired_iff : t.worth token now = .expired envelope ↔
    ∃ expiresAt, t.pending.get? token = some ⟨envelope, expiresAt⟩ ∧ expiresAt ≤ now := by
  cases hpending : t.pending.get? token with
  | none => simp [worth, hpending]
  | some write =>
      obtain ⟨found, expiresAt⟩ := write
      by_cases hover : expiresAt ≤ now
      · simp [worth, hpending, PendingWrite.redeem, hover, and_assoc]
      · simp [worth, hpending, PendingWrite.redeem, hover, and_assoc]

theorem worth_unknown_iff : t.worth token now = .unknown ↔ t.pending.get? token = none := by
  cases hpending : t.pending.get? token with
  | none => simp [worth, hpending]
  | some write =>
      simp only [worth, hpending, PendingWrite.redeem]
      split <;> simp

end Worth

/-- The tokens after one was redeemed or tried. -/
def without (t : CommitTokens) (token : String) : CommitTokens :=
  { t with pending := t.pending.erase token }

/-- Redeems a token: it is gone afterwards, whatever it was worth. -/
def take (t : CommitTokens) (token : String) (now : Moment) : Redemption × CommitTokens :=
  (t.worth token now, t.without token)

/-- Drops the tokens whose time is over. -/
def purge (t : CommitTokens) (now : Moment) : CommitTokens :=
  { t with pending := t.pending.filter fun p => decide (now < p.expiresAt) }

/-- The number of accepted writes. -/
def size (t : CommitTokens) : Nat :=
  t.pending.size

/-- How many tokens purging drops. -/
def purged (t : CommitTokens) (now : Moment) : Nat :=
  t.size - (t.purge now).size

end CommitTokens

end Gatehouse
