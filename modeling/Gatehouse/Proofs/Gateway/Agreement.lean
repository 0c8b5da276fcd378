import Gatehouse.Proofs.Gateway.Answers

/-! # Gateways that agree about a key

A gateway and another that knows nothing of other keys: it has no tokens for
them, and only the record of the one key has to be the same. `AgreesAt` says how
the two are alike. Every turn of a call about the key takes both of them equally
far and keeps it, and so does every turn of a call about another key though only
the first of them takes it.
-/

namespace Gatehouse

namespace KeyLedger

variable {l m : KeyLedger} {key : WriteKey}

/-- Whether an attempt is granted, and its record then, depend on the record of the key alone. -/
theorem begin_congr (hget : m.get? key = l.get? key) (now : Moment) :
    (m.begin key now).1 = (l.begin key now).1 ∧
      (m.begin key now).2.get? key = (l.begin key now).2.get? key := by
  unfold begin
  rw [hget]
  cases hrecord : l.get? key with
  | none => simp [get?, Table.get?_put]
  | some record =>
      cases hstate : record.state with
      | processing => simp [hstate, hrecord, hget]
      | failed => simp [hstate, reserveAgain, get?, Table.get?_put]
      | succeeded =>
          cases houtcome : record.outcome with
          | some outcome => simp [hstate, houtcome, hrecord, hget]
          | none => simp [hstate, houtcome, reserveAgain, get?, Table.get?_put]

theorem finish_congr (hget : m.get? key = l.get? key) (state : KeyState) (outcome : WriteOutcome)
    (now : Moment) :
    (m.finish key state outcome now).get? key = (l.finish key state outcome now).get? key := by
  rw [get?_finish, get?_finish, if_pos rfl, if_pos rfl, hget]

end KeyLedger

namespace Gateway

/-- The second gateway is like the first as far as one key goes, and has no tokens for others. -/
structure AgreesAt (key : WriteKey) (g left : Gateway) : Prop where
  opens : left.opensApprovals = g.opensApprovals
  handlers : left.handlers = g.handlers
  ttl : left.tokens.ttl = g.tokens.ttl
  pending : ∀ token, left.tokens.pending.get? token =
    (g.tokens.pending.get? token).filter fun write => write.envelope.resolvedKey = some key
  record : left.ledger.get? key = g.ledger.get? key

namespace AgreesAt

variable {key : WriteKey} {g left : Gateway} {token : String} {stamp : Stamp}

theorem registered (hagrees : g.AgreesAt key left) (command : String) (handler : HandlerId) :
    (g.register command handler).AgreesAt key (left.register command handler) :=
  { hagrees with
    handlers := congrArg (fun handlers : HandlerTable => handlers.register command handler)
      hagrees.handlers }

theorem purged (hagrees : g.AgreesAt key left) (now : Moment) :
    (g.purge now).AgreesAt key (left.purge now) :=
  { hagrees with
    pending := by
      intro token
      simp only [purge, CommitTokens.purge, Table.get?_filter, hagrees.pending,
        Option.filter_filter, Bool.and_comm] }

theorem withLedger (hagrees : g.AgreesAt key left) {l m : KeyLedger}
    (hget : m.get? key = l.get? key) :
    AgreesAt key { g with ledger := l } { left with ledger := m } :=
  { hagrees with record := hget }

theorem spent (hagrees : g.AgreesAt key left) (token : String) :
    (g.spend token).AgreesAt key (left.spend token) :=
  { hagrees with
    pending := by
      intro other
      simp only [spend, CommitTokens.without, Table.get?_erase, hagrees.pending]
      split <;> rfl }

/-- A token for another key is redeemed. -/
theorem spentApart (hagrees : g.AgreesAt key left)
    (hapart : ∀ write, g.tokens.pending.get? token = some write →
      write.envelope.resolvedKey ≠ some key) : (g.spend token).AgreesAt key left :=
  { hagrees with
    pending := by
      intro other
      rw [hagrees.pending, spend, CommitTokens.without, Table.get?_erase]
      split
      next heq =>
        subst heq
        exact Option.filter_eq_none_iff.mpr fun write hwrite => by simpa using hapart write hwrite
      next => rfl }

theorem mintedFor (hagrees : g.AgreesAt key left) {write : PendingWrite}
    (hkey : write.envelope.resolvedKey = some key) (token : String) :
    AgreesAt key { g with tokens := { g.tokens with pending := g.tokens.pending.put token write } }
      { left with
        tokens := { left.tokens with pending := left.tokens.pending.put token write } } :=
  { hagrees with
    pending := by
      intro other
      simp only [Table.get?_put, hagrees.pending]
      split
      next => simp [Option.filter_some, hkey]
      next => rfl }

/-- A new token is minted for another key. -/
theorem mintedApart (hagrees : g.AgreesAt key left) {write : PendingWrite}
    (hapart : write.envelope.resolvedKey ≠ some key)
    (hfresh : g.tokens.pending.get? token = none) :
    AgreesAt key { g with tokens := { g.tokens with pending := g.tokens.pending.put token write } }
      left :=
  { hagrees with
    pending := by
      intro other
      rw [hagrees.pending, Table.get?_put]
      split
      next heq =>
        subst heq
        simp [Option.filter_some, hfresh, hapart]
      next => rfl }

/-- A token that is good for nothing but the key is worth the same on both sides. -/
theorem worth_eq (hagrees : g.AgreesAt key left)
    (hown : ∀ write, g.tokens.pending.get? token = some write →
      write.envelope.resolvedKey = some key) (now : Moment) :
    left.tokens.worth token now = g.tokens.worth token now := by
  have hpending := hagrees.pending token
  rw [CommitTokens.worth, CommitTokens.worth, hpending]
  cases hwrite : g.tokens.pending.get? token with
  | none => rfl
  | some write => simp [Option.filter_some, hown write hwrite]

theorem settled (hagrees : g.AgreesAt key left) (stamp : Stamp) (envelope : Envelope)
    (answer : Except String Json) :
    (left.settle stamp envelope key answer).2 = (g.settle stamp envelope key answer).2 ∧
      (g.settle stamp envelope key answer).1.AgreesAt key
        (left.settle stamp envelope key answer).1 := by
  cases answer with
  | ok data => exact ⟨rfl, hagrees.withLedger (KeyLedger.finish_congr hagrees.record ..)⟩
  | error reason => exact ⟨rfl, hagrees.withLedger (KeyLedger.finish_congr hagrees.record ..)⟩

theorem applied (hagrees : g.AgreesAt key left) (stamp : Stamp) (envelope : Envelope) :
    (left.apply stamp envelope key).2 = (g.apply stamp envelope key).2 ∧
      (g.apply stamp envelope key).1.AgreesAt key (left.apply stamp envelope key).1 := by
  obtain ⟨hgranted, hget⟩ := KeyLedger.begin_congr hagrees.record stamp.now
  cases hbegin : (g.ledger.begin key stamp.now).1 with
  | inProgress =>
      rw [hbegin] at hgranted
      rw [apply_of_marks (KeyLedger.begin_inProgress_iff.mp hgranted),
        apply_of_marks (KeyLedger.begin_inProgress_iff.mp hbegin)]
      exact ⟨rfl, hagrees⟩
  | replay stored =>
      rw [hbegin] at hgranted
      rw [apply_of_keeps (KeyLedger.begin_replay_iff.mp hgranted),
        apply_of_keeps (KeyLedger.begin_replay_iff.mp hbegin)]
      exact ⟨rfl, hagrees⟩
  | reserved =>
      rw [hbegin] at hgranted
      have hreserved : (g.reserve key stamp.now).AgreesAt key (left.reserve key stamp.now) :=
        hagrees.withLedger hget
      have hsame : left.handlers.get? envelope.command = g.handlers.get? envelope.command := by
        rw [hagrees.handlers]
      cases hhandler : g.handlers.get? envelope.command with
      | some handler =>
          rw [apply_of_handled hgranted (hsame.trans hhandler), apply_of_handled hbegin hhandler]
          exact ⟨rfl, hreserved⟩
      | none =>
          rw [apply_of_unhandled hgranted (hsame.trans hhandler),
            apply_of_unhandled hbegin hhandler]
          exact hreserved.settled stamp envelope
            (.error ("no_handler_registered_for_command:" ++ envelope.command))

theorem committed (hagrees : g.AgreesAt key left)
    (hown : ∀ write, g.tokens.pending.get? token = some write →
      write.envelope.resolvedKey = some key) (stamp : Stamp) :
    (left.commit stamp token).2 = (g.commit stamp token).2 ∧
      (g.commit stamp token).1.AgreesAt key (left.commit stamp token).1 := by
  have hsame := hagrees.worth_eq hown stamp.now
  cases hworth : g.tokens.worth token stamp.now with
  | unknown =>
      simp only [commit, CommitTokens.take, hsame, hworth]
      exact ⟨trivial, hagrees.spent token⟩
  | expired envelope =>
      simp only [commit, CommitTokens.take, hsame, hworth]
      exact ⟨trivial, hagrees.spent token⟩
  | valid envelope =>
      obtain ⟨expiresAt, hpending, _⟩ := CommitTokens.worth_valid_iff.mp hworth
      have hkey : envelope.resolvedKey = some key := hown _ hpending
      rw [commit_of_valid hworth hkey, commit_of_valid (hsame.trans hworth) hkey]
      exact (hagrees.spent token).applied stamp envelope

theorem enacted (hagrees : g.AgreesAt key left) (stamp : Stamp) {request : WriteRequest}
    (hkey : request.envelope.resolvedKey = some key) (decision : Decision) :
    (left.enact stamp request decision).2 = (g.enact stamp request decision).2 ∧
      (g.enact stamp request decision).1.AgreesAt key (left.enact stamp request decision).1 := by
  cases decision with
  | deny reason => exact ⟨rfl, hagrees⟩
  | allow reason =>
      have hsame : stamp.now.add? left.tokens.ttl = stamp.now.add? g.tokens.ttl := by
        rw [hagrees.ttl]
      cases hexpires : stamp.now.add? g.tokens.ttl with
      | none =>
          simp only [enact, accept, CommitTokens.issue, hsame, hexpires]
          exact ⟨rfl, hagrees⟩
      | some expiresAt =>
          simp only [enact, accept, CommitTokens.issue, hsame, hexpires]
          exact ⟨rfl, hagrees.mintedFor hkey stamp.token⟩
  | requiresApproval reason approval payload =>
      cases approval with
      | some approval => exact ⟨rfl, hagrees⟩
      | none =>
          simp only [enact, hagrees.opens]
          split <;> exact ⟨rfl, hagrees⟩

end AgreesAt

end Gateway

/-- All keys that a call can still touch where it waits, the one of its token included, are such. -/
def Call.TouchesOnly (tokens : CommitTokens) (such : WriteKey → Prop) : Call → Prop
  | .receiving request _ | .evaluating request | .judged request _ _ | .opening request _ _ =>
    such request.key
  | .accepting _ token _ _ => ∀ write, tokens.pending.get? token = some write →
    ∃ own, write.envelope.resolvedKey = some own ∧ such own
  | .applying _ own _ => such own
  | .closing .. => True

/-- A token is good for the write that is pending under it, in time or too late. -/
theorem CommitTokens.write?_worth {t : CommitTokens} {token : String} {write : PendingWrite}
    (hwrite : t.pending.get? token = some write) (now : Moment) :
    (t.worth token now).write? = some write.envelope := by
  simp only [worth, hwrite, PendingWrite.redeem]
  split <;> rfl

theorem WriteRequest.Keyed.resolvedKey_eq {request : WriteRequest} (hkeyed : request.Keyed) :
    request.envelope.resolvedKey = some request.key := by
  rw [Envelope.resolvedKey, hkeyed.2]

/-- The key of the write that an event shows: one that was requested, or one whose token was
redeemed. -/
def GatewayEvent.key? : GatewayEvent → Option WriteKey
  | .requested _ envelope => envelope.resolvedKey
  | .redeemed _ _ _ worth => worth.write?.bind Envelope.resolvedKey
  | _ => none

/-- The token that an event shows being minted. -/
def GatewayEvent.token? : GatewayEvent → Option String
  | .minted _ token _ => some token
  | _ => none

namespace Gateway.AgreesAt

variable {key : WriteKey} {g left : Gateway} {stage : Call}

/-- A call about the key gets as far on both sides. -/
theorem resumed (hagrees : g.AgreesAt key left) (hkeyed : stage.Keyed)
    (htouches : stage.TouchesOnly g.tokens (· = key)) (stamp : Stamp) (reply : Reply) :
    (left.resume stamp stage reply).2 = (g.resume stamp stage reply).2 ∧
      (g.resume stamp stage reply).1.AgreesAt key (left.resume stamp stage reply).1 := by
  cases stage with
  | receiving | evaluating | closing => cases reply <;> exact ⟨rfl, hagrees⟩
  | judged request decision event =>
      obtain rfl : request.key = key := htouches
      cases reply with
      | recorded accepted =>
          exact hagrees.enacted stamp (WriteRequest.Keyed.resolvedKey_eq hkeyed) decision
      | _ => exact ⟨rfl, hagrees⟩
  | opening request reason payload =>
      cases reply with
      | opened answer => cases answer <;> exact ⟨rfl, hagrees⟩
      | _ => exact ⟨rfl, hagrees⟩
  | accepting outcome token thenCommit event =>
      have hown : ∀ write, g.tokens.pending.get? token = some write →
          write.envelope.resolvedKey = some key := by
        intro write hwrite
        obtain ⟨own, hkey, rfl⟩ := htouches write hwrite
        exact hkey
      cases reply with
      | recorded accepted =>
          cases thenCommit with
          | true => exact hagrees.committed hown stamp
          | false => exact ⟨rfl, hagrees⟩
      | _ => exact ⟨rfl, hagrees⟩
  | applying envelope own handler =>
      obtain rfl : own = key := htouches
      cases reply with
      | applied answer => exact hagrees.settled stamp envelope _
      | _ => exact ⟨rfl, hagrees⟩

theorem abandoned (hagrees : g.AgreesAt key left)
    (htouches : stage.TouchesOnly g.tokens (· = key)) (now : Moment) :
    (g.abandon now stage).AgreesAt key (left.abandon now stage) := by
  cases stage with
  | applying envelope own handler =>
      obtain rfl : own = key := htouches
      exact hagrees.withLedger (KeyLedger.finish_congr hagrees.record ..)
  | _ => exact hagrees

/-- A call about other keys makes no difference to what is known of the key. -/
theorem turnedApart {call : CallId} {now : Moment} {stage? : Option Call} {seen : List GatewayEvent}
    {after : Gateway × Progress} (hagrees : g.AgreesAt key left)
    (hturn : Turn g call now stage? seen after)
    (hkeyed : ∀ stage, stage? = some stage → stage.Keyed)
    (htouches : ∀ stage, stage? = some stage → stage.TouchesOnly g.tokens (· ≠ key))
    (hseen : ∀ event ∈ seen, event.key? ≠ some key)
    (hfresh : ∀ token, .minted call token now ∈ after.2.events call now →
      g.tokens.pending.get? token = none) : after.1.AgreesAt key left := by
  cases hturn with
  | minted request reason event accepting accepted token expiresAt outcome hexpires =>
      have hkey : request.envelope.resolvedKey = some request.key :=
        WriteRequest.Keyed.resolvedKey_eq (hkeyed _ rfl)
      have hother : request.key ≠ key := htouches _ rfl
      apply hagrees.mintedApart
      · rw [hkey]
        exact fun heq => hother (Option.some.inj heq)
      · exact hfresh token (by simp [Progress.events])
  | committed _ earlier stamp token _ hnow hredeems hcommits =>
      have hredeemed := hseen (.redeemed call token now (g.tokens.worth token now)) (by simp)
      have hspent : (g.spend token).AgreesAt key left := by
        apply hagrees.spentApart
        intro write hwrite hkey
        apply hredeemed
        rw [GatewayEvent.key?, CommitTokens.write?_worth hwrite]
        exact hkey
      subst hnow
      have hother : ∀ {envelope own}, g.tokens.worth token stamp.now = .valid envelope →
          envelope.resolvedKey = some own → key ≠ own := by
        rintro envelope own hworth hown rfl
        rw [hworth] at hredeemed
        exact hredeemed hown
      cases hcommits with
      | invalid | keyless | busy | replayed => exact hspent
      | reserved envelope own handler hworth hkey hreserved hhandler =>
          exact { hspent with
            record := hspent.record.trans
              (KeyLedger.get?_begin_reserved_ne hreserved (hother hworth hkey)).symm }
      | unhandled envelope own reason event hworth hkey hreserved hhandler =>
          exact { hspent with
            record := by
              rw [finished, KeyLedger.get?_finish_ne (hother hworth hkey), reserve, spend,
                KeyLedger.get?_begin_reserved_ne hreserved (hother hworth hkey)]
              exact hspent.record }
  | settled envelope own handler answer event =>
      have hother : own ≠ key := htouches _ rfl
      exact { hagrees with
        record := hagrees.record.trans (KeyLedger.get?_finish_ne hother.symm ..).symm }
  | interrupted envelope own handler =>
      have hother : own ≠ key := htouches _ rfl
      exact { hagrees with
        record := hagrees.record.trans (KeyLedger.get?_finish_ne hother.symm ..).symm }
  | _ => exact hagrees

end Gateway.AgreesAt

end Gatehouse
