import Gatehouse.Proofs.Gateway.Answers
import Gatehouse.Proofs.Gateway.LastEvent

/-! # Every write carries its key

A write is told its key when it is requested, and commits much later, when
whoever requested it may be gone. Nothing is looked up then: the write under a
token has its key filled in, the one that went into the acceptance, so a commit
never lacks one. The ledger that it commits to files every record under the key
that the record names, and with an outcome that names the key as well; a replay
copies what it finds there without looking.
-/

namespace Gatehouse

/-- The outcome that belongs into the record of a key that is in a state. -/
def KeyState.Fits (key : WriteKey) : KeyState → Option WriteOutcome → Prop
  | .processing, outcome? => outcome? = none
  | .succeeded, outcome? => ∃ outcome, outcome? = some outcome ∧ outcome.status = .applied ∧
      outcome.data.isSome ∧ outcome.key = some key
  | .failed, outcome? => ∃ outcome, outcome? = some outcome ∧ outcome.status = .failed ∧
      outcome.reason.isSome ∧ outcome.key = some key

/-- The record names the key, and its outcome goes with its state. -/
structure KeyRecord.FiledUnder (key : WriteKey) (record : KeyRecord) : Prop where
  key_eq : record.key = key
  fits : record.state.Fits key record.outcome

/-- The record of every key is filed under it. -/
def KeyLedger.Filed (l : KeyLedger) : Prop :=
  ∀ key record, l.get? key = some record → record.FiledUnder key

namespace KeyLedger

variable {l : KeyLedger} {key : WriteKey}

theorem filed_empty : empty.Filed := by
  simp [Filed]

/-- An event leaves the record of its key filed under it when it brings an outcome that goes with
the state. -/
theorem Filed.renewed (hfiled : l.Filed) (event : Event)
    (hfits : event.state.Fits event.key event.outcome) :
    (event.renewed (l.get? event.key)).FiledUnder event.key where
  key_eq := by
    cases hget : l.get? event.key with
    | none => rfl
    | some record => exact (hfiled event.key record hget).key_eq
  fits := by simpa using hfits

theorem Filed.begin (hfiled : l.Filed) (key : WriteKey) (now : Moment) :
    (l.begin key now).2.Filed := by
  intro other record hrecord
  rw [get?_begin] at hrecord
  split at hrecord
  next hreserved =>
    obtain rfl := Option.some.inj hrecord
    rw [hreserved.2, ← renewed_reserved]
    exact hfiled.renewed (.reserved key now) rfl
  next => exact hfiled other record hrecord

theorem Filed.finish (hfiled : l.Filed) {state : KeyState} {outcome : WriteOutcome}
    (hfits : state.Fits key (some outcome)) (now : Moment) :
    (l.finish key state outcome now).Filed := by
  intro other record hrecord
  have hget := l.get?_finish_renewed (.finished key state outcome now) outcome rfl rfl other
  rw [Event.key, Event.state, Event.now] at hget
  rw [hget] at hrecord
  split at hrecord
  next hother =>
    obtain rfl := Option.some.inj hrecord
    rw [hother]
    exact hfiled.renewed (.finished key state outcome now) hfits
  next => exact hfiled other record hrecord

theorem fits_settled (envelope : Envelope) (key : WriteKey) (answer : Except String Json) :
    (Gateway.settledState answer).Fits key (some (Gateway.settledOutcome envelope key answer)) := by
  cases answer with
  | ok data => exact ⟨_, rfl, rfl, rfl, rfl⟩
  | error reason => exact ⟨_, rfl, rfl, rfl, rfl⟩

theorem fits_interruption (key : WriteKey) (writeId : WriteId) :
    KeyState.failed.Fits key (some (interruption key writeId)) :=
  ⟨_, rfl, rfl, rfl, rfl⟩

end KeyLedger

/-- However a call goes on, what it writes down is filed under the key. -/
theorem Turn.filed {g : Gateway} {call : CallId} {now : Moment} {stage? : Option Call}
    {seen : List GatewayEvent} {after : Gateway × Progress}
    (hturn : Turn g call now stage? seen after) (hfiled : g.ledger.Filed) :
    after.1.ledger.Filed := by
  cases hturn with
  | committed _ earlier stamp token _ hnow hredeems hcommits =>
      cases hcommits with
      | reserved envelope key handler hworth hkey hreserved hhandler =>
          exact hfiled.begin key stamp.now
      | unhandled envelope key reason event hworth hkey hreserved hhandler =>
          exact (hfiled.begin key stamp.now).finish
            (KeyLedger.fits_settled envelope key (.error reason)) stamp.now
      | _ => exact hfiled
  | settled envelope key handler answer event =>
      exact hfiled.finish (KeyLedger.fits_settled envelope key _) now
  | interrupted envelope key handler =>
      exact hfiled.finish (KeyLedger.fits_interruption key envelope.id) now
  | _ => exact hfiled

/-- The write carries the key that it had when the call requested it, and an execution. -/
structure KeyedBy (history : List GatewayEvent) (granter : CallId) (envelope : Envelope)
    (key : WriteKey) : Prop where
  execution : ∃ execution, envelope.execution = some execution
  key_eq : envelope.key = some key
  original : ∃ original, .requested granter original ∈ history ∧
    original.resolvedKey = some key ∧ envelope = { original with key := some key }

/-- A commit that finds a key for the write under its token is not answered that an execution is
missing. -/
theorem Gateway.reason_ne_of_commit {g : Gateway} {stamp : Stamp} {token : String}
    {outcome : WriteOutcome}
    (hkeyed : ∀ {envelope}, g.tokens.worth token stamp.now = .valid envelope →
      ∃ key, envelope.resolvedKey = some key)
    (hanswered : (g.commit stamp token).2 = .answered outcome) :
    outcome.reason ≠ some "missing_execution_id" := by
  cases hworth : g.tokens.worth token stamp.now with
  | unknown =>
      simp only [commit, CommitTokens.take, hworth] at hanswered
      simp [← Progress.answered.inj hanswered]
  | expired envelope =>
      simp only [commit, CommitTokens.take, hworth] at hanswered
      simp [← Progress.answered.inj hanswered]
  | valid envelope =>
      obtain ⟨key, hkey⟩ := hkeyed hworth
      rcases (g.commit_commits stamp token).of_valid hworth hkey with
        ⟨_, hcommit⟩ | ⟨stored, event, _, hcommit⟩ |
        ⟨_, ⟨handler, _, hcommit⟩ | ⟨reason, event, _, hcommit⟩⟩ <;>
      rw [hcommit] at hanswered
      · simp [← Progress.answered.inj hanswered, busyOutcome]
      all_goals contradiction

section KeyedBy

variable {history : List GatewayEvent} {granter : CallId} {envelope : Envelope} {key : WriteKey}

theorem KeyedBy.resolvedKey (hkeyed : KeyedBy history granter envelope key) :
    envelope.resolvedKey = some key := by
  rw [Envelope.resolvedKey, hkeyed.key_eq]

theorem Petitioned.keyedBy (hpetitioned : Petitioned history granter envelope)
    (hexecution : ∃ execution, envelope.execution = some execution) :
    ∃ key, KeyedBy history granter envelope key := by
  obtain ⟨original, hrequested, henvelope⟩ := hpetitioned
  obtain ⟨execution, hexecution⟩ := hexecution
  obtain ⟨key, hkey⟩ := original.resolvedKey_of_execution
    (by rw [← hexecution, henvelope] : original.execution = some execution)
  rw [hkey] at henvelope
  exact ⟨key, ⟨execution, hexecution⟩, by rw [henvelope], original, hrequested, hkey, henvelope⟩

/-- A request with the key of a write filled in is of the same key. -/
theorem KeyedBy.request_key {s : Traffic} (horder : s.InOrder)
    (hkeyed : KeyedBy s.history granter envelope key) {request : WriteRequest}
    (hrequest : request.Keyed) (hpetitioned : Petitioned s.history granter request.envelope) :
    request.key = key := by
  obtain ⟨original, hrequested, hkey, _⟩ := hkeyed.original
  obtain ⟨other, hother, henvelope⟩ := hpetitioned
  obtain rfl := horder.requested_unique hrequested hother
  rw [hkey] at henvelope
  exact Option.some.inj (hrequest.2.symm.trans (by rw [henvelope]))

end KeyedBy

namespace Traffic

theorem filed_run (opens : Bool) (ttl : Span) (actions : List Action) :
    ((start opens ttl).run actions).gateway.ledger.Filed := by
  have hkeeps : ∀ {s next : Traffic}, Step s next → s.gateway.ledger.Filed →
      next.gateway.ledger.Filed := by
    intro s next hstep hfiled
    cases hstep with
    | turned call now stage? seen after hstage hnew hturn => exact hturn.filed hfiled
    | _ => exact hfiled
  exact run_keeps hkeeps KeyLedger.filed_empty actions

/-- A call was given the answer, or is given it as soon as the acceptance is recorded. -/
def Returns (s : Traffic) (call : CallId) (outcome : WriteOutcome) : Prop :=
  .answered call outcome ∈ s.history ∨
    ∃ token event, s.calls.get? call = some (.accepting outcome token false event)

section Keys

variable {opens : Bool} {ttl : Span} {s : Traffic} {call : CallId} {outcome : WriteOutcome}
  {token : String}

/-- Who is told that a write is accepted is told the token that the call minted, and the key of the
request. -/
theorem Explained.accepted (hexplained : s.Explained opens) (hreturns : s.Returns call outcome)
    (hstatus : outcome.status = .accepted) :
    ∃ request reason token now, Ruled s.history call request (.ok (.allow reason)) ∧
      .minted call token now ∈ s.history ∧ outcome.token = some token ∧
      outcome.key = some request.key := by
  rcases hreturns with hanswered | ⟨token, event, hstage⟩
  · obtain ⟨given, auditId, hgrounds, rfl⟩ := hexplained.grounds hanswered
    cases hgrounds with
    | accepted request reason token now hruled hminted =>
        exact ⟨request, reason, token, now, hruled, hminted, rfl, rfl⟩
    | settled place envelope key handler answer hcommitted hreplied =>
        cases answer <;> contradiction
    | _ => contradiction
  · obtain ⟨request, reason, now, hruled, hminted, rfl⟩ := hexplained.calls call _ hstage
    exact ⟨request, reason, token, now, hruled, hminted, rfl, rfl⟩

/-- The key of the write that was requested is what went into the acceptance. -/
theorem Explained.key_of_accepted (hexplained : s.Explained opens) (horder : s.InOrder)
    {envelope : Envelope} {key : WriteKey} (hkeyed : KeyedBy s.history call envelope key)
    {mintedAt : Moment} (hminted : .minted call token mintedAt ∈ s.history)
    (hreturns : s.Returns call outcome) (hstatus : outcome.status = .accepted) :
    outcome.token = some token ∧ outcome.key = some key := by
  obtain ⟨request, reason, own, now, hruled, hown, htoken, hkey⟩ :=
    hexplained.accepted hreturns hstatus
  have hsame := horder.event_unique hminted hown rfl rfl rfl rfl
  obtain ⟨_, rfl, _⟩ := GatewayEvent.minted.inj hsame
  exact ⟨htoken, by rw [hkey, hkeyed.request_key horder hruled.keyed hruled.requested]⟩

theorem Accounted.keyedBy (haccounted : s.Accounted ttl) {write : PendingWrite}
    (hpending : s.gateway.tokens.pending.get? token = some write) :
    ∃ granter key, KeyedBy s.history granter write.envelope key ∧
      ∃ mintedAt, .minted granter token mintedAt ∈ s.history := by
  obtain ⟨granter, _, _, hbacking⟩ := haccounted.pending token write hpending
  obtain ⟨key, hkeyed⟩ := hbacking.requested.keyedBy hbacking.execution
  obtain ⟨mintedAt, hminted, _⟩ := hbacking.mint
  exact ⟨granter, key, hkeyed, mintedAt, List.mem_of_getElem? hminted⟩

/-- A key is held for a write that was under a token, so it is the one of the request. -/
theorem Justified.keyedBy (hjustified : s.Justified ttl) (hexplained : s.Explained opens)
    {envelope : Envelope} {key : WriteKey} {handler : HandlerId}
    (hstage : s.calls.get? call = some (.applying envelope key handler)) :
    ∃ granter, KeyedBy s.history granter envelope key := by
  obtain ⟨place, hkey, token, now, hredeemed⟩ := hexplained.calls call _ hstage
  -- What stood behind the token when it was redeemed is in the history for good.
  obtain ⟨expiresAt, granter, paid, minted, _, hbacking⟩ := hjustified.redeemed hredeemed
  have hrequested := hbacking.requested.append (s.history.drop place)
  rw [List.take_append_drop] at hrequested
  obtain ⟨own, hkeyed⟩ := hrequested.keyedBy hbacking.execution
  obtain rfl := Option.some.inj (hkey.symm.trans hkeyed.resolvedKey)
  exact ⟨granter, hkeyed⟩

/-- Every write under way to a commit, or put down in the ledger, has its key. -/
structure CarriesKeys (s : Traffic) : Prop where
  /-- The write under a token has an execution, and the key that was returned with the token to
  whoever requested it. -/
  pending : ∀ token write, s.gateway.tokens.pending.get? token = some write →
    ∃ granter key, KeyedBy s.history granter write.envelope key ∧
      (∃ mintedAt, .minted granter token mintedAt ∈ s.history) ∧
      ∀ outcome, s.Returns granter outcome → outcome.status = .accepted →
        outcome.token = some token ∧ outcome.key = some key
  /-- A commit whose token is valid goes on with the key of the request. -/
  commit : ∀ stamp token envelope, s.gateway.tokens.worth token stamp.now = .valid envelope →
    ∃ granter key, KeyedBy s.history granter envelope key ∧
      s.gateway.commit stamp token = (s.gateway.spend token).apply stamp envelope key
  /-- A commit never fails for want of an execution. -/
  named : ∀ stamp token outcome, (s.gateway.commit stamp token).2 = .answered outcome →
    outcome.reason ≠ some "missing_execution_id"
  /-- The key that is held while a handler is at work is the one of the request. -/
  held : ∀ call envelope key handler,
    s.calls.get? call = some (.applying envelope key handler) →
    ∃ granter, KeyedBy s.history granter envelope key
  /-- Every record is filed under its key. -/
  records : ∀ key record, s.gateway.ledger.get? key = some record → record.FiledUnder key

/-- In every run the key that a write was requested under goes all the way with it. -/
theorem run_carriesKeys (opens : Bool) (ttl : Span) (actions : List Action) :
    ((start opens ttl).run actions).CarriesKeys := by
  have hrecords := filed_run opens ttl actions
  have haccounted := accounted_run opens ttl actions
  have hjustified := justified_run opens ttl actions
  have hexplained := explained_run opens ttl actions
  have horder := (sound_run opens ttl actions).inOrder
  generalize (start opens ttl).run actions = s at *
  constructor
  case pending =>
    intro token write hpending
    obtain ⟨granter, key, hkeyed, mintedAt, hminted⟩ := haccounted.keyedBy hpending
    exact ⟨granter, key, hkeyed, ⟨mintedAt, hminted⟩, fun outcome =>
      hexplained.key_of_accepted horder hkeyed hminted⟩
  case commit =>
    intro stamp token envelope hworth
    obtain ⟨expiresAt, hpending, _⟩ := CommitTokens.worth_valid_iff.mp hworth
    obtain ⟨granter, key, hkeyed, _⟩ := haccounted.keyedBy hpending
    exact ⟨granter, key, hkeyed, Gateway.commit_of_valid hworth hkeyed.resolvedKey⟩
  case named =>
    exact fun stamp token outcome => Gateway.reason_ne_of_commit haccounted.resolvedKey
  case held => exact fun call envelope key handler => hjustified.keyedBy hexplained
  case records => exact hrecords

end Keys

end Traffic

end Gatehouse
