import Gatehouse.Proofs.Gateway.Lasting
import Gatehouse.Proofs.Gateway.Passage

/-! # Well-formed answers

Whoever reads an answer looks at its status and takes the rest for granted: that
an acceptance brings a token, an application its data, a failure its reason. All
answers are made where a call ends, each with its fields in place, but for the
data of a replay, which is copied out of the ledger; that there is any rests on
the ledger, which keeps the outcomes of applied writes and no others. An answer
names the write that the call requested, or the one that its token was minted
for.
-/

namespace Gatehouse

/-- The status of an answer tells which of its fields are there. -/
@[mk_iff]
structure WriteOutcome.WellFormed (outcome : WriteOutcome) : Prop where
  success : outcome.success = true ↔
    outcome.status = .accepted ∨ outcome.status = .applied ∨ outcome.status = .replayed
  token : outcome.token.isSome ↔ outcome.status = .accepted
  approval : outcome.approval.isSome ↔ outcome.status = .requiresApproval
  data : outcome.data.isSome ↔ outcome.status = .applied ∨ outcome.status = .replayed
  reason : outcome.success = false → outcome.reason.isSome
  keyless : outcome.status = .invalidToken → outcome.key = none
  keyed : outcome.key = none → outcome.status = .invalidToken ∨
    outcome.status = .rejected ∧ outcome.reason = some "missing_execution_id"

/-- The name of a record changes nothing about that. -/
theorem WriteOutcome.WellFormed.audited {outcome : WriteOutcome} (hwell : outcome.WellFormed)
    (auditId : Option String) : { outcome with auditId := auditId }.WellFormed :=
  ⟨hwell.success, hwell.token, hwell.approval, hwell.data, hwell.reason, hwell.keyless, hwell.keyed⟩

/-- The answer that a call is on its way to is well formed. -/
def Call.WellFormed : Call → Prop
  | .accepting outcome .. | .closing outcome _ => outcome.WellFormed
  | .receiving .. | .evaluating _ | .judged .. | .opening .. | .applying .. => True

/-- What a call got to is a well-formed answer, or may become one. -/
def Progress.WellFormed : Progress → Prop
  | .answered outcome => outcome.WellFormed
  | .waiting stage => stage.WellFormed
  | .broken => True

namespace KeyLedger

/-- Whatever the ledger keeps for a key is the outcome of a write that was applied. -/
def KeepsApplied (l : KeyLedger) : Prop :=
  ∀ key stored, l.Keeps key stored → stored.status = .applied ∧ stored.WellFormed

variable {l : KeyLedger} {key : WriteKey} {now : Moment}

theorem keepsApplied_empty : empty.KeepsApplied := by
  simp [KeepsApplied, Keeps]

/-- Who begins an attempt takes away what was kept for the key, if anything. -/
theorem KeepsApplied.reserved (hkeeps : l.KeepsApplied)
    (hreserved : (l.begin key now).1 = .reserved) : (l.begin key now).2.KeepsApplied := by
  intro other stored hstored
  by_cases hother : other = key
  · obtain ⟨record, hstate, _, _, hget⟩ := get?_begin_reserved hreserved
    simp [Keeps, hget, hother, hstate] at hstored
  · exact hkeeps other stored ((keeps_congr (get?_begin_reserved_ne hreserved hother)).mp hstored)

theorem KeepsApplied.finish (hkeeps : l.KeepsApplied) {state : KeyState} {outcome : WriteOutcome}
    (houtcome : state = .succeeded → outcome.status = .applied ∧ outcome.WellFormed)
    (key : WriteKey) (now : Moment) : (l.finish key state outcome now).KeepsApplied := by
  intro other stored hstored
  by_cases hother : other = key
  · obtain ⟨record, hget, hstate, hstored⟩ := hstored
    rw [get?_finish, if_pos hother] at hget
    obtain rfl := Option.some.inj hget
    obtain rfl := Option.some.inj hstored
    exact houtcome hstate
  · exact hkeeps other stored ((keeps_congr (get?_finish_ne hother l state outcome now)).mp hstored)

end KeyLedger

namespace Gateway

section Outcomes

variable (envelope : Envelope) (key : WriteKey) (request : WriteRequest)

theorem wellFormed_rejected (reason : String) :
    (request.outcome .rejected (some reason)).WellFormed := by
  simp [WriteOutcome.wellFormed_iff, WriteRequest.outcome, WriteOutcome.new, WriteStatus.isSuccess]

theorem wellFormed_parked (reason approval : String) :
    (request.parkedOutcome reason approval).WellFormed := by
  simp [WriteOutcome.wellFormed_iff, WriteRequest.parkedOutcome, WriteRequest.outcome,
    WriteOutcome.new, WriteStatus.isSuccess]

theorem wellFormed_accepted (reason : Option String) (token : String) :
    (request.acceptedOutcome reason token).WellFormed := by
  simp [WriteOutcome.wellFormed_iff, WriteRequest.acceptedOutcome, WriteRequest.outcome,
    WriteOutcome.new, WriteStatus.isSuccess]

theorem wellFormed_busy : (busyOutcome envelope key).WellFormed := by
  simp [WriteOutcome.wellFormed_iff, busyOutcome, WriteOutcome.new, WriteStatus.isSuccess]

theorem wellFormed_settled (answer : Except String Json) :
    (settledOutcome envelope key answer).WellFormed := by
  cases answer <;>
    simp [WriteOutcome.wellFormed_iff, settledOutcome, WriteOutcome.new, WriteStatus.isSuccess]

/-- A replay has data when what it repeats has. -/
theorem wellFormed_replayed {stored : WriteOutcome} (hdata : stored.data.isSome) :
    (replayedOutcome envelope key stored).WellFormed := by
  simp [WriteOutcome.wellFormed_iff, replayedOutcome, WriteOutcome.new, WriteStatus.isSuccess,
    hdata]

theorem wellFormed_unnamed (id : WriteId) :
    { WriteOutcome.new .rejected id with reason := some "missing_execution_id" }.WellFormed := by
  simp [WriteOutcome.wellFormed_iff, WriteOutcome.new, WriteStatus.isSuccess]

theorem wellFormed_invalid (id : WriteId) (reason : String) :
    { WriteOutcome.new .invalidToken id with reason := some reason }.WellFormed := by
  simp [WriteOutcome.wellFormed_iff, WriteOutcome.new, WriteStatus.isSuccess]

end Outcomes

section Calls

variable {g : Gateway} {stamp : Stamp} {token : String}

theorem request_wellFormed (stamp : Stamp) (envelope : Envelope) (thenCommit : Bool) :
    (request stamp envelope thenCommit).WellFormed := by
  unfold request
  split
  next => trivial
  next => exact wellFormed_unnamed envelope.id

theorem enact_wellFormed (g : Gateway) (stamp : Stamp) (request : WriteRequest)
    (decision : Decision) : (g.enact stamp request decision).2.WellFormed := by
  cases decision with
  | deny reason => exact wellFormed_rejected request reason
  | requiresApproval reason approval payload =>
      cases approval with
      | some approval => exact wellFormed_parked request reason approval
      | none =>
          simp only [enact]
          split
          · trivial
          · exact wellFormed_parked request reason _
  | allow reason =>
      simp only [enact, accept, CommitTokens.issue]
      cases stamp.now.add? g.tokens.ttl with
      | none => trivial
      | some expiresAt => exact wellFormed_accepted request reason stamp.token

/-- What a commit comes to is well formed when the ledger keeps outcomes of applied writes only and
there is a key for every write under a token. -/
theorem commit_wellFormed (hkeeps : g.ledger.KeepsApplied)
    (hkeyed : ∀ {envelope}, g.tokens.worth token stamp.now = .valid envelope →
      ∃ key, envelope.resolvedKey = some key) : (g.commit stamp token).2.WellFormed := by
  cases hworth : g.tokens.worth token stamp.now with
  | unknown =>
      simp only [commit, CommitTokens.take, hworth]
      exact wellFormed_invalid _ _
  | expired envelope =>
      simp only [commit, CommitTokens.take, hworth]
      exact wellFormed_invalid _ _
  | valid envelope =>
      obtain ⟨key, hkey⟩ := hkeyed hworth
      rcases (g.commit_commits stamp token).of_valid hworth hkey with
        ⟨_, hcommit⟩ | ⟨stored, event, hstored, hcommit⟩ |
        ⟨_, ⟨handler, _, hcommit⟩ | ⟨reason, event, _, hcommit⟩⟩ <;>
      rw [hcommit]
      · exact wellFormed_busy envelope key
      · obtain ⟨hstatus, hwell⟩ := hkeeps key stored hstored
        exact wellFormed_replayed envelope key (hwell.data.mpr (.inl hstatus))
      · trivial
      · exact wellFormed_settled envelope key (.error reason)

theorem resume_wellFormed {stage : Call} {reply : Reply} (hstage : stage.WellFormed)
    (hexpects : stage.awaits.expects reply)
    (hcommit : ∀ token, (g.commit stamp token).2.WellFormed) :
    (g.resume stamp stage reply).2.WellFormed := by
  cases Call.expects_cases hexpects with
  | receiving request event accepted => trivial
  | evaluating request answer =>
      cases answer with
      | ok decision => trivial
      | error fault => exact wellFormed_rejected request _
  | judged request decision event accepted => exact g.enact_wellFormed stamp request decision
  | opening request reason payload answer =>
      cases answer <;> exact wellFormed_parked request reason _
  | accepting outcome token thenCommit event accepted =>
      cases thenCommit with
      | true => exact hcommit token
      | false => exact WriteOutcome.WellFormed.audited hstage _
  | applying envelope key handler answer =>
      obtain ⟨event, hsettle⟩ := g.settle_eq stamp envelope key (answer.mapError Fault.text)
      simp only [resume, hsettle]
      exact wellFormed_settled envelope key _
  | closing outcome event accepted => exact WriteOutcome.WellFormed.audited hstage _

end Calls

end Gateway

namespace Turn

variable {g : Gateway} {call : CallId} {now : Moment} {stage? : Option Call}
  {seen : List GatewayEvent} {after : Gateway × Progress}

/-- Nothing but the answer of a handler that applied a write is put down as a success. -/
theorem keepsApplied (hturn : Turn g call now stage? seen after) (hkeeps : g.ledger.KeepsApplied) :
    after.1.ledger.KeepsApplied := by
  cases hturn with
  | committed _ earlier stamp token _ hnow hredeems hcommits =>
      cases hcommits with
      | reserved envelope key handler hworth hkey hreserved hhandler =>
          exact hkeeps.reserved hreserved
      | unhandled envelope key reason event hworth hkey hreserved hhandler =>
          refine (hkeeps.reserved hreserved).finish ?_ key _
          exact fun hfailed => by contradiction
      | _ => exact hkeeps
  | settled envelope key handler answer event =>
      refine hkeeps.finish (fun hsucceeded => ?_) key now
      refine ⟨?_, Gateway.wellFormed_settled envelope key _⟩
      cases answer with
      | ok data => rfl
      | error fault => contradiction
  | interrupted envelope key handler =>
      refine hkeeps.finish ?_ key now
      exact fun hfailed => by contradiction
  | _ => exact hkeeps

/-- Before a call gets where it gets, no answer is seen. -/
theorem not_answered_seen (hturn : Turn g call now stage? seen after) {other : CallId}
    {outcome : WriteOutcome} : .answered other outcome ∉ seen := by
  cases hturn with
  | committed _ earlier stamp token _ hnow hredeems hcommits => cases hredeems <;> simp
  | _ => simp

end Turn

namespace Traffic

/-- Every answer, given or under way, is well formed, and the ledger keeps outcomes of applied
writes only. -/
structure WellFormed (s : Traffic) : Prop where
  keeps : s.gateway.ledger.KeepsApplied
  calls : ∀ call stage, s.calls.get? call = some stage → stage.WellFormed
  answered : ∀ {call outcome}, .answered call outcome ∈ s.history → outcome.WellFormed

theorem wellFormed_start (opens : Bool) (ttl : Span) : (start opens ttl).WellFormed where
  keeps := KeyLedger.keepsApplied_empty
  calls := by simp [start]
  answered := by simp [start]

section Advance

variable {s : Traffic} {call : CallId} {now : Moment} {stage? : Option Call}
  {seen : List GatewayEvent} {after : Gateway × Progress}

theorem WellFormed.advance (hwell : s.WellFormed)
    (hturn : Turn s.gateway call now stage? seen after) (hafter : after.2.WellFormed) :
    (s.advance call now seen after).WellFormed where
  keeps := hturn.keepsApplied hwell.keeps
  calls := by
    intro other stage hplaced
    rw [Traffic.advance, get?_place] at hplaced
    split at hplaced
    next =>
      generalize after.2 = progress at hplaced hafter
      cases progress with
      | waiting next =>
          obtain rfl := Option.some.inj hplaced
          exact hafter
      | answered | broken => contradiction
    next => exact hwell.calls other stage hplaced
  answered := by
    intro other outcome hmem
    rcases List.mem_append.mp hmem with hmem | hmem
    · exact hwell.answered hmem
    · rcases List.mem_append.mp hmem with hseen | hevents
      · exact absurd hseen hturn.not_answered_seen
      · rw [progress_of_answered hevents] at hafter
        exact hafter

theorem WellFormed.silent (hwell : s.WellFormed) {gateway : Gateway}
    (hledger : gateway.ledger = s.gateway.ledger) {event : GatewayEvent}
    (hsilent : event.call? = none) :
    WellFormed { s with gateway := gateway, history := s.history ++ [event] } where
  keeps := by
    rw [hledger]
    exact hwell.keeps
  calls := hwell.calls
  answered := by
    intro call outcome hmem
    rcases List.mem_append.mp hmem with hmem | hmem
    · exact hwell.answered hmem
    · rw [← List.mem_singleton.mp hmem] at hsilent
      contradiction

end Advance

/-- There is a key for every write that a token is good for. -/
theorem Accounted.resolvedKey {ttl : Span} {s : Traffic} (haccounted : s.Accounted ttl)
    {token : String} {now : Moment} {envelope : Envelope}
    (hworth : s.gateway.tokens.worth token now = .valid envelope) :
    ∃ key, envelope.resolvedKey = some key := by
  obtain ⟨expiresAt, hpending, _⟩ := CommitTokens.worth_valid_iff.mp hworth
  obtain ⟨_, _, _, hbacking⟩ := haccounted.pending _ _ hpending
  obtain ⟨execution, hexecution⟩ := hbacking.execution
  exact envelope.resolvedKey_of_execution hexecution

theorem wellFormed_motion {ttl : Span} {s next : Traffic} (hmotion : Motion s next)
    (haccounted : s.Accounted ttl) (hwell : s.WellFormed) : next.WellFormed := by
  have hcommit : ∀ (stamp : Stamp) token, (s.gateway.commit stamp token).2.WellFormed :=
    fun stamp token => Gateway.commit_wellFormed hwell.keeps haccounted.resolvedKey
  cases hmotion with
  | still => exact hwell
  | registered command handler => exact hwell.silent (by rfl) (by rfl)
  | purged now => exact hwell.silent (by rfl) (by rfl)
  | requested call stamp envelope thenCommit hnew =>
      exact hwell.advance (s.gateway.request_turn call stamp envelope thenCommit)
        (Gateway.request_wellFormed stamp envelope thenCommit)
  | committed call stamp token hnew =>
      exact hwell.advance (.committed none [] stamp token _ rfl .outright
        (s.gateway.commit_commits stamp token)) (hcommit stamp token)
  | resumed call stamp stage reply hstage hexpects =>
      exact hwell.advance (Gateway.resume_turn s call stamp stage reply hexpects)
        (Gateway.resume_wellFormed (hwell.calls call stage hstage) hexpects (hcommit stamp))
  | dropped call now stage hstage =>
      exact hwell.advance (s.gateway.abandon_turn call now stage) trivial

theorem wellFormed_run (opens : Bool) (ttl : Span) (actions : List Action) :
    ((start opens ttl).run actions).WellFormed :=
  run_keeps_accounted (fun s action => wellFormed_motion (s.motion_cases action))
    (wellFormed_start opens ttl) actions

end Traffic

/-- The write that was found under a token, in time or too late. -/
def Redemption.write? : Redemption → Option Envelope
  | .valid envelope | .expired envelope => some envelope
  | .unknown => none

namespace Traffic

/-- What is found under a token is the write that was requested by the call which minted it. -/
def Vouched (s : Traffic) : Prop :=
  ∀ {call token now worth envelope}, .redeemed call token now worth ∈ s.history →
    worth.write? = some envelope →
    ∃ granter mintedAt, .minted granter token mintedAt ∈ s.history ∧
      Petitioned s.history granter envelope

theorem vouched_start (opens : Bool) (ttl : Span) : (start opens ttl).Vouched := by
  simp [Vouched, start]

theorem exists_pending_of_write? {t : CommitTokens} {token : String} {now : Moment}
    {envelope : Envelope} (hfound : (t.worth token now).write? = some envelope) :
    ∃ expiresAt, t.pending.get? token = some ⟨envelope, expiresAt⟩ := by
  cases hworth : t.worth token now with
  | unknown =>
      rw [hworth] at hfound
      contradiction
  | valid found =>
      rw [hworth] at hfound
      obtain rfl := Option.some.inj hfound
      obtain ⟨expiresAt, hpending, _⟩ := CommitTokens.worth_valid_iff.mp hworth
      exact ⟨expiresAt, hpending⟩
  | expired found =>
      rw [hworth] at hfound
      obtain rfl := Option.some.inj hfound
      obtain ⟨expiresAt, hpending, _⟩ := CommitTokens.worth_expired_iff.mp hworth
      exact ⟨expiresAt, hpending⟩

/-- Whoever stands behind what is found under a token is in the history. -/
theorem Accounted.vouches {ttl : Span} {s : Traffic} (haccounted : s.Accounted ttl)
    {token : String} {now : Moment} {envelope : Envelope}
    (hfound : (s.gateway.tokens.worth token now).write? = some envelope) :
    ∃ granter mintedAt, .minted granter token mintedAt ∈ s.history ∧
      Petitioned s.history granter envelope := by
  obtain ⟨expiresAt, hpending⟩ := exists_pending_of_write? hfound
  obtain ⟨granter, _, _, hbacking⟩ := haccounted.pending _ _ hpending
  obtain ⟨mintedAt, hminted, _⟩ := hbacking.mint
  exact ⟨granter, mintedAt, List.mem_of_getElem? hminted, hbacking.requested⟩

theorem Vouched.grow {s next : Traffic} (hvouched : s.Vouched) {added : List GatewayEvent}
    (hhistory : next.history = s.history ++ added)
    (hadded : ∀ {call token now worth envelope}, .redeemed call token now worth ∈ added →
      worth.write? = some envelope → ∃ granter mintedAt,
        .minted granter token mintedAt ∈ s.history ∧ Petitioned s.history granter envelope) :
    next.Vouched := by
  intro call token now worth envelope hmem hfound
  rw [hhistory] at hmem ⊢
  have hbefore : ∃ granter mintedAt, .minted granter token mintedAt ∈ s.history ∧
      Petitioned s.history granter envelope := by
    rcases List.mem_append.mp hmem with hmem | hmem
    · exact hvouched hmem hfound
    · exact hadded hmem hfound
  obtain ⟨granter, mintedAt, hminted, hpetitioned⟩ := hbefore
  exact ⟨granter, mintedAt, List.mem_append_left _ hminted, hpetitioned.append _⟩

theorem vouched_step {ttl : Span} {s next : Traffic} (hstep : Step s next)
    (haccounted : s.Accounted ttl) (hvouched : s.Vouched) : next.Vouched := by
  cases hstep with
  | still => exact hvouched
  | registered command handler => exact hvouched.grow rfl (by simp)
  | purged now => exact hvouched.grow rfl (by simp)
  | turned call now stage? seen after hstage hnew hturn =>
      refine hvouched.grow rfl fun hadded hfound => ?_
      obtain ⟨_, _, _, _, _, _, rfl, rfl, rfl⟩ := hturn.of_redeemed hadded
      exact haccounted.vouches hfound

theorem vouched_run (opens : Bool) (ttl : Span) (actions : List Action) :
    ((start opens ttl).run actions).Vouched :=
  run_keeps_accounted (fun s action => vouched_step (s.step_cases action))
    (vouched_start opens ttl) actions

end Traffic

/-- The write that an answer names: the one that the call requested, or, where the answer goes back
to a token, the one that was requested by the call which minted it. -/
inductive Names (history : List GatewayEvent) (call : CallId) (outcome : WriteOutcome) : Prop where
  | requested (envelope : Envelope) (hrequested : .requested call envelope ∈ history)
      (hid : outcome.writeId = envelope.id)
  | redeemed (granter : CallId) (envelope : Envelope) (token : String) (mintedAt now : Moment)
      (worth : Redemption) (hredeemed : .redeemed call token now worth ∈ history)
      (hfound : worth.write? = some { envelope with key := envelope.resolvedKey })
      (hminted : .minted granter token mintedAt ∈ history)
      (hrequested : .requested granter envelope ∈ history)
      (hid : outcome.writeId = envelope.id)
  /-- A token that is not known tells of no write. -/
  | unknown (token : String) (now : Moment)
      (hredeemed : .redeemed call token now .unknown ∈ history)
      (hstatus : outcome.status = .invalidToken) (hreason : outcome.reason = some "unknown_token")
      (hid : outcome.writeId = ⟨""⟩)

theorem Names.audited {history : List GatewayEvent} {call : CallId} {outcome : WriteOutcome}
    (hnames : Names history call outcome) (auditId : Option String) :
    Names history call { outcome with auditId := auditId } := by
  cases hnames with
  | requested envelope hrequested hid => exact .requested envelope hrequested hid
  | redeemed granter envelope token mintedAt now worth hredeemed hfound hminted hrequested hid =>
      exact .redeemed granter envelope token mintedAt now worth hredeemed hfound hminted hrequested
        hid
  | unknown token now hredeemed hstatus hreason hid =>
      exact .unknown token now hredeemed hstatus hreason hid

section Grounds

variable {opens : Bool} {history : List GatewayEvent} {call : CallId} {outcome : WriteOutcome}

/-- Governance answered about a write that the call requested under an execution. -/
theorem Ruled.original {request : WriteRequest} {answer : Except Fault Decision}
    (hruled : Ruled history call request answer) :
    ∃ envelope, .requested call envelope ∈ history ∧
      envelope.execution = some request.execution ∧ request.envelope.id = envelope.id := by
  obtain ⟨envelope, hrequested, hsame⟩ := hruled.requested
  refine ⟨envelope, hrequested, ?_, by rw [hsame]⟩
  rw [← hruled.keyed.1, hsame]

theorem Ruled.names {request : WriteRequest} {answer : Except Fault Decision}
    (hruled : Ruled history call request answer) (hid : outcome.writeId = request.envelope.id) :
    Names history call outcome := by
  obtain ⟨envelope, hrequested, _, hsame⟩ := hruled.original
  exact .requested envelope hrequested (hid.trans hsame)

theorem CommittedAt.redeemed {place : Nat} {envelope : Envelope} {key : WriteKey}
    (hcommitted : CommittedAt history place call envelope key) :
    ∃ token now, .redeemed call token now (.valid envelope) ∈ history := by
  obtain ⟨_, token, now, hplace⟩ := hcommitted
  exact ⟨token, now, List.mem_of_getElem? hplace⟩

/-- Whatever stands behind an answer tells which write it names. -/
theorem Grounds.names {s : Traffic} (hgrounds : Grounds opens s.history call outcome)
    (hvouched : s.Vouched) : Names s.history call outcome := by
  have hredeemed : ∀ {token now worth envelope}, .redeemed call token now worth ∈ s.history →
      worth.write? = some envelope → outcome.writeId = envelope.id →
      Names s.history call outcome := by
    intro token now worth envelope hmem hfound hid
    obtain ⟨granter, mintedAt, hminted, original, hrequested, rfl⟩ := hvouched hmem hfound
    exact .redeemed granter original token mintedAt now worth hmem hfound hminted hrequested hid
  have hcommits : ∀ {place envelope key}, CommittedAt s.history place call envelope key →
      outcome.writeId = envelope.id → Names s.history call outcome := by
    intro place envelope key hcommitted hid
    obtain ⟨token, now, hmem⟩ := hcommitted.redeemed
    exact hredeemed hmem rfl hid
  cases hgrounds with
  | unnamed envelope hrequested hexecution => exact .requested envelope hrequested rfl
  | unavailable request fault hruled => exact hruled.names rfl
  | denied request reason hruled => exact hruled.names rfl
  | parked request reason approval payload hruled => exact hruled.names rfl
  | opened request reason approval payload hruled hopened => exact hruled.names rfl
  | unopened request reason payload stamp fault hruled hopened => exact hruled.names rfl
  | unasked request reason payload stamp hopens hruled => exact hruled.names rfl
  | accepted request reason token now hruled hminted => exact hruled.names rfl
  | unknown token now hmem => exact .unknown token now hmem rfl rfl rfl
  | expired token now envelope hmem => exact hredeemed hmem rfl rfl
  | keyless token now envelope hmem hkey => exact hredeemed hmem rfl rfl
  | busy place envelope key hcommitted htaken => exact hcommits hcommitted rfl
  | replayed place envelope key stored hcommitted htaken => exact hcommits hcommitted rfl
  | unhandled place envelope key hcommitted hbound => exact hcommits hcommitted rfl
  | settled place envelope key handler answer hcommitted hreplied =>
      refine hcommits hcommitted ?_
      cases answer <;> rfl

/-- A refusal is without a key just when the call requested a write without an execution. -/
theorem Grounds.key_eq_none_iff {s : Traffic} (horder : s.InOrder)
    (hgrounds : Grounds opens s.history call outcome) (hstatus : outcome.status = .rejected) :
    outcome.key = none ↔
      ∃ envelope, .requested call envelope ∈ s.history ∧ envelope.execution = none := by
  have hruled : ∀ {request answer}, Ruled s.history call request answer →
      ¬ ∃ envelope, .requested call envelope ∈ s.history ∧ envelope.execution = none := by
    rintro request answer hruled ⟨envelope, hrequested, hexecution⟩
    obtain ⟨original, hmem, hown, _⟩ := hruled.original
    have hsame := horder.event_unique hmem hrequested rfl rfl rfl rfl
    obtain ⟨_, rfl⟩ := GatewayEvent.requested.inj hsame
    rw [hexecution] at hown
    contradiction
  cases hgrounds with
  | unnamed envelope hrequested hexecution =>
      exact ⟨fun _ => ⟨envelope, hrequested, hexecution⟩, fun _ => rfl⟩
  | unavailable request fault hanswer =>
      exact ⟨fun hkey => by contradiction, fun hunnamed => absurd hunnamed (hruled hanswer)⟩
  | denied request reason hanswer =>
      exact ⟨fun hkey => by contradiction, fun hunnamed => absurd hunnamed (hruled hanswer)⟩
  | settled place envelope key handler answer hcommitted hreplied =>
      cases answer <;> contradiction
  | _ => contradiction

end Grounds

namespace WriteOutcome

/-- The answer to who comes with a token that is not known. -/
def TellsUnknown (outcome : WriteOutcome) : Prop :=
  outcome.status = .invalidToken ∧ outcome.reason = some "unknown_token"

end WriteOutcome

namespace Traffic

/-- The tokens that a call redeems are minted by nobody else, as it is when no token comes twice. -/
def RedeemsOwn (s : Traffic) (call : CallId) : Prop :=
  ∀ {token now worth other mintedAt}, .redeemed call token now worth ∈ s.history →
    .minted other token mintedAt ∈ s.history → other = call

/-- What every answer to a call is like. -/
structure AnswersWell (s : Traffic) : Prop where
  wellFormed : ∀ {call outcome}, .answered call outcome ∈ s.history → outcome.WellFormed
  /-- A key is missing with a token that is worth nothing, and where the call requested a write
  without an execution. -/
  keyless : ∀ {call outcome}, .answered call outcome ∈ s.history →
    (outcome.key = none ↔ outcome.status = .invalidToken ∨
      outcome.status = .rejected ∧ outcome.reason = some "missing_execution_id" ∧
        ∃ envelope, .requested call envelope ∈ s.history ∧ envelope.execution = none)
  names : ∀ {call outcome}, .answered call outcome ∈ s.history → Names s.history call outcome
  /-- Who requested a write is answered under its name. -/
  own : ∀ {call outcome envelope}, .answered call outcome ∈ s.history →
    .requested call envelope ∈ s.history → s.RedeemsOwn call →
    outcome.writeId = envelope.id ∨ outcome.TellsUnknown

/-- How a call is answered that requests a write, and its commit as well if that is wanted. -/
structure AnswersRequest (s : Traffic) (call : CallId) (envelope : Envelope) (thenCommit : Bool) :
    Prop where
  requested : thenCommit = false → ∀ {outcome}, .answered call outcome ∈ s.history →
    outcome.writeId = envelope.id
  committed : thenCommit = true → ∀ {outcome}, .answered call outcome ∈ s.history →
    outcome.status ≠ .accepted ∧ outcome.token = none

section Answers

variable {opens : Bool} {s : Traffic} {call : CallId} {outcome : WriteOutcome}

theorem Explained.grounds (hexplained : s.Explained opens)
    (hanswered : .answered call outcome ∈ s.history) :
    ∃ given auditId, Grounds opens s.history call given ∧
      outcome = { given with auditId := auditId } := by
  obtain ⟨place, hplace⟩ := List.mem_iff_getElem?.mp hanswered
  obtain ⟨given, auditId, hgrounds, houtcome⟩ := hexplained.answered hplace
  have hlater := hgrounds.append (s.history.drop place)
  rw [List.take_append_drop] at hlater
  exact ⟨given, auditId, hlater, houtcome⟩

theorem InOrder.requested_unique (horder : s.InOrder) {envelope other : Envelope}
    (hrequested : .requested call envelope ∈ s.history)
    (hother : .requested call other ∈ s.history) : envelope = other :=
  (GatewayEvent.requested.inj (horder.event_unique hrequested hother rfl rfl rfl rfl)).2

theorem Explained.answersWell (hexplained : s.Explained opens) (hwell : s.WellFormed)
    (hvouched : s.Vouched) (horder : s.InOrder) : s.AnswersWell := by
  have hnames : ∀ {call outcome}, .answered call outcome ∈ s.history →
      Names s.history call outcome := by
    intro call outcome hanswered
    obtain ⟨given, auditId, hgrounds, rfl⟩ := hexplained.grounds hanswered
    exact (hgrounds.names hvouched).audited auditId
  constructor
  case wellFormed => exact hwell.answered
  case keyless =>
    intro call outcome hanswered
    obtain ⟨given, auditId, hgrounds, rfl⟩ := hexplained.grounds hanswered
    have hwell := hwell.answered hanswered
    constructor
    · intro hkey
      refine (hwell.keyed hkey).imp_right fun ⟨hstatus, hreason⟩ => ⟨hstatus, hreason, ?_⟩
      exact (hgrounds.key_eq_none_iff horder hstatus).mp hkey
    · rintro (hstatus | ⟨hstatus, _, hunnamed⟩)
      · exact hwell.keyless hstatus
      · exact (hgrounds.key_eq_none_iff horder hstatus).mpr hunnamed
  case names => exact hnames
  case own =>
    intro call outcome envelope hanswered hrequested hown
    cases hnames hanswered with
    | requested original horiginal hid =>
        rw [horder.requested_unique hrequested horiginal]
        exact .inl hid
    | redeemed granter original token mintedAt now worth hredeemed hfound hminted horiginal hid =>
        obtain rfl := hown hredeemed hminted
        rw [horder.requested_unique hrequested horiginal]
        exact .inl hid
    | unknown token now hredeemed hstatus hreason hid => exact .inr ⟨hstatus, hreason⟩

/-- A call that means to request a write and nothing more has no token to redeem, and one that means
to commit the write as well keeps the token to itself. -/
theorem Meant.answersRequest {envelope : Envelope} {thenCommit : Bool}
    (hmeant : s.Meant call thenCommit) (hanswers : s.AnswersWell) (horder : s.InOrder)
    (hrequested : .requested call envelope ∈ s.history) :
    s.AnswersRequest call envelope thenCommit where
  requested := by
    intro hflag outcome hanswered
    have hfree := hmeant.redeemed hflag
    cases hanswers.names hanswered with
    | requested original horiginal hid =>
        rw [horder.requested_unique hrequested horiginal]
        exact hid
    | redeemed granter original token mintedAt now worth hredeemed =>
        exact absurd hredeemed (hfree token now worth)
    | unknown token now hredeemed => exact absurd hredeemed (hfree token now .unknown)
  committed := by
    intro hflag outcome hanswered
    have hstatus := hmeant.accepted hflag outcome hanswered
    refine ⟨hstatus, ?_⟩
    rw [← Option.not_isSome_iff_eq_none, (hanswers.wellFormed hanswered).token]
    exact hstatus

end Answers

theorem answersWell_run (opens : Bool) (ttl : Span) (actions : List Action) :
    ((start opens ttl).run actions).AnswersWell :=
  (explained_run opens ttl actions).answersWell (wellFormed_run opens ttl actions)
    (vouched_run opens ttl actions) (inOrder_run opens ttl actions)

/-- Every answer that a call gets in a run is well formed, and a call that is started to request a
write is answered under the name of that write. -/
theorem run_answers (opens : Bool) (ttl : Span) (actions : List Action) :
    ((start opens ttl).run actions).AnswersWell ∧
      ∀ {before after : List Action} {call : CallId} {stamp : Stamp} {envelope : Envelope}
        {thenCommit : Bool},
        actions = before ++ .request call stamp envelope thenCommit :: after →
        ((start opens ttl).run before).isNew call →
        ((start opens ttl).run actions).AnswersRequest call envelope thenCommit := by
  refine ⟨answersWell_run opens ttl actions, ?_⟩
  rintro before after call stamp envelope thenCommit hactions hnew
  have hrun := run_append_cons (start opens ttl) before after
    (.request call stamp envelope thenCommit)
  rw [← hactions] at hrun
  have hmeant : ((start opens ttl).run actions).Meant call thenCommit := by
    rw [hrun]
    exact run_invariant (fun s action => meant_motion (s.motion_cases action))
      (meant_requested hnew stamp envelope thenCommit) after
  have hrequested : .requested call envelope ∈ ((start opens ttl).run actions).history := by
    rw [hrun]
    refine (history_run _ after).subset ?_
    simp [step, hnew, advance]
  exact hmeant.answersRequest (answersWell_run opens ttl actions)
    (inOrder_run opens ttl actions) hrequested

end Traffic

end Gatehouse
