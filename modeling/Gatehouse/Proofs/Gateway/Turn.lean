import Gatehouse.Proofs.Gateway.Ledger
import Gatehouse.Proofs.Gateway.Traffic

/-! # What a call does at a time

A turn takes a call from one point where it waits to the next, or to its end.
`Turn` lists every turn there is together with what it does to the gateway and
what can be seen of it, `Step` every way in which traffic can change, and
`step_cases` says that there are no others. Invariants of traffic are proved by
cases on a step.
-/

namespace Gatehouse

/-- The request and its envelope agree on the execution and on the key. -/
def WriteRequest.Keyed (request : WriteRequest) : Prop :=
  request.envelope.execution = some request.execution ∧ request.envelope.key = some request.key

/-- A write with an execution has a key. -/
theorem Envelope.resolvedKey_of_execution (envelope : Envelope) {execution : String}
    (hexecution : envelope.execution = some execution) :
    ∃ key, envelope.resolvedKey = some key := by
  unfold resolvedKey
  cases envelope.key with
  | some key => exact ⟨key, rfl⟩
  | none => exact ⟨_, by rw [hexecution]; rfl⟩

/-- When a write is without an execution or a key, it is the execution that is missing. -/
theorem Envelope.execution_eq_none (envelope : Envelope)
    (hmissing : ∀ execution key, envelope.execution = some execution →
      envelope.resolvedKey = some key → False) : envelope.execution = none := by
  cases hexecution : envelope.execution with
  | none => rfl
  | some execution =>
      obtain ⟨key, hkey⟩ := envelope.resolvedKey_of_execution hexecution
      exact absurd hkey (hmissing execution key hexecution)

/-- The key of a write whose key is filled in is the one it had before. -/
theorem Envelope.resolvedKey_filled (envelope : Envelope) :
    ({ envelope with key := envelope.resolvedKey } : Envelope).resolvedKey =
      envelope.resolvedKey := by
  cases hkey : envelope.resolvedKey with
  | some key => rfl
  | none =>
      -- A write that has no key names none and has no execution.
      cases hgiven : envelope.key <;> simp_all [resolvedKey]

namespace Call

/-- The replies that a call waits for, at every stage of it. -/
inductive Expects : Call → Reply → Prop where
  | receiving (request : WriteRequest) (event : AuditEvent) (accepted : Bool) :
      Expects (.receiving request event) (.recorded accepted)
  | evaluating (request : WriteRequest) (answer : Except Fault Decision) :
      Expects (.evaluating request) (.decided answer)
  | judged (request : WriteRequest) (decision : Decision) (event : AuditEvent) (accepted : Bool) :
      Expects (.judged request decision event) (.recorded accepted)
  | opening (request : WriteRequest) (reason : String) (payload : Json)
      (answer : Except Fault String) :
      Expects (.opening request reason payload) (.opened answer)
  | accepting (outcome : WriteOutcome) (token : String) (thenCommit : Bool) (event : AuditEvent)
      (accepted : Bool) :
      Expects (.accepting outcome token thenCommit event) (.recorded accepted)
  | applying (envelope : Envelope) (key : WriteKey) (handler : HandlerId)
      (answer : Except Fault Json) :
      Expects (.applying envelope key handler) (.applied answer)
  | closing (outcome : WriteOutcome) (event : AuditEvent) (accepted : Bool) :
      Expects (.closing outcome event) (.recorded accepted)

theorem expects_cases {stage : Call} {reply : Reply} (hexpects : stage.awaits.expects reply) :
    stage.Expects reply := by
  cases stage <;> cases reply <;> first | contradiction | constructor

end Call

namespace Gateway

/-- The gateway after a token was redeemed. -/
def spend (g : Gateway) (token : String) : Gateway :=
  { g with tokens := g.tokens.without token }

/-- The gateway after an attempt for a key was begun. -/
def reserve (g : Gateway) (key : WriteKey) (now : Moment) : Gateway :=
  { g with ledger := (g.ledger.begin key now).2 }

/-- The outcome of an attempt that ended like this. -/
def settledOutcome (envelope : Envelope) (key : WriteKey) : Except String Json → WriteOutcome
  | .ok data => { WriteOutcome.new .applied envelope.id with data := some data, key := some key }
  | .error reason =>
    { WriteOutcome.new .failed envelope.id with reason := some reason, key := some key }

/-- The state in which an attempt leaves its key that ended like this. -/
def settledState : Except String Json → KeyState
  | .ok _ => .succeeded
  | .error _ => .failed

/-- The outcome of a write that was carried out earlier. -/
def replayedOutcome (envelope : Envelope) (key : WriteKey) (stored : WriteOutcome) : WriteOutcome :=
  { WriteOutcome.new .replayed envelope.id with data := stored.data, key := some key }

/-- The outcome of a commit whose key another commit holds. -/
def busyOutcome (envelope : Envelope) (key : WriteKey) : WriteOutcome :=
  { WriteOutcome.new .failed envelope.id with
    reason := some "idempotency_in_progress", key := some key }

/-- The gateway after an attempt for a key ended. -/
def finished (g : Gateway) (envelope : Envelope) (key : WriteKey) (answer : Except String Json)
    (now : Moment) : Gateway :=
  { g with ledger :=
      g.ledger.finish key (settledState answer) (settledOutcome envelope key answer) now }

theorem settledState_ne_processing (answer : Except String Json) :
    settledState answer ≠ .processing := by
  cases answer <;> simp [settledState]

theorem settle_eq (g : Gateway) (stamp : Stamp) (envelope : Envelope) (key : WriteKey)
    (answer : Except String Json) :
    ∃ event, g.settle stamp envelope key answer = (g.finished envelope key answer stamp.now,
      .waiting (.closing (settledOutcome envelope key answer) event)) := by
  cases answer <;> exact ⟨_, rfl⟩

section Apply

variable {g : Gateway} {stamp : Stamp} {envelope : Envelope} {key : WriteKey}

/-- A commit whose key is held is turned away, and the gateway stays as it is. -/
theorem apply_of_marks (hmarks : g.ledger.Marks key) :
    g.apply stamp envelope key = (g, .answered (busyOutcome envelope key)) := by
  simp only [apply, KeyLedger.begin_of_marks hmarks]
  rfl

/-- A commit whose key was carried out is answered from the ledger, and the gateway stays as it
is. -/
theorem apply_of_keeps {stored : WriteOutcome} (hkeeps : g.ledger.Keeps key stored) :
    g.apply stamp envelope key = (g, replay stamp envelope key stored) := by
  simp only [apply, KeyLedger.begin_of_keeps hkeeps]

theorem apply_of_handled {handler : HandlerId}
    (hreserved : (g.ledger.begin key stamp.now).1 = .reserved)
    (hhandler : g.handlers.get? envelope.command = some handler) :
    g.apply stamp envelope key =
      (g.reserve key stamp.now, .waiting (.applying envelope key handler)) := by
  have hbegin : g.ledger.begin key stamp.now = (.reserved, (g.ledger.begin key stamp.now).2) :=
    Prod.ext hreserved rfl
  unfold apply
  rw [hbegin]
  simp only [hhandler]
  rfl

/-- A commit that nobody is there to carry out has failed as soon as it was reserved. -/
theorem apply_of_unhandled (hreserved : (g.ledger.begin key stamp.now).1 = .reserved)
    (hhandler : g.handlers.get? envelope.command = none) :
    g.apply stamp envelope key = (g.reserve key stamp.now).settle stamp envelope key
      (.error ("no_handler_registered_for_command:" ++ envelope.command)) := by
  have hbegin : g.ledger.begin key stamp.now = (.reserved, (g.ledger.begin key stamp.now).2) :=
    Prod.ext hreserved rfl
  unfold apply
  rw [hbegin]
  simp only [hhandler]
  rfl

/-- The ledger and the handlers decide what a commit comes to whose token was valid. -/
theorem apply_cases (g : Gateway) (stamp : Stamp) (envelope : Envelope) (key : WriteKey) :
    (g.ledger.Marks key ∧
      g.apply stamp envelope key = (g, .answered (busyOutcome envelope key))) ∨
    (∃ stored, g.ledger.Keeps key stored ∧
      g.apply stamp envelope key = (g, replay stamp envelope key stored)) ∨
    ((g.ledger.begin key stamp.now).1 = .reserved ∧
      ((∃ handler, g.handlers.get? envelope.command = some handler ∧
        g.apply stamp envelope key =
          (g.reserve key stamp.now, .waiting (.applying envelope key handler))) ∨
      (g.handlers.get? envelope.command = none ∧
        g.apply stamp envelope key = (g.reserve key stamp.now).settle stamp envelope key
          (.error ("no_handler_registered_for_command:" ++ envelope.command))))) := by
  cases hbegin : (g.ledger.begin key stamp.now).1 with
  | inProgress =>
      have hmarks := KeyLedger.begin_inProgress_iff.mp hbegin
      exact .inl ⟨hmarks, apply_of_marks hmarks⟩
  | replay stored =>
      have hkeeps := KeyLedger.begin_replay_iff.mp hbegin
      exact .inr (.inl ⟨stored, hkeeps, apply_of_keeps hkeeps⟩)
  | reserved =>
      refine .inr (.inr ⟨rfl, ?_⟩)
      cases hhandler : g.handlers.get? envelope.command with
      | some handler => exact .inl ⟨handler, rfl, apply_of_handled hbegin hhandler⟩
      | none => exact .inr ⟨rfl, apply_of_unhandled hbegin hhandler⟩

end Apply

/-- Everything that a commit can come to. -/
inductive Commits (g : Gateway) (stamp : Stamp) (token : String) : Gateway × Progress → Prop where
  | invalid (outcome : WriteOutcome)
      (hworth : ∀ envelope, g.tokens.worth token stamp.now ≠ .valid envelope) :
      Commits g stamp token (g.spend token, .answered outcome)
  | keyless (envelope : Envelope) (outcome : WriteOutcome)
      (hworth : g.tokens.worth token stamp.now = .valid envelope)
      (hkey : envelope.resolvedKey = none) :
      Commits g stamp token (g.spend token, .answered outcome)
  | busy (envelope : Envelope) (key : WriteKey)
      (hworth : g.tokens.worth token stamp.now = .valid envelope)
      (hkey : envelope.resolvedKey = some key) (hmarks : g.ledger.Marks key) :
      Commits g stamp token (g.spend token, .answered (busyOutcome envelope key))
  | replayed (envelope : Envelope) (key : WriteKey) (stored : WriteOutcome) (event : AuditEvent)
      (hworth : g.tokens.worth token stamp.now = .valid envelope)
      (hkey : envelope.resolvedKey = some key) (hkeeps : g.ledger.Keeps key stored) :
      Commits g stamp token
        (g.spend token, .waiting (.closing (replayedOutcome envelope key stored) event))
  | reserved (envelope : Envelope) (key : WriteKey) (handler : HandlerId)
      (hworth : g.tokens.worth token stamp.now = .valid envelope)
      (hkey : envelope.resolvedKey = some key)
      (hreserved : (g.ledger.begin key stamp.now).1 = .reserved)
      (hhandler : g.handlers.get? envelope.command = some handler) :
      Commits g stamp token
        ((g.spend token).reserve key stamp.now, .waiting (.applying envelope key handler))
  | unhandled (envelope : Envelope) (key : WriteKey) (reason : String) (event : AuditEvent)
      (hworth : g.tokens.worth token stamp.now = .valid envelope)
      (hkey : envelope.resolvedKey = some key)
      (hreserved : (g.ledger.begin key stamp.now).1 = .reserved)
      (hhandler : g.handlers.get? envelope.command = none) :
      Commits g stamp token
        (((g.spend token).reserve key stamp.now).finished envelope key (.error reason) stamp.now,
          .waiting (.closing (settledOutcome envelope key (.error reason)) event))

theorem apply_commits (g : Gateway) (stamp : Stamp) (token : String) (envelope : Envelope)
    (key : WriteKey) (hworth : g.tokens.worth token stamp.now = .valid envelope)
    (hkey : envelope.resolvedKey = some key) :
    Commits g stamp token ((g.spend token).apply stamp envelope key) := by
  rcases (g.spend token).apply_cases stamp envelope key with ⟨hmarks, happly⟩ |
    ⟨stored, hkeeps, happly⟩ | ⟨hreserved, ⟨handler, hhandler, happly⟩ | ⟨hhandler, happly⟩⟩
  · rw [happly]
    exact .busy envelope key hworth hkey hmarks
  · rw [happly]
    exact .replayed envelope key stored _ hworth hkey hkeeps
  · rw [happly]
    exact .reserved envelope key handler hworth hkey hreserved hhandler
  · rw [happly]
    exact .unhandled envelope key _ _ hworth hkey hreserved hhandler

/-- A commit whose token is valid goes on to the key of the write. -/
theorem commit_of_valid {g : Gateway} {stamp : Stamp} {token : String} {envelope : Envelope}
    {key : WriteKey} (hworth : g.tokens.worth token stamp.now = .valid envelope)
    (hkey : envelope.resolvedKey = some key) :
    g.commit stamp token = (g.spend token).apply stamp envelope key := by
  unfold commit
  simp only [CommitTokens.take, hworth, hkey]
  rfl

theorem commit_commits (g : Gateway) (stamp : Stamp) (token : String) :
    Commits g stamp token (g.commit stamp token) := by
  cases hworth : g.tokens.worth token stamp.now with
  | unknown =>
      simp only [commit, CommitTokens.take, hworth]
      exact .invalid _ fun envelope => by simp [hworth]
  | expired envelope =>
      simp only [commit, CommitTokens.take, hworth]
      exact .invalid _ fun envelope => by simp [hworth]
  | valid envelope =>
      cases hkey : envelope.resolvedKey with
      | none =>
          simp only [commit, CommitTokens.take, hworth, hkey]
          exact .keyless envelope _ hworth hkey
      | some key =>
          rw [commit_of_valid hworth hkey]
          exact apply_commits g stamp token envelope key hworth hkey

/-- What a commit comes to when its token is valid and the write has a key is decided by the ledger
and the handlers. -/
theorem Commits.of_valid {g : Gateway} {stamp : Stamp} {token : String} {after : Gateway × Progress}
    (hcommits : g.Commits stamp token after) {envelope : Envelope} {key : WriteKey}
    (hworth : g.tokens.worth token stamp.now = .valid envelope)
    (hkey : envelope.resolvedKey = some key) :
    (g.ledger.Marks key ∧ after = (g.spend token, .answered (busyOutcome envelope key))) ∨
    (∃ stored event, g.ledger.Keeps key stored ∧
      after = (g.spend token, .waiting (.closing (replayedOutcome envelope key stored) event))) ∨
    ((g.ledger.begin key stamp.now).1 = .reserved ∧
      ((∃ handler, g.handlers.get? envelope.command = some handler ∧
        after =
          ((g.spend token).reserve key stamp.now, .waiting (.applying envelope key handler))) ∨
      ∃ reason event, g.handlers.get? envelope.command = none ∧
        after =
          (((g.spend token).reserve key stamp.now).finished envelope key (.error reason) stamp.now,
            .waiting (.closing (settledOutcome envelope key (.error reason)) event)))) := by
  have hsame : ∀ {found}, g.tokens.worth token stamp.now = .valid found → found = envelope :=
    fun hfound => Redemption.valid.inj (hfound.symm.trans hworth)
  have hown : ∀ {other}, envelope.resolvedKey = some other → other = key :=
    fun hother => Option.some.inj (hother.symm.trans hkey)
  cases hcommits with
  | invalid outcome hinvalid => exact absurd hworth (hinvalid envelope)
  | keyless found outcome hfound hnone =>
      obtain rfl := hsame hfound
      rw [hkey] at hnone
      contradiction
  | busy found other hfound hother hmarks =>
      obtain rfl := hsame hfound
      obtain rfl := hown hother
      exact .inl ⟨hmarks, rfl⟩
  | replayed found other stored event hfound hother hkeeps =>
      obtain rfl := hsame hfound
      obtain rfl := hown hother
      exact .inr (.inl ⟨stored, event, hkeeps, rfl⟩)
  | reserved found other handler hfound hother hreserved hhandler =>
      obtain rfl := hsame hfound
      obtain rfl := hown hother
      exact .inr (.inr ⟨hreserved, .inl ⟨handler, hhandler, rfl⟩⟩)
  | unhandled found other reason event hfound hother hreserved hhandler =>
      obtain rfl := hsame hfound
      obtain rfl := hown hother
      exact .inr (.inr ⟨hreserved, .inr ⟨reason, event, hhandler, rfl⟩⟩)

end Gateway

/-- The turns that leave the gateway as it is and decide about nothing. -/
inductive Talks : Call → Progress → Prop where
  | submitted (request : WriteRequest) (event : AuditEvent) :
      Talks (.receiving request event) (.waiting (.evaluating request))
  | parked (request : WriteRequest) (decision : Decision) (event closing : AuditEvent)
      (outcome : WriteOutcome) :
      Talks (.judged request decision event) (.waiting (.closing outcome closing))
  | opens (request : WriteRequest) (event : AuditEvent) (reason : String) (payload : Json) :
      Talks (.judged request (.requiresApproval reason none payload) event)
        (.waiting (.opening request reason payload))
  | overflowed (request : WriteRequest) (decision : Decision) (event : AuditEvent) :
      Talks (.judged request decision event) .broken
  | opened (request : WriteRequest) (reason : String) (payload : Json) (outcome : WriteOutcome)
      (closing : AuditEvent) :
      Talks (.opening request reason payload) (.waiting (.closing outcome closing))
  | handedOver (outcome answer : WriteOutcome) (token : String) (event : AuditEvent) :
      Talks (.accepting outcome token false event) (.answered answer)

/-- How a call comes to redeem a token: outright, or right after the acceptance of a write. -/
inductive Redeems (call : CallId) (token : String) : Option Call → List GatewayEvent → Prop where
  | outright : Redeems call token none []
  | following (outcome : WriteOutcome) (event : AuditEvent) (accepted : Bool) :
      Redeems call token (some (.accepting outcome token true event))
        [.replied call (.sink event) (.recorded accepted)]

/-- Every turn of a call: from where it waits, if it is in flight already, to what it makes of the
gateway and of itself. -/
inductive Turn (g : Gateway) (call : CallId) (now : Moment) :
    Option Call → List GatewayEvent → Gateway × Progress → Prop where
  /-- A write without an execution is refused. -/
  | rejected (envelope : Envelope) (outcome : WriteOutcome)
      (hexecution : envelope.execution = none) :
      Turn g call now none [.requested call envelope] (g, .answered outcome)
  /-- A write is on its way through phase one. -/
  | received (envelope : Envelope) (request : WriteRequest) (event : AuditEvent)
      (hkeyed : request.Keyed)
      (henvelope : request.envelope = { envelope with key := envelope.resolvedKey }) :
      Turn g call now none [.requested call envelope] (g, .waiting (.receiving request event))
  | talked (stage : Call) (reply : Reply) (progress : Progress)
      (hexpects : stage.awaits.expects reply) (htalks : Talks stage progress) :
      Turn g call now (some stage) [.replied call stage.awaits reply] (g, progress)
  /-- Governance decides. -/
  | judged (request : WriteRequest) (decision : Decision) (event : AuditEvent) :
      Turn g call now (some (.evaluating request))
        [.replied call (.evaluator request.question) (.decided (.ok decision))]
        (g, .waiting (.judged request decision event))
  /-- Governance fails, and the write is refused. -/
  | unjudged (request : WriteRequest) (fault : Fault) (outcome : WriteOutcome)
      (event : AuditEvent) :
      Turn g call now (some (.evaluating request))
        [.replied call (.evaluator request.question) (.decided (.error fault))]
        (g, .waiting (.closing outcome event))
  /-- The write is allowed and put under a token. -/
  | minted (request : WriteRequest) (reason : Option String) (event accepting : AuditEvent)
      (accepted : Bool) (token : String) (expiresAt : Moment) (outcome : WriteOutcome)
      (hexpires : now.add? g.tokens.ttl = some expiresAt) :
      Turn g call now (some (.judged request (.allow reason) event))
        [.replied call (.sink event) (.recorded accepted)]
        ({ g with tokens :=
            { g.tokens with pending := g.tokens.pending.put token ⟨request.envelope, expiresAt⟩ } },
          .waiting (.accepting outcome token request.thenCommit accepting))
  | committed (stage? : Option Call) (seen : List GatewayEvent) (stamp : Stamp) (token : String)
      (after : Gateway × Progress) (hnow : stamp.now = now)
      (hstart : Redeems call token stage? seen)
      (hcommits : g.Commits stamp token after) :
      Turn g call now stage? (seen ++ [.redeemed call token now (g.tokens.worth token now)]) after
  /-- The handler answers, and the key is freed. -/
  | settled (envelope : Envelope) (key : WriteKey) (handler : HandlerId)
      (answer : Except Fault Json) (event : AuditEvent) :
      Turn g call now (some (.applying envelope key handler))
        [.replied call (.handler handler envelope) (.applied answer)]
        (g.finished envelope key (answer.mapError Fault.text) now,
          .waiting (.closing (Gateway.settledOutcome envelope key (answer.mapError Fault.text))
            event))
  /-- The end is recorded. -/
  | closed (outcome : WriteOutcome) (event : AuditEvent) (accepted : Bool) :
      Turn g call now (some (.closing outcome event))
        [.replied call (.sink event) (.recorded accepted)]
        (g, .answered { outcome with auditId := Gateway.recordId event accepted })
  /-- A call is dropped while its handler is at work. -/
  | interrupted (envelope : Envelope) (key : WriteKey) (handler : HandlerId) :
      Turn g call now (some (.applying envelope key handler)) []
        ({ g with ledger := g.ledger.interrupted key envelope.id now }, .broken)
  /-- A call is dropped that holds no key. -/
  | left (stage : Call) (hheld : stage.heldKey? = none) :
      Turn g call now (some stage) [] (g, .broken)

namespace Gateway

theorem request_turn (g : Gateway) (call : CallId) (stamp : Stamp) (envelope : Envelope)
    (thenCommit : Bool) :
    Turn g call stamp.now none [.requested call envelope]
      (g, request stamp envelope thenCommit) := by
  unfold request
  split
  next execution key hexecution hkey =>
    exact .received envelope _ _ ⟨hexecution, rfl⟩ (by rw [hkey])
  next hmissing => exact .rejected envelope _ (envelope.execution_eq_none hmissing)

theorem enact_turn (g : Gateway) (call : CallId) (stamp : Stamp) (request : WriteRequest)
    (decision : Decision) (event : AuditEvent) (accepted : Bool) :
    Turn g call stamp.now (some (.judged request decision event))
      [.replied call (.sink event) (.recorded accepted)] (g.enact stamp request decision) := by
  have htalked : ∀ progress, Talks (.judged request decision event) progress →
      Turn g call stamp.now (some (.judged request decision event))
        [.replied call (.sink event) (.recorded accepted)] (g, progress) :=
    fun progress htalks => .talked _ (.recorded accepted) progress rfl htalks
  cases decision with
  | deny reason => exact htalked _ (.parked ..)
  | requiresApproval reason approval payload =>
      cases approval with
      | some approval => exact htalked _ (.parked ..)
      | none =>
          simp only [enact]
          split
          · exact htalked _ (.opens ..)
          · exact htalked _ (.parked ..)
  | allow reason =>
      simp only [enact, accept, CommitTokens.issue]
      cases hexpires : stamp.now.add? g.tokens.ttl with
      | none => exact htalked _ (.overflowed ..)
      | some expiresAt => exact .minted request reason event _ accepted _ expiresAt _ hexpires

theorem resume_turn (s : Traffic) (call : CallId) (stamp : Stamp) (stage : Call) (reply : Reply)
    (hexpects : stage.awaits.expects reply) :
    Turn s.gateway call stamp.now (some stage)
      (.replied call stage.awaits reply :: s.redemptionsAfter call stamp.now stage)
      (s.gateway.resume stamp stage reply) := by
  cases Call.expects_cases hexpects with
  | receiving request event accepted => exact .talked _ (.recorded accepted) _ rfl (.submitted ..)
  | evaluating request answer =>
      cases answer with
      | ok decision => exact .judged request decision _
      | error fault => exact .unjudged request fault _ _
  | judged request decision event accepted =>
      exact s.gateway.enact_turn call stamp request decision event accepted
  | opening request reason payload answer =>
      cases answer with
      | ok approval => exact .talked _ (.opened (.ok approval)) _ rfl (.opened ..)
      | error fault => exact .talked _ (.opened (.error fault)) _ rfl (.opened ..)
  | accepting outcome token thenCommit event accepted =>
      cases thenCommit with
      | false => exact .talked _ (.recorded accepted) _ rfl (.handedOver ..)
      | true =>
          exact .committed _ [_] stamp token _ rfl (.following outcome event accepted)
            (s.gateway.commit_commits stamp token)
  | applying envelope key handler answer =>
      obtain ⟨event, hsettle⟩ := s.gateway.settle_eq stamp envelope key (answer.mapError Fault.text)
      simp only [resume, hsettle]
      exact .settled envelope key handler answer event
  | closing outcome event accepted => exact .closed outcome event accepted

theorem abandon_turn (g : Gateway) (call : CallId) (now : Moment) (stage : Call) :
    Turn g call now (some stage) [] (g.abandon now stage, .broken) := by
  cases stage with
  | applying envelope key handler => exact .interrupted envelope key handler
  | _ => exact .left _ rfl

end Gateway

namespace Traffic

/-- Every way in which traffic can change. -/
inductive Step (s : Traffic) : Traffic → Prop where
  | still : Step s s
  | registered (command : String) (handler : HandlerId) :
      Step s { s with
        gateway := s.gateway.register command handler
        history := s.history ++ [.registered command handler] }
  | purged (now : Moment) :
      Step s { s with gateway := s.gateway.purge now, history := s.history ++ [.purged now] }
  | turned (call : CallId) (now : Moment) (stage? : Option Call) (seen : List GatewayEvent)
      (after : Gateway × Progress) (hstage : s.calls.get? call = stage?)
      (hnew : stage? = none → s.isNew call)
      (hturn : Turn s.gateway call now stage? seen after) :
      Step s (s.advance call now seen after)

/-- The call that an action is about. -/
def Action.call? : Action → Option CallId
  | .register .. | .purge _ => none
  | .request call .. | .commit call .. | .reply call .. | .drop call _ => some call

/-- An action about a call takes that call a turn further or changes nothing. -/
theorem step_turned (s : Traffic) {action : Action} {call : CallId}
    (hcall : action.call? = some call) : s.step action = s ∨
    ∃ now stage? seen after, s.calls.get? call = stage? ∧ (stage? = none → s.isNew call) ∧
      Turn s.gateway call now stage? seen after ∧
      s.step action = s.advance call now seen after := by
  cases action with
  | register | purge => contradiction
  | request other stamp envelope thenCommit =>
      obtain rfl := Option.some.inj hcall
      simp only [step]
      split
      next hnew =>
        exact .inr ⟨_, none, _, _, get?_of_isNew hnew, fun _ => hnew,
          s.gateway.request_turn other stamp envelope thenCommit, rfl⟩
      next => exact .inl rfl
  | commit other stamp token =>
      obtain rfl := Option.some.inj hcall
      simp only [step]
      split
      next hnew =>
        exact .inr ⟨_, none, _, _, get?_of_isNew hnew, fun _ => hnew,
          .committed none [] stamp token _ rfl .outright (s.gateway.commit_commits stamp token),
          rfl⟩
      next => exact .inl rfl
  | reply other stamp reply =>
      obtain rfl := Option.some.inj hcall
      cases hstage : s.calls.get? other with
      | none =>
          simp only [step, hstage]
          exact .inl trivial
      | some stage =>
          by_cases hexpects : stage.awaits.expects reply
          · simp only [step, hstage, hexpects, if_true]
            exact .inr ⟨_, _, _, _, rfl, by simp,
              Gateway.resume_turn s other stamp stage reply hexpects, rfl⟩
          · simp only [step, hstage, hexpects, Bool.false_eq_true, if_false]
            exact .inl trivial
  | drop other now =>
      obtain rfl := Option.some.inj hcall
      cases hstage : s.calls.get? other with
      | none =>
          simp only [step, hstage]
          exact .inl trivial
      | some stage =>
          simp only [step, hstage]
          exact .inr ⟨_, _, _, _, rfl, by simp, s.gateway.abandon_turn other now stage, rfl⟩

theorem step_cases (s : Traffic) (action : Action) : Step s (s.step action) := by
  cases hcall : action.call? with
  | some call =>
      rcases s.step_turned hcall with
        hstill | ⟨now, stage?, seen, after, hstage, hnew, hturn, hstep⟩
      · rw [hstill]
        exact .still
      · rw [hstep]
        exact .turned call now stage? seen after hstage hnew hturn
  | none =>
      cases action with
      | register command handler => exact .registered command handler
      | purge now => exact .purged now
      | _ => contradiction

/-- What every step keeps holds throughout a run. -/
theorem run_keeps {holds : Traffic → Prop}
    (hkeeps : ∀ {s next : Traffic}, Step s next → holds s → holds next)
    {s : Traffic} (hstart : holds s) (actions : List Action) : holds (s.run actions) :=
  run_invariant (fun s action => hkeeps (s.step_cases action)) hstart actions

theorem Step.history_grows {s next : Traffic} (hstep : Step s next) :
    s.history <+: next.history := by
  cases hstep with
  | still => exact List.prefix_rfl
  | registered | purged | turned => exact List.prefix_append _ _

theorem history_run (s : Traffic) (actions : List Action) :
    s.history <+: (s.run actions).history := by
  have hgrows : ∀ {next after : Traffic}, Step next after → s.history <+: next.history →
      s.history <+: after.history := fun hstep hbefore => hbefore.trans hstep.history_grows
  exact run_keeps hgrows List.prefix_rfl actions

end Traffic

end Gatehouse
