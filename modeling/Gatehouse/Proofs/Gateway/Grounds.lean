import Gatehouse.Proofs.Gateway.Allowance

/-! # What an answer goes back to

A call is answered because of something that happened to it, and the history
tells what: governance refused or parked the write, somebody opened an approval,
a handler replied, a token was worth nothing, or an earlier commit had taken the
key. `Grounds` lists every answer there is, each with what stands behind it, and
`Explained` says that every answer seen and every answer under way is one of
them. What can be told from the grounds of an answer holds however other calls
move.
-/

namespace Gatehouse

namespace WriteRequest

/-- The answer that a write needs an approval. -/
def parkedOutcome (request : WriteRequest) (reason approval : String) : WriteOutcome :=
  { request.outcome .requiresApproval (some reason) with approval := some approval }

/-- The answer that a write was put under a token. -/
def acceptedOutcome (request : WriteRequest) (reason : Option String) (token : String) :
    WriteOutcome :=
  { request.outcome .accepted reason with token := some token }

end WriteRequest

/-- A call requested a write, and this is what governance answered. -/
structure Ruled (history : List GatewayEvent) (call : CallId) (request : WriteRequest)
    (answer : Except Fault Decision) : Prop where
  keyed : request.Keyed
  requested : Petitioned history call request.envelope
  replied : .replied call (.evaluator request.question) (.decided answer) ∈ history

/-- At this place a call redeemed a valid token for a write under the key. -/
def CommittedAt (history : List GatewayEvent) (place : Nat) (call : CallId) (envelope : Envelope)
    (key : WriteKey) : Prop :=
  envelope.resolvedKey = some key ∧
    ∃ token now, history[place]? = some (.redeemed call token now (.valid envelope))

/-- Before this place somebody redeemed a valid token for a write under the key. -/
def TakenBefore (history : List GatewayEvent) (place : Nat) (key : WriteKey) : Prop :=
  ∃ earlier call envelope, earlier < place ∧ CommittedAt history earlier call envelope key

/-- Every answer to a call and what stands behind it; `opens` says whether approvals are opened for
the gateway. -/
inductive Grounds (opens : Bool) (history : List GatewayEvent) (call : CallId) :
    WriteOutcome → Prop where
  | unnamed (envelope : Envelope) (hrequested : .requested call envelope ∈ history)
      (hexecution : envelope.execution = none) :
      Grounds opens history call
        { WriteOutcome.new .rejected envelope.id with reason := some "missing_execution_id" }
  | unavailable (request : WriteRequest) (fault : Fault)
      (hruled : Ruled history call request (.error fault)) :
      Grounds opens history call
        (request.outcome .rejected (some ("governance_unavailable:" ++ fault.text)))
  | denied (request : WriteRequest) (reason : String)
      (hruled : Ruled history call request (.ok (.deny reason))) :
      Grounds opens history call (request.outcome .rejected (some reason))
  | parked (request : WriteRequest) (reason approval : String) (payload : Json)
      (hruled : Ruled history call request
        (.ok (.requiresApproval reason (some approval) payload))) :
      Grounds opens history call (request.parkedOutcome reason approval)
  | opened (request : WriteRequest) (reason approval : String) (payload : Json)
      (hruled : Ruled history call request (.ok (.requiresApproval reason none payload)))
      (hopened :
        .replied call (.creator request.envelope payload) (.opened (.ok approval)) ∈ history) :
      Grounds opens history call (request.parkedOutcome reason approval)
  | unopened (request : WriteRequest) (reason : String) (payload : Json) (stamp : Stamp)
      (fault : Fault)
      (hruled : Ruled history call request (.ok (.requiresApproval reason none payload)))
      (hopened :
        .replied call (.creator request.envelope payload) (.opened (.error fault)) ∈ history) :
      Grounds opens history call
        (request.parkedOutcome reason (Gateway.unopenedApproval stamp request))
  | unasked (request : WriteRequest) (reason : String) (payload : Json) (stamp : Stamp)
      (hopens : opens = false)
      (hruled : Ruled history call request (.ok (.requiresApproval reason none payload))) :
      Grounds opens history call
        (request.parkedOutcome reason (Gateway.unopenedApproval stamp request))
  | accepted (request : WriteRequest) (reason : Option String) (token : String) (now : Moment)
      (hruled : Ruled history call request (.ok (.allow reason)))
      (hminted : .minted call token now ∈ history) :
      Grounds opens history call (request.acceptedOutcome reason token)
  | unknown (token : String) (now : Moment)
      (hredeemed : .redeemed call token now .unknown ∈ history) :
      Grounds opens history call
        { WriteOutcome.new .invalidToken ⟨""⟩ with reason := some "unknown_token" }
  | expired (token : String) (now : Moment) (envelope : Envelope)
      (hredeemed : .redeemed call token now (.expired envelope) ∈ history) :
      Grounds opens history call
        { WriteOutcome.new .invalidToken envelope.id with reason := some "token_expired" }
  | keyless (token : String) (now : Moment) (envelope : Envelope)
      (hredeemed : .redeemed call token now (.valid envelope) ∈ history)
      (hkey : envelope.resolvedKey = none) :
      Grounds opens history call
        { WriteOutcome.new .failed envelope.id with reason := some "missing_execution_id" }
  | busy (place : Nat) (envelope : Envelope) (key : WriteKey)
      (hcommitted : CommittedAt history place call envelope key)
      (htaken : TakenBefore history place key) :
      Grounds opens history call (Gateway.busyOutcome envelope key)
  | replayed (place : Nat) (envelope : Envelope) (key : WriteKey) (stored : WriteOutcome)
      (hcommitted : CommittedAt history place call envelope key)
      (htaken : TakenBefore history place key) :
      Grounds opens history call (Gateway.replayedOutcome envelope key stored)
  | unhandled (place : Nat) (envelope : Envelope) (key : WriteKey)
      (hcommitted : CommittedAt history place call envelope key)
      (hbound : boundTo (history.take place) envelope.command = none) :
      Grounds opens history call (Gateway.settledOutcome envelope key
        (.error ("no_handler_registered_for_command:" ++ envelope.command)))
  | settled (place : Nat) (envelope : Envelope) (key : WriteKey) (handler : HandlerId)
      (answer : Except Fault Json) (hcommitted : CommittedAt history place call envelope key)
      (hreplied : .replied call (.handler handler envelope) (.applied answer) ∈ history) :
      Grounds opens history call
        (Gateway.settledOutcome envelope key (answer.mapError Fault.text))

section Append

variable {opens : Bool} {history : List GatewayEvent} {call : CallId} {place : Nat}
  {envelope : Envelope} {key : WriteKey} {outcome : WriteOutcome}

theorem Ruled.append {request : WriteRequest} {answer : Except Fault Decision}
    (hruled : Ruled history call request answer) (added : List GatewayEvent) :
    Ruled (history ++ added) call request answer where
  keyed := hruled.keyed
  requested := hruled.requested.append added
  replied := List.mem_append_left _ hruled.replied

theorem CommittedAt.lt_length (hcommitted : CommittedAt history place call envelope key) :
    place < history.length := by
  obtain ⟨_, token, now, hplace⟩ := hcommitted
  exact (List.getElem?_eq_some_iff.mp hplace).1

theorem CommittedAt.append (hcommitted : CommittedAt history place call envelope key)
    (added : List GatewayEvent) : CommittedAt (history ++ added) place call envelope key := by
  obtain ⟨hkey, token, now, hplace⟩ := hcommitted
  exact ⟨hkey, token, now, place_append hplace added⟩

theorem TakenBefore.append (htaken : TakenBefore history place key) (added : List GatewayEvent) :
    TakenBefore (history ++ added) place key := by
  obtain ⟨earlier, call, envelope, hlt, hcommitted⟩ := htaken
  exact ⟨earlier, call, envelope, hlt, hcommitted.append added⟩

theorem TakenBefore.grow (htaken : TakenBefore history history.length key)
    (added : List GatewayEvent) :
    TakenBefore (history ++ added) (history ++ added).length key := by
  obtain ⟨earlier, call, envelope, hlt, hcommitted⟩ := htaken
  refine ⟨earlier, call, envelope, ?_, hcommitted.append added⟩
  rw [List.length_append]
  exact Nat.lt_add_right _ hlt

/-- What stands behind an answer stands behind it for good. -/
theorem Grounds.append (hgrounds : Grounds opens history call outcome)
    (added : List GatewayEvent) : Grounds opens (history ++ added) call outcome := by
  cases hgrounds with
  | unnamed envelope hrequested hexecution =>
      exact .unnamed envelope (List.mem_append_left _ hrequested) hexecution
  | unavailable request fault hruled => exact .unavailable request fault (hruled.append added)
  | denied request reason hruled => exact .denied request reason (hruled.append added)
  | parked request reason approval payload hruled =>
      exact .parked request reason approval payload (hruled.append added)
  | opened request reason approval payload hruled hopened =>
      exact .opened request reason approval payload (hruled.append added)
        (List.mem_append_left _ hopened)
  | unopened request reason payload stamp fault hruled hopened =>
      exact .unopened request reason payload stamp fault (hruled.append added)
        (List.mem_append_left _ hopened)
  | unasked request reason payload stamp hopens hruled =>
      exact .unasked request reason payload stamp hopens (hruled.append added)
  | accepted request reason token now hruled hminted =>
      exact .accepted request reason token now (hruled.append added)
        (List.mem_append_left _ hminted)
  | unknown token now hredeemed => exact .unknown token now (List.mem_append_left _ hredeemed)
  | expired token now envelope hredeemed =>
      exact .expired token now envelope (List.mem_append_left _ hredeemed)
  | keyless token now envelope hredeemed hkey =>
      exact .keyless token now envelope (List.mem_append_left _ hredeemed) hkey
  | busy place envelope key hcommitted htaken =>
      exact .busy place envelope key (hcommitted.append added) (htaken.append added)
  | replayed place envelope key stored hcommitted htaken =>
      exact .replayed place envelope key stored (hcommitted.append added) (htaken.append added)
  | unhandled place envelope key hcommitted hbound =>
      refine .unhandled place envelope key (hcommitted.append added) ?_
      rwa [List.take_append_of_le_length (Nat.le_of_lt hcommitted.lt_length)]
  | settled place envelope key handler answer hcommitted hreplied =>
      exact .settled place envelope key handler answer (hcommitted.append added)
        (List.mem_append_left _ hreplied)

end Append

/-- The history explains what a call carries that waits for the record of its end or for a
handler. -/
def Call.Explained (opens : Bool) (history : List GatewayEvent) (call : CallId) : Call → Prop
  | .accepting outcome token _ _ => ∃ request reason now,
    Ruled history call request (.ok (.allow reason)) ∧ .minted call token now ∈ history ∧
      outcome = request.acceptedOutcome reason token
  | .applying envelope key _ => ∃ place, CommittedAt history place call envelope key
  | .closing outcome _ => Grounds opens history call outcome
  | .receiving .. | .evaluating .. | .judged .. | .opening .. => True

theorem Call.Explained.append {opens : Bool} {history : List GatewayEvent} {call : CallId}
    {stage : Call} (hexplained : stage.Explained opens history call) (added : List GatewayEvent) :
    stage.Explained opens (history ++ added) call := by
  cases stage with
  | accepting outcome token thenCommit event =>
      obtain ⟨request, reason, now, hruled, hminted, houtcome⟩ := hexplained
      exact ⟨request, reason, now, hruled.append added, List.mem_append_left _ hminted, houtcome⟩
  | applying envelope key handler =>
      obtain ⟨place, hcommitted⟩ := hexplained
      exact ⟨place, hcommitted.append added⟩
  | closing outcome event => exact Grounds.append hexplained added
  | _ => trivial

/-- A commit that nobody is there to carry out has failed as soon as it was reserved. -/
theorem Gateway.commit_of_unhandled {g : Gateway} {stamp : Stamp} {token : String}
    {envelope : Envelope} {key : WriteKey}
    (hworth : g.tokens.worth token stamp.now = .valid envelope)
    (hkey : envelope.resolvedKey = some key)
    (hreserved : (g.ledger.begin key stamp.now).1 = .reserved)
    (hhandler : g.handlers.get? envelope.command = none) :
    ∃ event, g.commit stamp token =
      (((g.spend token).reserve key stamp.now).finished envelope key
          (.error ("no_handler_registered_for_command:" ++ envelope.command)) stamp.now,
        .waiting (.closing (settledOutcome envelope key
          (.error ("no_handler_registered_for_command:" ++ envelope.command))) event)) := by
  obtain ⟨event, hsettle⟩ := ((g.spend token).reserve key stamp.now).settle_eq stamp envelope key
    (.error ("no_handler_registered_for_command:" ++ envelope.command))
  refine ⟨event, ?_⟩
  rw [commit_of_valid hworth hkey, ← hsettle]
  exact apply_of_unhandled hreserved hhandler

namespace Traffic

/-- Every change of traffic as it is computed. -/
inductive Motion (s : Traffic) : Traffic → Prop where
  | still : Motion s s
  | registered (command : String) (handler : HandlerId) :
      Motion s { s with
        gateway := s.gateway.register command handler
        history := s.history ++ [.registered command handler] }
  | purged (now : Moment) :
      Motion s { s with gateway := s.gateway.purge now, history := s.history ++ [.purged now] }
  | requested (call : CallId) (stamp : Stamp) (envelope : Envelope) (thenCommit : Bool)
      (hnew : s.isNew call) :
      Motion s (s.advance call stamp.now [.requested call envelope]
        (s.gateway, Gateway.request stamp envelope thenCommit))
  | committed (call : CallId) (stamp : Stamp) (token : String) (hnew : s.isNew call) :
      Motion s (s.advance call stamp.now [s.redemption call token stamp.now]
        (s.gateway.commit stamp token))
  | resumed (call : CallId) (stamp : Stamp) (stage : Call) (reply : Reply)
      (hstage : s.calls.get? call = some stage) (hexpects : stage.awaits.expects reply) :
      Motion s (s.advance call stamp.now
        (.replied call stage.awaits reply :: s.redemptionsAfter call stamp.now stage)
        (s.gateway.resume stamp stage reply))
  | dropped (call : CallId) (now : Moment) (stage : Call)
      (hstage : s.calls.get? call = some stage) :
      Motion s (s.advance call now [] (s.gateway.abandon now stage, .broken))

theorem motion_cases (s : Traffic) (action : Action) : Motion s (s.step action) := by
  cases action with
  | register command handler => exact .registered command handler
  | purge now => exact .purged now
  | request call stamp envelope thenCommit =>
      simp only [step]
      split
      next hnew => exact .requested call stamp envelope thenCommit hnew
      next => exact .still
  | commit call stamp token =>
      simp only [step]
      split
      next hnew => exact .committed call stamp token hnew
      next => exact .still
  | reply call stamp reply =>
      simp only [step]
      split
      next stage hstage =>
        split
        next hexpects => exact .resumed call stamp stage reply hstage hexpects
        next => exact .still
      next => exact .still
  | drop call now =>
      simp only [step]
      split
      next stage hstage => exact .dropped call now stage hstage
      next => exact .still

/-- Answers, calls in flight and the ledger of keys are what the history explains. -/
structure Explained (opens : Bool) (s : Traffic) : Prop where
  opens_eq : s.gateway.opensApprovals = opens
  calls : ∀ call stage, s.calls.get? call = some stage → stage.Explained opens s.history call
  answered : ∀ {place call outcome}, s.history[place]? = some (.answered call outcome) →
    ∃ given auditId, Grounds opens (s.history.take place) call given ∧
      outcome = { given with auditId := auditId }
  ruled : ∀ {call question reply}, .replied call (.evaluator question) reply ∈ s.history →
    ∃ request : WriteRequest, request.Keyed ∧ Petitioned s.history call request.envelope ∧
      question = request.question
  taken : ∀ {key}, s.gateway.ledger.get? key ≠ none → TakenBefore s.history s.history.length key

theorem explained_start (opens : Bool) (ttl : Span) : (start opens ttl).Explained opens where
  opens_eq := rfl
  calls := by simp [start]
  answered := by simp [start]
  ruled := by simp [start]
  taken := by simp [start, KeyLedger.get?_empty]

/-- Before a call goes on nothing is seen of it that answers it, and no ruling but on a write that
it requested. -/
structure Tells (s : Traffic) (seen : List GatewayEvent) : Prop where
  quiet : ∀ other outcome, .answered other outcome ∉ seen
  ruled : ∀ {other question reply}, .replied other (.evaluator question) reply ∈ seen →
    ∃ request : WriteRequest, request.Keyed ∧ Petitioned s.history other request.envelope ∧
      question = request.question

/-- What a call brings with it when it goes on. -/
structure Bears (opens : Bool) (s : Traffic) (call : CallId) (now : Moment)
    (seen : List GatewayEvent) (after : Gateway × Progress) : Prop where
  opens_eq : after.1.opensApprovals = s.gateway.opensApprovals
  stage : ∀ stage, after.2.call? = some stage →
    stage.Explained opens (s.history ++ seen ++ after.2.events call now) call
  answered : ∀ outcome, after.2 = .answered outcome →
    ∃ given auditId, Grounds opens (s.history ++ seen) call given ∧
      outcome = { given with auditId := auditId }
  tells : s.Tells seen
  taken : ∀ {key}, after.1.ledger.get? key ≠ none →
    s.gateway.ledger.get? key ≠ none ∨
      TakenBefore (s.history ++ seen) (s.history ++ seen).length key

theorem progress_of_answered {call other : CallId} {now : Moment} {progress : Progress}
    {outcome : WriteOutcome} (hmem : .answered other outcome ∈ progress.events call now) :
    progress = .answered outcome := by
  unfold Progress.events at hmem
  split at hmem <;> simp at hmem
  rw [hmem.2]

section Bears

variable {opens : Bool} {s : Traffic} {call : CallId} {now : Moment} {seen : List GatewayEvent}
  {after : Gateway × Progress}

/-- Where an answer stands in the history, everything that was seen before it explains it. -/
theorem Bears.answeredAt (hbears : Bears opens s call now seen after) {place : Nat}
    {other : CallId} {outcome : WriteOutcome}
    (hcall : ∀ event ∈ seen ++ after.2.events call now, event.call? = some call)
    (hplace : (s.history ++ (seen ++ after.2.events call now))[place]? =
      some (.answered other outcome)) (hlater : s.history.length ≤ place) :
    ∃ given auditId,
      Grounds opens ((s.history ++ (seen ++ after.2.events call now)).take place) other given ∧
        outcome = { given with auditId := auditId } := by
  rcases place_cases hplace with ⟨hlt, _⟩ | ⟨_, hadded⟩
  · omega
  · have hother : other = call := Option.some.inj (hcall _ hadded)
    have hevents := (List.mem_append.mp hadded).resolve_left (hbears.tells.quiet other outcome)
    have hprogress := progress_of_answered hevents
    obtain ⟨given, auditId, hgrounds, houtcome⟩ := hbears.answered outcome hprogress
    rw [hprogress] at hplace ⊢
    simp only [Progress.events, ← List.append_assoc] at hplace ⊢
    rcases place_singleton_cases hplace with ⟨_, hbefore⟩ | ⟨rfl, _⟩
    · rcases place_cases hbefore with ⟨hlt, _⟩ | ⟨_, hseen⟩
      · omega
      · exact absurd hseen (hbears.tells.quiet other outcome)
    · rw [List.take_left, hother]
      exact ⟨given, auditId, hgrounds, houtcome⟩

theorem Explained.advance (hexplained : s.Explained opens)
    (hbears : Bears opens s call now seen after)
    (hcall : ∀ event ∈ seen ++ after.2.events call now, event.call? = some call) :
    (s.advance call now seen after).Explained opens where
  opens_eq := hbears.opens_eq.trans hexplained.opens_eq
  calls := by
    intro other stage hplaced
    rw [Traffic.advance, get?_place] at hplaced
    rw [Traffic.advance]
    split at hplaced
    next heq =>
      rw [heq, ← List.append_assoc]
      exact hbears.stage stage hplaced
    next => exact (hexplained.calls other stage hplaced).append _
  answered := by
    intro place other outcome hplace
    rcases place_cases hplace with ⟨_, hbefore⟩ | ⟨hlater, _⟩
    · rw [Traffic.advance, take_append hbefore]
      exact hexplained.answered hbefore
    · exact hbears.answeredAt hcall hplace hlater
  ruled := by
    intro other question reply hmem
    rcases List.mem_append.mp hmem with hmem | hmem
    · obtain ⟨request, hkeyed, hpetitioned, hquestion⟩ := hexplained.ruled hmem
      exact ⟨request, hkeyed, hpetitioned.append _, hquestion⟩
    · rcases List.mem_append.mp hmem with hseen | hevents
      · obtain ⟨request, hkeyed, hpetitioned, hquestion⟩ := hbears.tells.ruled hseen
        exact ⟨request, hkeyed, hpetitioned.append _, hquestion⟩
      · unfold Progress.events at hevents
        split at hevents <;> simp at hevents
  taken := by
    intro key hknown
    rcases hbears.taken hknown with hbefore | htaken
    · exact (hexplained.taken hbefore).grow _
    · rw [Traffic.advance, ← List.append_assoc]
      exact htaken.grow _

end Bears

theorem tells_redemption {s : Traffic} {call : CallId} {token : String} {stage? : Option Call}
    {earlier : List GatewayEvent} (hredeems : Redeems call token stage? earlier) (now : Moment) :
    s.Tells (earlier ++ [s.redemption call token now]) := by
  cases hredeems <;> constructor <;> simp [redemption]

section Bears

variable {opens : Bool} {s : Traffic} {call : CallId} {now : Moment} {seen : List GatewayEvent}
  {next : Gateway} {outcome : WriteOutcome}

theorem bears_answered (hopens : next.opensApprovals = s.gateway.opensApprovals)
    (hledger : next.ledger = s.gateway.ledger) (htells : s.Tells seen)
    (hgrounds : Grounds opens (s.history ++ seen) call outcome) {answer : WriteOutcome}
    {auditId : Option String} (hanswer : answer = { outcome with auditId := auditId }) :
    Bears opens s call now seen (next, .answered answer) where
  opens_eq := hopens
  stage stage hstage := by contradiction
  answered other hother :=
    ⟨outcome, auditId, hgrounds, (Progress.answered.inj hother).symm.trans hanswer⟩
  tells := htells
  taken hknown := .inl (by rwa [← hledger])

theorem bears_waiting {stage : Call} (hopens : next.opensApprovals = s.gateway.opensApprovals)
    (hledger : next.ledger = s.gateway.ledger) (htells : s.Tells seen)
    (hstage : stage.Explained opens
      (s.history ++ seen ++ (Progress.waiting stage).events call now) call) :
    Bears opens s call now seen (next, .waiting stage) where
  opens_eq := hopens
  stage other hother := by
    obtain rfl := Option.some.inj hother
    exact hstage
  answered answer hanswer := by contradiction
  tells := htells
  taken hknown := .inl (by rwa [← hledger])

theorem bears_closing (hopens : next.opensApprovals = s.gateway.opensApprovals)
    (hledger : next.ledger = s.gateway.ledger) (htells : s.Tells seen)
    (hgrounds : Grounds opens (s.history ++ seen) call outcome) (event : AuditEvent) :
    Bears opens s call now seen (next, .waiting (.closing outcome event)) :=
  bears_waiting hopens hledger htells (hgrounds.append _)

end Bears

theorem bears_request {opens : Bool} (s : Traffic) (call : CallId) (stamp : Stamp)
    (envelope : Envelope) (thenCommit : Bool) :
    Bears opens s call stamp.now [.requested call envelope]
      (s.gateway, Gateway.request stamp envelope thenCommit) := by
  have htells : s.Tells [.requested call envelope] := by constructor <;> simp
  unfold Gateway.request
  split
  next => exact bears_waiting (by rfl) (by rfl) htells trivial
  next hmissing =>
    exact bears_answered (by rfl) (by rfl) htells
      (.unnamed envelope (by simp) (envelope.execution_eq_none hmissing)) rfl

section Commit

variable {opens : Bool} {ttl : Span} {s : Traffic} {call : CallId} {stamp : Stamp} {token : String}
  {stage? : Option Call} {earlier : List GatewayEvent} {envelope : Envelope} {key : WriteKey}

theorem committedAt_redemption (hworth : s.gateway.tokens.worth token stamp.now = .valid envelope)
    (hkey : envelope.resolvedKey = some key) :
    CommittedAt (s.history ++ (earlier ++ [s.redemption call token stamp.now]))
      (s.history ++ earlier).length call envelope key := by
  refine ⟨hkey, token, stamp.now, ?_⟩
  rw [← List.append_assoc, redemption, hworth, List.getElem?_concat_length]

/-- Who comes to a key that the ledger knows comes after somebody who took it. -/
theorem Explained.takenBefore (hexplained : s.Explained opens)
    (hknown : s.gateway.ledger.get? key ≠ none) (added : List GatewayEvent) :
    TakenBefore (s.history ++ (earlier ++ added)) (s.history ++ earlier).length key := by
  have htaken := (hexplained.taken hknown).grow earlier
  rw [← List.append_assoc]
  exact htaken.append added

theorem taken_reserve
    (hworth : s.gateway.tokens.worth token stamp.now = .valid envelope)
    (hkey : envelope.resolvedKey = some key) {ledger : KeyLedger}
    (hledger : ∀ other, other ≠ key → ledger.get? other = s.gateway.ledger.get? other)
    {other : WriteKey} (hknown : ledger.get? other ≠ none) :
    s.gateway.ledger.get? other ≠ none ∨
      TakenBefore (s.history ++ (earlier ++ [s.redemption call token stamp.now]))
        (s.history ++ (earlier ++ [s.redemption call token stamp.now])).length other := by
  by_cases hother : other = key
  · rw [hother]
    refine .inr ⟨_, call, envelope, ?_, committedAt_redemption hworth hkey⟩
    simp
  · rw [hledger other hother] at hknown
    exact .inl hknown

theorem bears_valid (hexplained : s.Explained opens) (haccounted : s.Accounted ttl)
    (hredeems : Redeems call token stage? earlier)
    (hworth : s.gateway.tokens.worth token stamp.now = .valid envelope)
    (hkey : envelope.resolvedKey = some key) :
    Bears opens s call stamp.now (earlier ++ [s.redemption call token stamp.now])
      (s.gateway.commit stamp token) := by
  have htells : s.Tells _ := tells_redemption hredeems stamp.now
  have hcommitted :
      CommittedAt (s.history ++ (earlier ++ [s.redemption call token stamp.now]))
        (s.history ++ earlier).length call envelope key := committedAt_redemption hworth hkey
  rcases (s.gateway.commit_commits stamp token).of_valid hworth hkey with
    ⟨⟨record, hrecord, _⟩, hcommit⟩ | ⟨stored, event, ⟨record, hrecord, _⟩, hcommit⟩ |
    ⟨hreserved, ⟨handler, hhandler, hcommit⟩ | ⟨_, _, hhandler, _⟩⟩
  · rw [hcommit]
    exact bears_answered (by rfl) (by rfl) htells
      (.busy _ envelope key hcommitted (hexplained.takenBefore (by simp [hrecord]) _)) rfl
  · rw [hcommit]
    exact bears_closing (by rfl) (by rfl) htells
      (.replayed _ envelope key stored hcommitted
        (hexplained.takenBefore (by simp [hrecord]) _)) event
  · rw [hcommit]
    constructor
    case opens_eq => rfl
    case stage =>
      intro stage hstage
      obtain rfl := Option.some.inj hstage
      exact ⟨_, hcommitted.append _⟩
    case answered => exact fun outcome houtcome => by contradiction
    case tells => exact htells
    case taken =>
      exact taken_reserve hworth hkey fun other hother =>
        KeyLedger.get?_begin_reserved_ne hreserved hother
  · obtain ⟨event, hcommit⟩ := Gateway.commit_of_unhandled hworth hkey hreserved hhandler
    rw [hcommit]
    constructor
    case opens_eq => rfl
    case stage =>
      intro stage hstage
      obtain rfl := Option.some.inj hstage
      refine (Grounds.unhandled _ envelope key hcommitted ?_).append _
      rw [← List.append_assoc, List.take_left, boundTo_append, ← haccounted.handlers, hhandler]
      cases hredeems <;> simp [GatewayEvent.call?]
    case answered => exact fun outcome houtcome => by contradiction
    case tells => exact htells
    case taken =>
      refine taken_reserve hworth hkey fun other hother => ?_
      rw [← KeyLedger.get?_begin_reserved_ne hreserved hother]
      exact KeyLedger.get?_finish_ne hother _ _ _ _

/-- A commit answers and goes on with nothing but what its token, the ledger and the handlers
explain. -/
theorem bears_commit (hexplained : s.Explained opens) (haccounted : s.Accounted ttl)
    (hredeems : Redeems call token stage? earlier) :
    Bears opens s call stamp.now (earlier ++ [s.redemption call token stamp.now])
      (s.gateway.commit stamp token) := by
  have htells : s.Tells _ := tells_redemption hredeems stamp.now
  have hredeemed : ∀ {worth}, s.gateway.tokens.worth token stamp.now = worth →
      .redeemed call token stamp.now worth ∈
        s.history ++ (earlier ++ [s.redemption call token stamp.now]) := by
    rintro worth rfl
    simp [redemption]
  cases hworth : s.gateway.tokens.worth token stamp.now with
  | unknown =>
      simp only [Gateway.commit, CommitTokens.take, hworth]
      exact bears_answered (by rfl) (by rfl) htells (.unknown token stamp.now (hredeemed hworth))
        rfl
  | expired envelope =>
      simp only [Gateway.commit, CommitTokens.take, hworth]
      exact bears_answered (by rfl) (by rfl) htells
        (.expired token stamp.now envelope (hredeemed hworth)) rfl
  | valid envelope =>
      cases hkey : envelope.resolvedKey with
      | none =>
          simp only [Gateway.commit, CommitTokens.take, hworth, hkey]
          exact bears_answered (by rfl) (by rfl) htells
            (.keyless token stamp.now envelope (hredeemed hworth) hkey) rfl
      | some key => exact bears_valid hexplained haccounted hredeems hworth hkey

end Commit

section Resume

variable {opens : Bool} {s : Traffic} {call : CallId} {stamp : Stamp} {request : WriteRequest}

/-- Where an attempt ended, somebody had taken its key. -/
theorem taken_finish {place : Nat} {envelope : Envelope} {key : WriteKey}
    (hcommitted : CommittedAt s.history place call envelope key) (seen : List GatewayEvent)
    {state : KeyState} {outcome : WriteOutcome} {now : Moment} {other : WriteKey}
    (hknown : (s.gateway.ledger.finish key state outcome now).get? other ≠ none) :
    s.gateway.ledger.get? other ≠ none ∨
      TakenBefore (s.history ++ seen) (s.history ++ seen).length other := by
  by_cases hother : other = key
  · rw [hother]
    exact .inr
      (TakenBefore.grow ⟨place, call, envelope, hcommitted.lt_length, hcommitted⟩ seen)
  · rw [KeyLedger.get?_finish_ne hother] at hknown
    exact .inl hknown

theorem tells_recorded (s : Traffic) (call : CallId) (event : AuditEvent) (reply : Reply) :
    s.Tells [.replied call (.sink event) reply] := by
  constructor <;> simp

/-- A recorded decision is carried out: it explains the answer that the call is on its way to. -/
theorem bears_enact (hexplained : s.Explained opens) {decision : Decision}
    (hruled : Ruled s.history call request (.ok decision)) (event : AuditEvent) (reply : Reply) :
    Bears opens s call stamp.now [.replied call (.sink event) reply]
      (s.gateway.enact stamp request decision) := by
  have htells := s.tells_recorded call event reply
  have hruled := hruled.append [.replied call (.sink event) reply]
  cases decision with
  | deny reason =>
      exact bears_closing (by rfl) (by rfl) htells (.denied request reason hruled) _
  | requiresApproval reason approval payload =>
      cases approval with
      | some approval =>
          exact bears_closing (by rfl) (by rfl) htells
            (.parked request reason approval payload hruled) _
      | none =>
          simp only [Gateway.enact]
          cases hopens : s.gateway.opensApprovals with
          | true => exact bears_waiting (by rfl) (by rfl) htells trivial
          | false =>
              exact bears_closing (by rfl) (by rfl) htells
                (.unasked request reason payload stamp (hexplained.opens_eq.symm.trans hopens)
                  hruled) _
  | allow reason =>
      simp only [Gateway.enact, Gateway.accept, CommitTokens.issue]
      cases stamp.now.add? s.gateway.tokens.ttl with
      | none =>
          constructor
          case opens_eq => rfl
          case stage => exact fun stage hstage => by contradiction
          case answered => exact fun outcome houtcome => by contradiction
          case tells => exact htells
          case taken => exact Or.inl
      | some expiresAt =>
          refine bears_waiting (by rfl) (by rfl) htells ?_
          exact ⟨request, reason, stamp.now, hruled.append _, by simp [Progress.events], rfl⟩

/-- The answer of the handler explains how an attempt ended. -/
theorem bears_settle {place : Nat} {envelope : Envelope} {key : WriteKey}
    (hcommitted : CommittedAt s.history place call envelope key) (handler : HandlerId)
    (answer : Except Fault Json) :
    Bears opens s call stamp.now [.replied call (.handler handler envelope) (.applied answer)]
      (s.gateway.settle stamp envelope key (answer.mapError Fault.text)) := by
  obtain ⟨event, hsettle⟩ := s.gateway.settle_eq stamp envelope key (answer.mapError Fault.text)
  rw [hsettle]
  constructor
  case opens_eq => rfl
  case stage =>
    intro stage hstage
    obtain rfl := Option.some.inj hstage
    refine (Grounds.settled place envelope key handler answer (hcommitted.append _) ?_).append _
    simp
  case answered => exact fun outcome houtcome => by contradiction
  case tells => constructor <;> simp
  case taken => exact fun hknown => taken_finish hcommitted _ hknown

/-- The reply that a call waited for explains what it goes on with. -/
theorem bears_resume {ttl : Span} (hexplained : s.Explained opens) (haccounted : s.Accounted ttl)
    (hkeyed : s.Keyed) {stage : Call} (hstage : s.calls.get? call = some stage) {reply : Reply}
    (hexpects : stage.awaits.expects reply) :
    Bears opens s call stamp.now
      (.replied call stage.awaits reply :: s.redemptionsAfter call stamp.now stage)
      (s.gateway.resume stamp stage reply) := by
  have hborne := haccounted.calls call stage hstage
  have hkeyed := hkeyed call stage hstage
  have hstage := hexplained.calls call stage hstage
  cases Call.expects_cases hexpects with
  | receiving request event accepted =>
      exact bears_waiting (by rfl) (by rfl) (s.tells_recorded call event _) trivial
  | evaluating request answer =>
      have htells :
          s.Tells [.replied call (.evaluator request.question) (.decided answer)] := by
        constructor
        case quiet => simp
        case ruled =>
          intro other question reply hmem
          obtain ⟨rfl, hwhom, _⟩ := GatewayEvent.replied.inj (List.mem_singleton.mp hmem)
          exact ⟨request, hkeyed, hborne, Awaited.evaluator.inj hwhom⟩
      cases answer with
      | ok decision => exact bears_waiting (by rfl) (by rfl) htells trivial
      | error fault =>
          refine bears_closing (by rfl) (by rfl) htells (.unavailable request fault ?_) _
          exact ⟨hkeyed, hborne.append _, by simp⟩
  | judged request decision event accepted =>
      exact bears_enact hexplained ⟨hkeyed, hborne.1, hborne.2⟩ event (.recorded accepted)
  | opening request reason payload answer =>
      have htells : s.Tells [.replied call (.creator request.envelope payload)
          (.opened answer)] := by
        constructor <;> simp
      have hruled : Ruled s.history call request
          (.ok (.requiresApproval reason none payload)) := ⟨hkeyed, hborne.1, hborne.2⟩
      cases answer with
      | ok approval =>
          exact bears_closing (by rfl) (by rfl) htells
            (.opened request reason approval payload (hruled.append _) (by simp)) _
      | error fault =>
          exact bears_closing (by rfl) (by rfl) htells
            (.unopened request reason payload stamp fault (hruled.append _) (by simp)) _
  | accepting outcome token thenCommit event accepted =>
      cases thenCommit with
      | true =>
          exact bears_commit hexplained haccounted (.following outcome event accepted)
      | false =>
          obtain ⟨request, reason, now, hruled, hminted, rfl⟩ := hstage
          exact bears_answered (by rfl) (by rfl) (s.tells_recorded call event _)
            (.accepted request reason token now (hruled.append _)
              (List.mem_append_left _ hminted)) rfl
  | applying envelope key handler answer =>
      obtain ⟨place, hcommitted⟩ := hstage
      exact bears_settle hcommitted handler answer
  | closing outcome event accepted =>
      exact bears_answered (by rfl) (by rfl) (s.tells_recorded call event _)
        (Grounds.append hstage _) rfl

/-- A call that is dropped leaves nothing to be explained but the end of its attempt. -/
theorem bears_drop (hexplained : s.Explained opens) {stage : Call}
    (hstage : s.calls.get? call = some stage) (now : Moment) :
    Bears opens s call now [] (s.gateway.abandon now stage, .broken) where
  opens_eq := by cases stage <;> rfl
  stage _ hplaced := by contradiction
  answered _ houtcome := by contradiction
  tells := by constructor <;> simp
  taken := by
    intro key hknown
    cases stage with
    | applying envelope own handler =>
        obtain ⟨place, hcommitted⟩ := hexplained.calls call _ hstage
        exact taken_finish hcommitted [] hknown
    | _ => exact .inl hknown

end Resume

/-- What is about no call needs no explanation. -/
theorem Explained.silent {opens : Bool} {s : Traffic} (hexplained : s.Explained opens)
    {gateway : Gateway} (hopens : gateway.opensApprovals = s.gateway.opensApprovals)
    (hledger : gateway.ledger = s.gateway.ledger) {event : GatewayEvent}
    (hsilent : event.call? = none) :
    Explained opens { s with gateway := gateway, history := s.history ++ [event] } where
  opens_eq := hopens.trans hexplained.opens_eq
  calls call stage hstage := (hexplained.calls call stage hstage).append _
  answered := by
    intro place call outcome hplace
    have hbefore := place_of_silent hsilent hplace rfl
    rw [take_append hbefore]
    exact hexplained.answered hbefore
  ruled := by
    intro call question reply hmem
    rcases List.mem_append.mp hmem with hmem | hmem
    · obtain ⟨request, hkeyed, hpetitioned, hquestion⟩ := hexplained.ruled hmem
      exact ⟨request, hkeyed, hpetitioned.append _, hquestion⟩
    · rw [← List.mem_singleton.mp hmem] at hsilent
      contradiction
  taken := by
    intro key hknown
    rw [hledger] at hknown
    exact (hexplained.taken hknown).grow _

theorem explained_motion {opens : Bool} {ttl : Span} {s next : Traffic} (hmotion : Motion s next)
    (hkeyed : s.Keyed) (haccounted : s.Accounted ttl) (hexplained : s.Explained opens) :
    next.Explained opens := by
  cases hmotion with
  | still => exact hexplained
  | registered command handler => exact hexplained.silent (by rfl) (by rfl) (by rfl)
  | purged now => exact hexplained.silent (by rfl) (by rfl) (by rfl)
  | requested call stamp envelope thenCommit hnew =>
      refine hexplained.advance (s.bears_request call stamp envelope thenCommit) ?_
      exact fun event => (s.gateway.request_turn call stamp envelope thenCommit).call?_added
  | committed call stamp token hnew =>
      refine hexplained.advance (bears_commit hexplained haccounted .outright) ?_
      exact fun event => (Turn.committed none [] stamp token _ rfl .outright
        (s.gateway.commit_commits stamp token)).call?_added
  | resumed call stamp stage reply hstage hexpects =>
      refine hexplained.advance (bears_resume hexplained haccounted hkeyed hstage hexpects) ?_
      exact fun event => (Gateway.resume_turn s call stamp stage reply hexpects).call?_added
  | dropped call now stage hstage =>
      refine hexplained.advance (bears_drop hexplained hstage now) ?_
      exact fun event => (s.gateway.abandon_turn call now stage).call?_added

/-- In every run answers, calls in flight and the ledger are what the history explains. -/
theorem explained_run (opens : Bool) (ttl : Span) (actions : List Action) :
    ((start opens ttl).run actions).Explained opens := by
  induction actions using List.reverseRecOn with
  | nil => exact explained_start opens ttl
  | append_singleton actions action ih =>
      rw [run_concat]
      exact explained_motion (((start opens ttl).run actions).motion_cases action)
        (keyed_run opens ttl actions) (accounted_run opens ttl actions) ih

end Traffic

end Gatehouse
