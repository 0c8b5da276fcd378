import Gatehouse.Proofs.Gateway.Grounds
import Gatehouse.Proofs.Orchestrator.Handling

/-! # The passage of one call

However other calls move, a call in flight waits for a reply, and every reply
brings it closer to its end, so seven replies are all that it can take. When it
is no longer in flight it was answered, unless it was dropped. And it keeps in
mind what it was started for: a call that was to request a write and nothing
more redeems no token, and a call that was to commit the write as well is never
answered that the write was accepted.
-/

namespace Gatehouse

/-- A reply to a call. -/
def GatewayEvent.isReply : GatewayEvent → Bool
  | .replied .. => true
  | _ => false

theorem Progress.countP_events (call : CallId) (now : Moment) (progress : Progress) :
    (progress.events call now).countP GatewayEvent.isReply = 0 := by
  unfold events
  split <;> rfl

theorem Call.rank_pos (stage : Call) : 0 < stage.rank := by
  cases stage <;> simp [rank]

namespace Traffic

/-- How many replies were given to a call. -/
def repliesTo (s : Traffic) (call : CallId) : Nat :=
  (s.trail call).countP GatewayEvent.isReply

theorem repliesTo_append_of_none (s : Traffic) (gateway : Gateway) {event : GatewayEvent}
    (hevent : event.call? = none) (call : CallId) :
    repliesTo { s with gateway := gateway, history := s.history ++ [event] } call =
      s.repliesTo call := by
  rw [repliesTo, trail_append_of_none _ _ hevent, ← repliesTo]

section Advance

variable {s : Traffic} {call : CallId} {now : Moment} {stage? : Option Call}
  {seen : List GatewayEvent} {after : Gateway × Progress}

theorem repliesTo_advance (hturn : Turn s.gateway call now stage? seen after) :
    (s.advance call now seen after).repliesTo call =
      s.repliesTo call + seen.countP GatewayEvent.isReply := by
  rw [repliesTo, trail_advance hturn, List.countP_append, List.countP_append,
    Progress.countP_events, repliesTo, Nat.add_zero]

theorem repliesTo_advance_ne (hturn : Turn s.gateway call now stage? seen after) {other : CallId}
    (hother : other ≠ call) :
    (s.advance call now seen after).repliesTo other = s.repliesTo other := by
  rw [repliesTo, trail_advance_ne hturn hother, ← repliesTo]

end Advance

/-- No call takes more than seven replies, and one that is over was answered or dropped. -/
structure Brief (s : Traffic) : Prop where
  inFlight : ∀ call stage, s.calls.get? call = some stage → s.repliesTo call + stage.rank ≤ 7
  bounded : ∀ call, s.repliesTo call ≤ 7
  ended : ∀ call, s.calls.get? call = none → s.lastSeen call = none ∨
    (∃ outcome, s.lastSeen call = some (.answered call outcome)) ∨
    s.lastSeen call = some (.dropped call)

theorem brief_start (opens : Bool) (ttl : Span) : (start opens ttl).Brief where
  inFlight := by simp [start]
  bounded := by simp [start, repliesTo, trail]
  ended := by simp [start, lastSeen, trail]

/-- A call that goes on, closer to its end by the replies that it got. -/
theorem Brief.advance {s : Traffic} (hbrief : s.Brief) {call : CallId} {now : Moment}
    {stage? : Option Call} {seen : List GatewayEvent} {after : Gateway × Progress}
    (hturn : Turn s.gateway call now stage? seen after)
    (hcloser : ∀ stage, after.2 = .waiting stage →
      s.repliesTo call + seen.countP GatewayEvent.isReply + stage.rank ≤ 7)
    (hbounded : s.repliesTo call + seen.countP GatewayEvent.isReply ≤ 7) :
    (s.advance call now seen after).Brief where
  inFlight := by
    intro other stage hplaced
    rw [Traffic.advance, get?_place] at hplaced
    split at hplaced
    next heq =>
      rw [heq, repliesTo_advance hturn]
      refine hcloser stage ?_
      generalize after.2 = progress at hplaced
      cases progress with
      | waiting next => rw [Option.some.inj hplaced]
      | answered | broken => contradiction
    next hne =>
      rw [repliesTo_advance_ne hturn hne]
      exact hbrief.inFlight other stage hplaced
  bounded := by
    intro other
    by_cases hother : other = call
    · rwa [hother, repliesTo_advance hturn]
    · rw [repliesTo_advance_ne hturn hother]
      exact hbrief.bounded other
  ended := by
    intro other hplaced
    rw [Traffic.advance, get?_place] at hplaced
    split at hplaced
    next heq =>
      rw [heq, lastSeen_advance hturn]
      generalize after.2 = progress at hplaced ⊢
      cases progress with
      | answered outcome => exact .inr (.inl ⟨outcome, rfl⟩)
      | broken => exact .inr (.inr rfl)
      | waiting stage => contradiction
    next hne =>
      rw [lastSeen, trail_advance_ne hturn hne, ← lastSeen]
      exact hbrief.ended other hplaced

theorem repliesTo_of_isNew {s : Traffic} {call : CallId} (hnew : s.isNew call) :
    s.repliesTo call = 0 := by
  rw [repliesTo, trail_of_isNew hnew]
  rfl

theorem countP_redemptionsAfter (s : Traffic) (call : CallId) (now : Moment) (stage : Call) :
    (s.redemptionsAfter call now stage).countP GatewayEvent.isReply = 0 := by
  unfold redemptionsAfter
  split <;> rfl

/-- When a call is resumed, that is by one reply. -/
theorem countP_resumed (s : Traffic) (call : CallId) (now : Moment) (stage : Call)
    (reply : Reply) : (.replied call stage.awaits reply ::
      s.redemptionsAfter call now stage).countP GatewayEvent.isReply = 1 := by
  rw [List.countP_cons, countP_redemptionsAfter]
  rfl

theorem repliesTo_reply {s : Traffic} {call : CallId} {stage : Call} {reply : Reply}
    (hstage : s.calls.get? call = some stage) (hexpects : stage.awaits.expects reply)
    (stamp : Stamp) :
    (s.step (.reply call stamp reply)).repliesTo call = s.repliesTo call + 1 := by
  simp only [step, hstage, hexpects, if_true]
  rw [repliesTo_advance (Gateway.resume_turn s call stamp stage reply hexpects),
    s.countP_resumed]

theorem Brief.silent {s : Traffic} (hbrief : s.Brief) (gateway : Gateway) {event : GatewayEvent}
    (hsilent : event.call? = none) :
    Brief { s with gateway := gateway, history := s.history ++ [event] } where
  inFlight := by
    intro call stage hstage
    rw [repliesTo_append_of_none _ _ hsilent]
    exact hbrief.inFlight call stage hstage
  bounded := by
    intro call
    rw [repliesTo_append_of_none _ _ hsilent]
    exact hbrief.bounded call
  ended := by
    intro call hstage
    rw [lastSeen, trail_append_of_none _ _ hsilent]
    exact hbrief.ended call hstage

theorem brief_motion {s next : Traffic} (hmotion : Motion s next) (hbrief : s.Brief) :
    next.Brief := by
  cases hmotion with
  | still => exact hbrief
  | registered command handler => exact hbrief.silent _ (by rfl)
  | purged now => exact hbrief.silent _ (by rfl)
  | requested call stamp envelope thenCommit hnew =>
      have hnone := repliesTo_of_isNew hnew
      have hgoes := s.gateway.goesOn_request stamp envelope thenCommit
      refine hbrief.advance (s.gateway.request_turn call stamp envelope thenCommit) ?_ ?_
      · intro stage hwaiting
        have hcloser := hgoes.closer stage hwaiting
        simp only [hnone, List.countP_singleton, GatewayEvent.isReply, Bool.false_eq_true, if_false]
        omega
      · simp [hnone, GatewayEvent.isReply]
  | committed call stamp token hnew =>
      have hnone := repliesTo_of_isNew hnew
      have hgoes : s.gateway.GoesOn stamp.now 3 _ := s.gateway.goesOn_commit stamp token
      refine hbrief.advance (.committed none [] stamp token _ rfl .outright
        (s.gateway.commit_commits stamp token)) ?_ ?_
      · intro stage hwaiting
        have hcloser := hgoes.closer stage hwaiting
        simp only [hnone, redemption, List.countP_singleton, GatewayEvent.isReply,
          Bool.false_eq_true, if_false]
        omega
      · simp [hnone, redemption, GatewayEvent.isReply]
  | resumed call stamp stage reply hstage hexpects =>
      have hinFlight := hbrief.inFlight call stage hstage
      have hpos := stage.rank_pos
      have hgoes := s.gateway.goesOn_resume stamp hexpects
      have hcount := s.countP_resumed call stamp.now stage reply
      refine hbrief.advance (Gateway.resume_turn s call stamp stage reply hexpects) ?_ ?_
      · intro next hwaiting
        have hcloser := hgoes.closer next hwaiting
        rw [hcount]
        omega
      · rw [hcount]
        omega
  | dropped call now stage hstage =>
      refine hbrief.advance (s.gateway.abandon_turn call now stage) ?_ ?_
      · exact fun next hwaiting => by contradiction
      · exact hbrief.bounded call

theorem brief_run (opens : Bool) (ttl : Span) (actions : List Action) :
    ((start opens ttl).run actions).Brief :=
  run_invariant (fun s action => brief_motion (s.motion_cases action)) (brief_start opens ttl)
    actions

end Traffic

/-- A call remembers whether the write is to be committed right after its acceptance. -/
def Call.Means (thenCommit : Bool) : Call → Prop
  | .receiving request _ | .evaluating request | .judged request _ _ | .opening request _ _ =>
    request.thenCommit = thenCommit
  | .accepting _ _ wanted _ => wanted = thenCommit
  | .applying .. => thenCommit = true
  | .closing outcome _ => outcome.status ≠ .accepted

/-- What a call got to goes with what it was started for: who is to commit the write as well is not
answered that it was accepted. -/
def Progress.Means (thenCommit : Bool) : Progress → Prop
  | .waiting stage => stage.Means thenCommit
  | .answered outcome => thenCommit = true → outcome.status ≠ .accepted
  | .broken => True

namespace Gateway

theorem status_settledOutcome_ne (envelope : Envelope) (key : WriteKey)
    (answer : Except String Json) : (settledOutcome envelope key answer).status ≠ .accepted := by
  cases answer <;> simp [settledOutcome, WriteOutcome.new]

theorem commit_means (g : Gateway) (stamp : Stamp) (token : String) :
    (g.commit stamp token).2.Means true := by
  cases hworth : g.tokens.worth token stamp.now with
  | unknown | expired envelope =>
      simp [commit, CommitTokens.take, hworth, Progress.Means, WriteOutcome.new]
  | valid envelope =>
      cases hkey : envelope.resolvedKey with
      | none => simp [commit, CommitTokens.take, hworth, hkey, Progress.Means, WriteOutcome.new]
      | some key =>
          rcases (g.commit_commits stamp token).of_valid hworth hkey with
            ⟨_, hcommit⟩ | ⟨stored, event, _, hcommit⟩ |
            ⟨_, ⟨handler, _, hcommit⟩ | ⟨reason, event, _, hcommit⟩⟩ <;>
          rw [hcommit]
          · simp [Progress.Means, busyOutcome, WriteOutcome.new]
          · simp [Progress.Means, Call.Means, replayedOutcome, WriteOutcome.new]
          · rfl
          · exact status_settledOutcome_ne envelope key _

theorem refuse_means (stamp : Stamp) (request : WriteRequest) (reason : String)
    (thenCommit : Bool) : (refuse stamp request reason).Means thenCommit := by
  simp [refuse, Progress.Means, Call.Means, WriteRequest.outcome, WriteOutcome.new]

theorem park_means (stamp : Stamp) (request : WriteRequest) (reason approval : String)
    (thenCommit : Bool) : (park stamp request reason approval).Means thenCommit := by
  simp [park, Progress.Means, Call.Means, WriteRequest.outcome, WriteOutcome.new]

theorem enact_means {g : Gateway} {stamp : Stamp} {request : WriteRequest} {thenCommit : Bool}
    (hmeans : request.thenCommit = thenCommit) (decision : Decision) :
    (g.enact stamp request decision).2.Means thenCommit := by
  cases decision with
  | deny reason => exact refuse_means _ _ _ _
  | requiresApproval reason approval payload =>
      cases approval with
      | some approval => exact park_means _ _ _ _ _
      | none =>
          simp only [enact]
          split
          · exact hmeans
          · exact park_means _ _ _ _ _
  | allow reason =>
      simp only [enact, accept, CommitTokens.issue]
      cases stamp.now.add? g.tokens.ttl with
      | none => trivial
      | some expiresAt => exact hmeans

/-- A reply changes nothing about what a call is meant for. -/
theorem resume_means {g : Gateway} {stamp : Stamp} {stage : Call} {reply : Reply}
    {thenCommit : Bool} (hmeans : stage.Means thenCommit)
    (hexpects : stage.awaits.expects reply) :
    (g.resume stamp stage reply).2.Means thenCommit := by
  cases Call.expects_cases hexpects with
  | receiving request event accepted => exact hmeans
  | evaluating request answer =>
      cases answer with
      | ok decision => exact hmeans
      | error fault => exact refuse_means _ _ _ _
  | judged request decision event accepted => exact enact_means hmeans decision
  | opening request reason payload answer => cases answer <;> exact park_means _ _ _ _ _
  | accepting outcome token wanted event accepted =>
      obtain rfl : wanted = thenCommit := hmeans
      cases wanted with
      | true => exact g.commit_means stamp token
      | false => exact fun hfalse => by contradiction
  | applying envelope key handler answer =>
      obtain ⟨event, hsettle⟩ := g.settle_eq stamp envelope key (answer.mapError Fault.text)
      simp only [resume, hsettle]
      exact status_settledOutcome_ne envelope key _
  | closing outcome event accepted => exact fun _ => hmeans

end Gateway

namespace Traffic

/-- What a change of traffic is to a call that is known: it is about others, or the call gets a
reply or is dropped. -/
inductive Regards (call : CallId) (s : Traffic) : Traffic → Prop where
  | aside (next : Traffic) (added : List GatewayEvent)
      (hhistory : next.history = s.history ++ added)
      (hadded : ∀ event ∈ added, event.call? ≠ some call)
      (hcalls : next.calls.get? call = s.calls.get? call) : Regards call s next
  | resumed (stamp : Stamp) (stage : Call) (reply : Reply)
      (hstage : s.calls.get? call = some stage) (hexpects : stage.awaits.expects reply) :
      Regards call s (s.advance call stamp.now
        (.replied call stage.awaits reply :: s.redemptionsAfter call stamp.now stage)
        (s.gateway.resume stamp stage reply))
  | dropped (now : Moment) (stage : Call) (hstage : s.calls.get? call = some stage) :
      Regards call s (s.advance call now [] (s.gateway.abandon now stage, .broken))

theorem Motion.regards {s next : Traffic} (hmotion : Motion s next) {call : CallId}
    (hknown : ¬ s.isNew call) : Regards call s next := by
  have hother : ∀ {other now stage? seen} {after : Gateway × Progress}, call ≠ other →
      Turn s.gateway other now stage? seen after →
      Regards call s (s.advance other now seen after) := by
    intro other now stage? seen after hne hturn
    refine .aside _ _ rfl (fun event hevent => ?_) ?_
    · rw [hturn.call?_added hevent]
      exact fun heq => hne (Option.some.inj heq).symm
    · rw [advance, get?_place, if_neg hne]
  have hfresh : ∀ {other}, s.isNew other → call ≠ other := by
    rintro other hnew rfl
    exact hknown hnew
  cases hmotion with
  | still => exact .aside _ [] (by simp) (by simp) rfl
  | registered command handler => exact .aside _ _ rfl (by simp [GatewayEvent.call?]) rfl
  | purged now => exact .aside _ _ rfl (by simp [GatewayEvent.call?]) rfl
  | requested other stamp envelope wanted hnew =>
      exact hother (hfresh hnew) (s.gateway.request_turn other stamp envelope wanted)
  | committed other stamp token hnew =>
      exact hother (hfresh hnew) (.committed none [] stamp token _ rfl .outright
        (s.gateway.commit_commits stamp token))
  | resumed other stamp stage reply hstage hexpects =>
      by_cases heq : call = other
      · subst heq
        exact .resumed stamp stage reply hstage hexpects
      · exact hother heq (Gateway.resume_turn s other stamp stage reply hexpects)
  | dropped other now stage hstage =>
      by_cases heq : call = other
      · subst heq
        exact .dropped now stage hstage
      · exact hother heq (s.gateway.abandon_turn other now stage)

/-- What a call makes of what it was started for. -/
structure Meant (s : Traffic) (call : CallId) (thenCommit : Bool) : Prop where
  known : ∃ event ∈ s.history, event.call? = some call
  stage : ∀ stage, s.calls.get? call = some stage → stage.Means thenCommit
  /-- A call that is to request a write and nothing more redeems no token. -/
  redeemed : thenCommit = false →
    ∀ token now worth, .redeemed call token now worth ∉ s.history
  /-- A call that is to commit the write as well is not answered that it was accepted. -/
  accepted : thenCommit = true → ∀ outcome, .answered call outcome ∈ s.history →
    outcome.status ≠ .accepted

section Meant

variable {s : Traffic} {call : CallId} {thenCommit : Bool}

theorem Meant.not_isNew (hmeant : s.Meant call thenCommit) : ¬ s.isNew call := by
  obtain ⟨event, hevent, hcall⟩ := hmeant.known
  exact fun hnew => call?_ne_of_isNew hnew hevent hcall

/-- What happens to others changes nothing about a call. -/
theorem Meant.aside (hmeant : s.Meant call thenCommit) {next : Traffic}
    {added : List GatewayEvent} (hhistory : next.history = s.history ++ added)
    (hadded : ∀ event ∈ added, event.call? ≠ some call)
    (hcalls : next.calls.get? call = s.calls.get? call) : next.Meant call thenCommit where
  known := by
    obtain ⟨event, hevent, hcall⟩ := hmeant.known
    exact ⟨event, by rw [hhistory]; exact List.mem_append_left _ hevent, hcall⟩
  stage stage hstage := hmeant.stage stage (hcalls.symm.trans hstage)
  redeemed := by
    intro hflag token now worth hmem
    rw [hhistory] at hmem
    rcases List.mem_append.mp hmem with hmem | hmem
    · exact hmeant.redeemed hflag token now worth hmem
    · exact hadded _ hmem rfl
  accepted := by
    intro hflag outcome hmem
    rw [hhistory] at hmem
    rcases List.mem_append.mp hmem with hmem | hmem
    · exact hmeant.accepted hflag outcome hmem
    · exact absurd rfl (hadded _ hmem)

theorem redemptionsAfter_of_means {stage : Call} (hmeans : stage.Means false) (now : Moment) :
    s.redemptionsAfter call now stage = [] := by
  cases stage with
  | accepting outcome token wanted event =>
      obtain rfl : wanted = false := hmeans
      rfl
  | _ => rfl

/-- A call goes on as it was meant to. -/
theorem meant_advance {now : Moment} {seen : List GatewayEvent} {after : Gateway × Progress}
    (hmeans : after.2.Means thenCommit)
    (hknown : ∃ event ∈ s.history ++ seen, event.call? = some call)
    (hredeemed : thenCommit = false → ∀ token now worth,
      .redeemed call token now worth ∉ s.history ++ seen)
    (haccepted : thenCommit = true → ∀ outcome, .answered call outcome ∈ s.history ++ seen →
      outcome.status ≠ .accepted) :
    (s.advance call now seen after).Meant call thenCommit := by
  obtain ⟨gateway, progress⟩ := after
  constructor
  case known =>
    obtain ⟨event, hevent, hcall⟩ := hknown
    refine ⟨event, ?_, hcall⟩
    rw [Traffic.advance, ← List.append_assoc]
    exact List.mem_append_left _ hevent
  case stage =>
    intro stage hplaced
    rw [Traffic.advance, get?_place, if_pos rfl] at hplaced
    cases progress with
    | waiting next =>
        obtain rfl := Option.some.inj hplaced
        exact hmeans
    | answered | broken => contradiction
  case redeemed =>
    intro hflag token moment worth hmem
    rw [Traffic.advance, ← List.append_assoc] at hmem
    rcases List.mem_append.mp hmem with hmem | hmem
    · exact hredeemed hflag token moment worth hmem
    · unfold Progress.events at hmem
      split at hmem <;> simp at hmem
  case accepted =>
    intro hflag outcome hmem
    rw [Traffic.advance, ← List.append_assoc] at hmem
    rcases List.mem_append.mp hmem with hmem | hmem
    · exact haccepted hflag outcome hmem
    · obtain rfl := progress_of_answered hmem
      exact hmeans hflag

/-- A call that starts to request a write means what it was told. -/
theorem meant_requested (hnew : s.isNew call) (stamp : Stamp) (envelope : Envelope)
    (thenCommit : Bool) :
    (s.step (.request call stamp envelope thenCommit)).Meant call thenCommit := by
  have hfresh : ∀ event ∈ s.history, event.call? ≠ some call :=
    fun event hevent => call?_ne_of_isNew hnew hevent
  simp only [step, hnew, if_true]
  apply meant_advance
  case hmeans =>
    unfold Gateway.request
    split
    next => rfl
    next => simp [Progress.Means, WriteOutcome.new]
  case hknown => exact ⟨.requested call envelope, by simp, rfl⟩
  case hredeemed =>
    intro _ token now worth hmem
    rcases List.mem_append.mp hmem with hmem | hmem
    · exact hfresh _ hmem rfl
    · simp at hmem
  case haccepted =>
    intro _ outcome hmem
    rcases List.mem_append.mp hmem with hmem | hmem
    · exact absurd rfl (hfresh _ hmem)
    · simp at hmem

theorem meant_motion {next : Traffic} (hmotion : Motion s next)
    (hmeant : s.Meant call thenCommit) : next.Meant call thenCommit := by
  cases hmotion.regards hmeant.not_isNew with
  | aside _ added hhistory hadded hcalls => exact hmeant.aside hhistory hadded hcalls
  | resumed stamp stage reply hstage hexpects =>
      have hmeans := hmeant.stage stage hstage
      apply meant_advance
      case hmeans => exact Gateway.resume_means hmeans hexpects
      case hknown => exact ⟨.replied call stage.awaits reply, by simp, rfl⟩
      case hredeemed =>
        rintro rfl token now worth hmem
        rw [redemptionsAfter_of_means hmeans] at hmem
        rcases List.mem_append.mp hmem with hmem | hmem
        · exact hmeant.redeemed rfl token now worth hmem
        · simp at hmem
      case haccepted =>
        intro hflag outcome hmem
        rcases List.mem_append.mp hmem with hmem | hmem
        · exact hmeant.accepted hflag outcome hmem
        · unfold redemptionsAfter at hmem
          split at hmem <;> simp [redemption] at hmem
  | dropped now stage hstage =>
      apply meant_advance
      case hmeans => trivial
      case hknown => simpa using hmeant.known
      case hredeemed => simpa using hmeant.redeemed
      case haccepted => simpa using hmeant.accepted

end Meant

end Traffic

end Gatehouse
