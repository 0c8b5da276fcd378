import Gatehouse.Proofs.Gateway.Lock

/-! # Every handler call is paid for

A handler is called for a write only after governance allowed that very write
in answer to a call that requested it, and one such answer pays for one call of
a handler at most. The answer travels: it lets the call that got it mint a
token, the token stands for the write until it is redeemed, purged or
overwritten, and a commit that finds it valid turns to the handler. At none of
these points is anything left to be spent a second time.
-/

namespace Gatehouse

/-- The question that governance is asked about a write. -/
def Envelope.question (envelope : Envelope) : PolicyRequest where
  actor := envelope.actor
  contextType := envelope.contextType
  command := envelope.command
  parameters := envelope.payload
  execution := envelope.execution
  approval := envelope.approval

theorem WriteRequest.Keyed.question_eq {request : WriteRequest} (hkeyed : request.Keyed) :
    request.question = request.envelope.question := by
  rw [WriteRequest.question, Envelope.question, hkeyed.1]

/-- The handler that an event binds to a command. -/
def GatewayEvent.binds? (command : String) : GatewayEvent → Option HandlerId
  | .registered bound handler => if bound = command then some handler else none
  | _ => none

/-- The handler that was last bound to a command. -/
def boundTo (history : List GatewayEvent) (command : String) : Option HandlerId :=
  (history.filterMap (GatewayEvent.binds? command)).getLast?

theorem boundTo_append {history added : List GatewayEvent}
    (hadded : ∀ event ∈ added, event.call? ≠ none) (command : String) :
    boundTo (history ++ added) command = boundTo history command := by
  have hnone : added.filterMap (GatewayEvent.binds? command) = [] := by
    rw [List.filterMap_eq_nil_iff]
    intro event hevent
    cases event with
    | registered bound handler => exact absurd rfl (hadded _ hevent)
    | _ => rfl
  rw [boundTo, List.filterMap_append, hnone, List.append_nil, ← boundTo]

/-- A call requested the write, its key filled in. -/
def Petitioned (history : List GatewayEvent) (call : CallId) (envelope : Envelope) : Prop :=
  ∃ original, .requested call original ∈ history ∧
    envelope = { original with key := original.resolvedKey }

/-- The history bears out what a call carries: the request was made, and the decision was given. -/
def Call.BorneOut (history : List GatewayEvent) (call : CallId) : Call → Prop
  | .receiving request _ | .evaluating request => Petitioned history call request.envelope
  | .judged request decision _ =>
    Petitioned history call request.envelope ∧
      .replied call (.evaluator request.question) (.decided (.ok decision)) ∈ history
  | .opening request reason payload =>
    Petitioned history call request.envelope ∧
      .replied call (.evaluator request.question)
        (.decided (.ok (.requiresApproval reason none payload))) ∈ history
  | .accepting .. | .applying .. | .closing .. => True

theorem Petitioned.append {history : List GatewayEvent} {call : CallId} {envelope : Envelope}
    (hpetitioned : Petitioned history call envelope) (added : List GatewayEvent) :
    Petitioned (history ++ added) call envelope := by
  obtain ⟨original, hmem, henvelope⟩ := hpetitioned
  exact ⟨original, List.mem_append_left _ hmem, henvelope⟩

theorem Call.BorneOut.append {history : List GatewayEvent} {call : CallId} {stage : Call}
    (hborne : stage.BorneOut history call) (added : List GatewayEvent) :
    stage.BorneOut (history ++ added) call := by
  cases stage with
  | receiving | evaluating => exact Petitioned.append hborne added
  | judged | opening => exact ⟨hborne.1.append added, List.mem_append_left _ hborne.2⟩
  | _ => trivial

namespace Turn

variable {g : Gateway} {call : CallId} {now : Moment} {stage? : Option Call}
  {seen : List GatewayEvent} {after : Gateway × Progress}

theorem handlers_eq (hturn : Turn g call now stage? seen after) :
    after.1.handlers = g.handlers := by
  cases hturn with
  | committed _ earlier stamp token _ hnow hredeems hcommits => cases hcommits <;> rfl
  | _ => rfl

theorem ttl_eq (hturn : Turn g call now stage? seen after) :
    after.1.tokens.ttl = g.tokens.ttl := by
  cases hturn with
  | committed _ earlier stamp token _ hnow hredeems hcommits => cases hcommits <;> rfl
  | _ => rfl

theorem borneOut (hturn : Turn g call now stage? seen after) {history : List GatewayEvent}
    (hborne : ∀ stage, stage? = some stage → stage.BorneOut history call) :
    ∀ stage, after.2.call? = some stage →
      stage.BorneOut (history ++ (seen ++ after.2.events call now)) call := by
  intro next hnext
  cases hturn with
  | received envelope request event hkeyed henvelope =>
      obtain rfl := Option.some.inj hnext
      exact ⟨envelope, by simp, henvelope⟩
  | talked stage reply progress hexpects htalks =>
      have hstage := hborne stage rfl
      cases htalks with
      | submitted request event =>
          obtain rfl := Option.some.inj hnext
          exact Petitioned.append hstage _
      | opens request event reason payload =>
          obtain rfl := Option.some.inj hnext
          exact ⟨hstage.1.append _, List.mem_append_left _ hstage.2⟩
      | parked | opened =>
          obtain rfl := Option.some.inj hnext
          trivial
      | overflowed | handedOver => simp [Progress.call?] at hnext
  | judged request decision event =>
      obtain rfl := Option.some.inj hnext
      exact ⟨Petitioned.append (hborne _ rfl) _, by simp⟩
  | committed _ earlier stamp token _ hnow hredeems hcommits =>
      cases hcommits <;> simp [Progress.call?] at hnext <;> subst hnext <;> trivial
  | _ => simp [Progress.call?] at hnext <;> subst hnext <;> trivial

/-- What is under a token after a turn was there before and the token was not redeemed, or the turn
minted the token for a write that governance had allowed. -/
theorem pending_cases (hturn : Turn g call now stage? seen after) {token : String}
    {write : PendingWrite} (hpending : after.1.tokens.pending.get? token = some write) :
    g.tokens.pending.get? token = some write ∧
      (∀ other moment worth,
        .redeemed other token moment worth ∉ seen ++ after.2.events call now) ∨
    ∃ request reason event accepting reply,
      stage? = some (.judged request (.allow reason) event) ∧
        write.envelope = request.envelope ∧ now.add? g.tokens.ttl = some write.expiresAt ∧
        seen ++ after.2.events call now =
          [.replied call (.sink event) reply, .minted call token now,
            .asked call (.sink accepting)] := by
  cases hturn with
  | talked stage reply progress hexpects htalks =>
      refine .inl ⟨hpending, ?_⟩
      cases htalks <;> simp [Progress.events, Call.awaits]
  | minted request reason event accepting accepted fresh expiresAt outcome hexpires =>
      rw [Table.get?_put] at hpending
      split at hpending
      next heq =>
        subst heq
        obtain rfl := Option.some.inj hpending
        exact .inr ⟨request, reason, event, accepting, _, rfl, rfl, hexpires, rfl⟩
      next => exact .inl ⟨hpending, by simp [Progress.events]⟩
  | committed _ earlier stamp spent _ hnow hredeems hcommits =>
      have htokens : after.1.tokens = g.tokens.without spent := by cases hcommits <;> rfl
      rw [htokens, CommitTokens.without, Table.get?_erase] at hpending
      split at hpending
      next => contradiction
      next hne =>
        refine .inl ⟨hpending, ?_⟩
        cases hredeems <;> cases hcommits <;> simp [Progress.events, Call.awaits, hne]
  | _ => exact .inl ⟨hpending, by simp [Progress.events, Call.awaits]⟩

/-- Where a token was minted, the write that governance had allowed is under it. -/
theorem pending_of_minted (hturn : Turn g call now stage? seen after) {other : CallId}
    {token : String} {moment : Moment}
    (hmem : .minted other token moment ∈ seen ++ after.2.events call now) :
    call = other ∧ now = moment ∧ ∃ request reason event expiresAt,
      stage? = some (.judged request (.allow reason) event) ∧
        now.add? g.tokens.ttl = some expiresAt ∧
        after.1.tokens.pending.get? token = some ⟨request.envelope, expiresAt⟩ := by
  cases hturn with
  | talked stage reply progress hexpects htalks =>
      cases htalks <;> simp [Progress.events, Call.awaits] at hmem
  | minted request reason event accepting accepted fresh expiresAt outcome hexpires =>
      have hsame : other = call ∧ token = fresh ∧ moment = now := by
        simpa [Progress.events, Call.awaits] using hmem
      obtain ⟨rfl, rfl, rfl⟩ := hsame
      refine ⟨rfl, rfl, request, reason, event, expiresAt, rfl, hexpires, ?_⟩
      rw [Table.get?_put, if_pos rfl]
  | committed _ earlier stamp spent _ hnow hredeems hcommits =>
      cases hredeems <;> cases hcommits <;> simp [Progress.events, Call.awaits] at hmem
  | _ => simp [Progress.events, Call.awaits] at hmem

end Turn

/-- At this place governance allowed a write in answer to a call. -/
def AllowedAt (history : List GatewayEvent) (place : Nat) (call : CallId) (envelope : Envelope) :
    Prop :=
  ∃ reason, history[place]? =
    some (.replied call (.evaluator envelope.question) (.decided (.ok (.allow reason))))

/-- At this place a call minted a token that lasts until some moment. -/
def MintedAt (history : List GatewayEvent) (ttl : Span) (place : Nat) (call : CallId)
    (token : String) (expiresAt : Moment) : Prop :=
  ∃ mintedAt, history[place]? = some (.minted call token mintedAt) ∧
    mintedAt.add? ttl = some expiresAt

/-- What stands behind a token: a call that requested the write, was allowed it, and minted the
token, which was neither redeemed nor purged since. -/
structure Backing (history : List GatewayEvent) (ttl : Span) (token : String)
    (write : PendingWrite) (granter : CallId) (paid minted : Nat) : Prop where
  requested : Petitioned history granter write.envelope
  execution : ∃ execution, write.envelope.execution = some execution
  allowed : AllowedAt history paid granter write.envelope
  mint : MintedAt history ttl minted granter token write.expiresAt
  unspent : ∀ {place call now worth}, minted < place →
    history[place]? ≠ some (.redeemed call token now worth)
  unpurged : ∀ {place now}, minted < place → history[place]? = some (.purged now) →
    now < write.expiresAt

theorem Backing.append {history : List GatewayEvent} {ttl : Span} {token : String}
    {write : PendingWrite} {granter : CallId} {paid minted : Nat}
    (hbacking : Backing history ttl token write granter paid minted) {added : List GatewayEvent}
    (hspent : ∀ call now worth, .redeemed call token now worth ∉ added)
    (hpurged : ∀ now, .purged now ∈ added → now < write.expiresAt) :
    Backing (history ++ added) ttl token write granter paid minted where
  requested := hbacking.requested.append added
  execution := hbacking.execution
  allowed := by
    obtain ⟨reason, hallowed⟩ := hbacking.allowed
    exact ⟨reason, place_append hallowed added⟩
  mint := by
    obtain ⟨mintedAt, hminted, hexpires⟩ := hbacking.mint
    exact ⟨mintedAt, place_append hminted added, hexpires⟩
  unspent := by
    intro place call now worth hlater hplace
    rcases place_cases hplace with ⟨_, hbefore⟩ | ⟨_, hadded⟩
    · exact hbacking.unspent hlater hbefore
    · exact hspent call now worth hadded
  unpurged := by
    intro place now hlater hplace
    rcases place_cases hplace with ⟨_, hbefore⟩ | ⟨_, hadded⟩
    · exact hbacking.unpurged hlater hbefore
    · exact hpurged now hadded

namespace Traffic

theorem ttl_step (s : Traffic) (action : Action) :
    (s.step action).gateway.tokens.ttl = s.gateway.tokens.ttl := by
  have hstep := s.step_cases action
  generalize s.step action = next at hstep ⊢
  cases hstep with
  | turned call now stage? seen after hstage hnew hturn => exact hturn.ttl_eq
  | _ => rfl

/-- Handlers, calls and tokens are what the history says of them. -/
structure Accounted (ttl : Span) (s : Traffic) : Prop where
  ttl_eq : s.gateway.tokens.ttl = ttl
  handlers : ∀ command, s.gateway.handlers.get? command = boundTo s.history command
  calls : ∀ call stage, s.calls.get? call = some stage → stage.BorneOut s.history call
  pending : ∀ token write, s.gateway.tokens.pending.get? token = some write →
    ∃ granter paid minted, Backing s.history ttl token write granter paid minted

theorem accounted_start (opensApprovals : Bool) (ttl : Span) :
    (start opensApprovals ttl).Accounted ttl where
  ttl_eq := rfl
  handlers _ := rfl
  calls := by simp [start]
  pending := by simp [start, CommitTokens.new]

theorem Accounted.registered {ttl : Span} {s : Traffic} (haccounted : s.Accounted ttl)
    (command : String) (handler : HandlerId) :
    Accounted ttl { s with
      gateway := s.gateway.register command handler
      history := s.history ++ [.registered command handler] } where
  ttl_eq := haccounted.ttl_eq
  handlers := by
    intro other
    simp only [Gateway.register, HandlerTable.get?_register, boundTo, List.filterMap_append,
      List.filterMap_cons, List.filterMap_nil, GatewayEvent.binds?, haccounted.handlers other]
    by_cases hother : other = command
    · simp [hother]
    · simp [hother, Ne.symm hother]
  calls call stage hstage := (haccounted.calls call stage hstage).append _
  pending := by
    intro token write hpending
    obtain ⟨granter, paid, minted, hbacking⟩ := haccounted.pending token write hpending
    exact ⟨granter, paid, minted, hbacking.append (by simp) (by simp)⟩

theorem Accounted.purged {ttl : Span} {s : Traffic} (haccounted : s.Accounted ttl) (now : Moment) :
    Accounted ttl { s with
      gateway := s.gateway.purge now
      history := s.history ++ [.purged now] } where
  ttl_eq := haccounted.ttl_eq
  handlers := by
    intro command
    simp [Gateway.purge, haccounted.handlers command, boundTo, GatewayEvent.binds?]
  calls call stage hstage := (haccounted.calls call stage hstage).append _
  pending := by
    intro token write hpending
    simp only [Gateway.purge, CommitTokens.purge, Table.get?_filter, Option.filter_eq_some_iff,
      decide_eq_true_eq] at hpending
    obtain ⟨granter, paid, minted, hbacking⟩ := haccounted.pending token write hpending.1
    refine ⟨granter, paid, minted, hbacking.append (by simp) ?_⟩
    intro moment hmoment
    simp only [List.mem_singleton, GatewayEvent.purged.injEq] at hmoment
    rw [hmoment]
    exact hpending.2

section Turned

variable {ttl : Span} {s : Traffic} {call : CallId} {now : Moment} {stage? : Option Call}
  {seen : List GatewayEvent} {after : Gateway × Progress}

/-- A token minted for a write that governance allowed is backed by that. -/
theorem backing_of_minted {request : WriteRequest} {reason : Option String}
    {event accepting : AuditEvent} {reply : Reply} {token : String} {write : PendingWrite}
    (hkeyed : request.Keyed)
    (hborne : (Call.judged request (.allow reason) event).BorneOut s.history call)
    (henvelope : write.envelope = request.envelope)
    (hexpires : now.add? ttl = some write.expiresAt) :
    ∃ paid, Backing
      (s.history ++ [.replied call (.sink event) reply, .minted call token now,
        .asked call (.sink accepting)])
      ttl token write call paid (s.history.length + 1) := by
  obtain ⟨hpetitioned, hallowed⟩ := hborne
  obtain ⟨paid, hpaid⟩ := List.mem_iff_getElem?.mp hallowed
  rw [hkeyed.question_eq, ← henvelope] at hpaid
  rw [← henvelope] at hpetitioned
  refine ⟨paid, ?_⟩
  constructor
  case requested => exact hpetitioned.append _
  case execution => exact ⟨request.execution, by rw [henvelope]; exact hkeyed.1⟩
  case allowed => exact ⟨reason, place_append hpaid _⟩
  case mint => exact ⟨now, by simp, hexpires⟩
  case unspent =>
    intro place other moment worth hlater hplace
    rcases place_cases hplace with ⟨hlt, _⟩ | ⟨_, hadded⟩
    · omega
    · simp at hadded
  case unpurged =>
    intro place moment hlater hplace
    rcases place_cases hplace with ⟨hlt, _⟩ | ⟨_, hadded⟩
    · omega
    · simp at hadded

theorem Accounted.turned (haccounted : s.Accounted ttl) (hkeyed : s.Keyed)
    (hstage : s.calls.get? call = stage?) (hturn : Turn s.gateway call now stage? seen after) :
    (s.advance call now seen after).Accounted ttl where
  ttl_eq := hturn.ttl_eq.trans haccounted.ttl_eq
  handlers := by
    intro command
    rw [advance, hturn.handlers_eq, haccounted.handlers, boundTo_append]
    intro event hevent
    simp [hturn.call?_added hevent]
  calls := by
    intro other stage hplaced
    rw [advance, get?_place] at hplaced
    split at hplaced
    next heq =>
      subst heq
      exact hturn.borneOut (fun stage hsome => haccounted.calls _ stage (hstage.trans hsome))
        stage hplaced
    next => exact (haccounted.calls other stage hplaced).append _
  pending := by
    intro token write hpending
    rcases hturn.pending_cases hpending with
      ⟨hbefore, hunspent⟩ |
      ⟨request, reason, event, accepting, reply, rfl, henvelope, hexpires, hadded⟩
    · obtain ⟨granter, paid, minted, hbacking⟩ := haccounted.pending token write hbefore
      refine ⟨granter, paid, minted, hbacking.append hunspent ?_⟩
      intro moment hmoment
      have hnone := hturn.call?_added hmoment
      contradiction
    · rw [haccounted.ttl_eq] at hexpires
      obtain ⟨paid, hbacking⟩ := backing_of_minted (hkeyed call _ hstage)
        (haccounted.calls call _ hstage) henvelope hexpires
      rw [advance, hadded]
      exact ⟨call, paid, _, hbacking⟩

end Turned

theorem accounted_step {ttl : Span} {s next : Traffic} (hstep : Step s next) (hsound : s.Sound)
    (haccounted : s.Accounted ttl) : next.Accounted ttl := by
  cases hstep with
  | still => exact haccounted
  | registered command handler => exact haccounted.registered command handler
  | purged now => exact haccounted.purged now
  | turned call now stage? seen after hstage hnew hturn =>
      exact haccounted.turned hsound.keyed hstage hturn

theorem accounted_run (opensApprovals : Bool) (ttl : Span) (actions : List Action) :
    ((start opensApprovals ttl).run actions).Accounted ttl :=
  run_keeps_sound (fun hstep hsound _ => accounted_step hstep hsound)
    (accounted_start opensApprovals ttl) actions

/-- What every action keeps while handlers, calls and tokens are accounted for holds throughout a
run. -/
theorem run_keeps_accounted {opensApprovals : Bool} {ttl : Span} {holds : Traffic → Prop}
    (hkeeps : ∀ s action, s.Accounted ttl → holds s → holds (s.step action))
    (hstart : holds (start opensApprovals ttl)) (actions : List Action) :
    holds ((start opensApprovals ttl).run actions) := by
  induction actions using List.reverseRecOn with
  | nil => exact hstart
  | append_singleton actions action ih =>
      rw [run_concat]
      exact hkeeps _ action (accounted_run opensApprovals ttl actions) ih

/-- The history tells of every valid token what stood behind it when it was redeemed, of every
handler call which redemption it followed and who was bound to the command, and of every token who
minted it. -/
structure Justified (ttl : Span) (s : Traffic) : Prop where
  redeemed : ∀ {place call token now envelope},
    s.history[place]? = some (.redeemed call token now (.valid envelope)) →
    ∃ expiresAt granter paid minted, now < expiresAt ∧
      Backing (s.history.take place) ttl token ⟨envelope, expiresAt⟩ granter paid minted
  handled : ∀ {place call handler envelope},
    s.history[place]? = some (.asked call (.handler handler envelope)) →
    boundTo (s.history.take place) envelope.command = some handler ∧
      ∃ before token now, place = before + 1 ∧
        s.history[before]? = some (.redeemed call token now (.valid envelope))
  minted : ∀ {call token now}, .minted call token now ∈ s.history →
    ∃ (request : WriteRequest) (reason : Option String), request.Keyed ∧
      Petitioned s.history call request.envelope ∧
      .replied call (.evaluator request.question) (.decided (.ok (.allow reason))) ∈ s.history

theorem justified_start (opensApprovals : Bool) (ttl : Span) :
    (start opensApprovals ttl).Justified ttl := by
  constructor <;> simp [start]

theorem Justified.silent {ttl : Span} {s : Traffic} (hjustified : s.Justified ttl)
    {gateway : Gateway} {event : GatewayEvent} (hsilent : event.call? = none) :
    Justified ttl { s with gateway := gateway, history := s.history ++ [event] } where
  redeemed := by
    intro place call token now envelope hplace
    have hbefore := place_of_silent hsilent hplace rfl
    rw [take_append hbefore]
    exact hjustified.redeemed hbefore
  handled := by
    intro place call handler envelope hplace
    have hbefore := place_of_silent hsilent hplace rfl
    obtain ⟨hbound, before, token, now, hnext, hredeemed⟩ := hjustified.handled hbefore
    rw [take_append hbefore]
    exact ⟨hbound, before, token, now, hnext, place_append hredeemed _⟩
  minted := by
    intro call token now hmem
    rcases List.mem_append.mp hmem with hmem | hmem
    · obtain ⟨request, reason, hkeyed, hpetitioned, hallowed⟩ := hjustified.minted hmem
      exact ⟨request, reason, hkeyed, hpetitioned.append _, List.mem_append_left _ hallowed⟩
    · rw [← List.mem_singleton.mp hmem] at hsilent
      contradiction

section Turned

variable {ttl : Span} {s : Traffic} {call : CallId} {now : Moment} {stage? : Option Call}
  {seen : List GatewayEvent} {after : Gateway × Progress}

theorem Justified.turned (hjustified : s.Justified ttl) (haccounted : s.Accounted ttl)
    (hkeyed : s.Keyed) (horder : (s.advance call now seen after).InOrder)
    (hstage : s.calls.get? call = stage?) (hturn : Turn s.gateway call now stage? seen after) :
    (s.advance call now seen after).Justified ttl where
  redeemed := by
    intro place other token moment envelope hplace
    rcases place_cases hplace with ⟨_, hbefore⟩ | ⟨_, hadded⟩
    · rw [advance, take_append hbefore]
      exact hjustified.redeemed hbefore
    · obtain ⟨earlier, stamp, hseen, _, hredeems, _, rfl, rfl, hworth⟩ := hturn.of_redeemed hadded
      obtain ⟨expiresAt, hpending, hlt⟩ := CommitTokens.worth_valid_iff.mp hworth.symm
      obtain ⟨granter, paid, minted, hbacking⟩ := haccounted.pending token _ hpending
      have hhistory : (s.advance call now seen after).history =
          (s.history ++ earlier) ++ .redeemed call token now (s.gateway.tokens.worth token now) ::
            after.2.events call now := by
        simp [advance, hseen]
      rw [(horder.take_place hhistory hplace rfl rfl rfl rfl).2]
      refine ⟨expiresAt, granter, paid, minted, hlt, ?_⟩
      refine hbacking.append ?_ ?_ <;> cases hredeems <;> simp
  handled := by
    intro place other handler envelope hplace
    rcases place_cases hplace with ⟨_, hbefore⟩ | ⟨_, hadded⟩
    · obtain ⟨hbound, before, token, moment, hnext, hredeemed⟩ := hjustified.handled hbefore
      rw [advance, take_append hbefore]
      exact ⟨hbound, before, token, moment, hnext, place_append hredeemed _⟩
    · obtain ⟨earlier, token, key, hseen, _, _, hhandler, hafter, hredeems, _, rfl⟩ :=
        hturn.of_asked_handler hadded
      have hhistory : (s.advance call now seen after).history =
          (s.history ++ seen) ++ [.asked call (.handler handler envelope)] := by
        rw [advance, hafter]
        simp [Progress.events, Call.awaits]
      obtain ⟨rfl, htake⟩ := horder.take_place hhistory hplace rfl rfl rfl rfl
      refine ⟨?_, (s.history ++ earlier).length, token, now, ?_, ?_⟩
      · rw [htake, boundTo_append fun event hevent => by simp [hturn.call?_seen hevent],
          ← haccounted.handlers, hhandler]
      · simp [hseen, Nat.add_assoc]
      · rw [hhistory, hseen]
        simp
  minted := by
    intro other token moment hmem
    rcases List.mem_append.mp hmem with hmem | hmem
    · obtain ⟨request, reason, hrequest, hpetitioned, hallowed⟩ := hjustified.minted hmem
      exact ⟨request, reason, hrequest, hpetitioned.append _, List.mem_append_left _ hallowed⟩
    · obtain ⟨rfl, _, request, reason, event, _, rfl, _⟩ := hturn.pending_of_minted hmem
      obtain ⟨hpetitioned, hallowed⟩ := haccounted.calls call _ hstage
      exact ⟨request, reason, hkeyed call _ hstage, hpetitioned.append _,
        List.mem_append_left _ hallowed⟩

end Turned

theorem justified_step {ttl : Span} {s next : Traffic} (hstep : Step s next) (hsound : s.Sound)
    (hnext : next.Sound) (haccounted : s.Accounted ttl) (hjustified : s.Justified ttl) :
    next.Justified ttl := by
  cases hstep with
  | still => exact hjustified
  | registered command handler => exact hjustified.silent (by rfl)
  | purged now => exact hjustified.silent (by rfl)
  | turned call now stage? seen after hstage hnew hturn =>
      exact hjustified.turned haccounted hsound.keyed hnext.inOrder hstage hturn

theorem justified_run (opensApprovals : Bool) (ttl : Span) (actions : List Action) :
    ((start opensApprovals ttl).run actions).Justified ttl := by
  have hboth : ∀ {s next : Traffic}, Step s next → s.Sound → next.Sound →
      s.Accounted ttl ∧ s.Justified ttl → next.Accounted ttl ∧ next.Justified ttl := by
    rintro s next hstep hsound hnext ⟨haccounted, hjustified⟩
    exact ⟨accounted_step hstep hsound haccounted,
      justified_step hstep hsound hnext haccounted hjustified⟩
  exact (run_keeps_sound hboth
    ⟨accounted_start opensApprovals ttl, justified_start opensApprovals ttl⟩ actions).2

/-- What governance answered at one place pays for the handler call at another: a token that was
minted on that answer for that very write was redeemed right before the handler was called, while
it lasted, for the first time and not having been purged. -/
def Pays (history : List GatewayEvent) (ttl : Span) (paid place : Nat) (call : CallId)
    (envelope : Envelope) : Prop :=
  ∃ redeemed token now expiresAt granter minted, place = redeemed + 1 ∧
    history[redeemed]? = some (.redeemed call token now (.valid envelope)) ∧ now < expiresAt ∧
    Backing (history.take redeemed) ttl token ⟨envelope, expiresAt⟩ granter paid minted

theorem Pays.before {history : List GatewayEvent} {ttl : Span} {paid place : Nat} {call : CallId}
    {envelope : Envelope} (hpays : Pays history ttl paid place call envelope) : paid < place := by
  obtain ⟨redeemed, token, now, expiresAt, granter, minted, rfl, _, _, hbacking⟩ := hpays
  obtain ⟨reason, hallowed⟩ := hbacking.allowed
  exact Nat.lt_succ_of_lt (of_place_take hallowed).1

theorem Pays.allowed {history : List GatewayEvent} {ttl : Span} {paid place : Nat} {call : CallId}
    {envelope : Envelope} (hpays : Pays history ttl paid place call envelope) :
    ∃ granter, AllowedAt history paid granter envelope := by
  obtain ⟨redeemed, token, now, expiresAt, granter, minted, _, _, _, hbacking⟩ := hpays
  obtain ⟨reason, hallowed⟩ := hbacking.allowed
  exact ⟨granter, reason, (of_place_take hallowed).2⟩

/-- Every handler call is paid for. -/
theorem Justified.pays {ttl : Span} {s : Traffic} (hjustified : s.Justified ttl) {place : Nat}
    {call : CallId} {handler : HandlerId} {envelope : Envelope}
    (hasked : s.history[place]? = some (.asked call (.handler handler envelope))) :
    ∃ paid, Pays s.history ttl paid place call envelope := by
  obtain ⟨_, redeemed, token, now, hnext, hredeemed⟩ := hjustified.handled hasked
  obtain ⟨expiresAt, granter, paid, minted, hlt, hbacking⟩ := hjustified.redeemed hredeemed
  exact ⟨paid, redeemed, token, now, expiresAt, granter, minted, hnext, hredeemed, hlt, hbacking⟩

/-- One answer pays for one handler call: who got it minted one token, which was redeemed once. -/
theorem Pays.unique {s : Traffic} (horder : s.InOrder) {ttl : Span} {paid first second : Nat}
    {call other : CallId} {envelope write : Envelope}
    (hfirst : Pays s.history ttl paid first call envelope)
    (hsecond : Pays s.history ttl paid second other write) : first = second := by
  obtain ⟨i, token, now, expiresAt, granter, minted, rfl, hi, _, hbacking⟩ := hfirst
  obtain ⟨j, token', now', expiresAt', granter', minted', rfl, hj, _, hbacking'⟩ := hsecond
  obtain ⟨reason, hallowed⟩ := hbacking.allowed
  obtain ⟨reason', hallowed'⟩ := hbacking'.allowed
  have hsame := Option.some.inj ((of_place_take hallowed).2.symm.trans (of_place_take hallowed').2)
  obtain ⟨rfl, _⟩ := GatewayEvent.replied.inj hsame
  obtain ⟨mintedAt, hmint, _⟩ := hbacking.mint
  obtain ⟨mintedAt', hmint', _⟩ := hbacking'.mint
  obtain ⟨hbefore, hmint⟩ := of_place_take hmint
  obtain ⟨hbefore', hmint'⟩ := of_place_take hmint'
  obtain rfl := horder.place_unique hmint hmint' rfl rfl rfl rfl
  obtain ⟨_, rfl, _⟩ := GatewayEvent.minted.inj (Option.some.inj (hmint.symm.trans hmint'))
  -- Of two redemptions of the token since it was minted the later one would not be the first.
  rcases Nat.lt_trichotomy i j with hlt | rfl | hlt
  · exact absurd (by rw [List.getElem?_take_of_lt hlt, hi]) (hbacking'.unspent hbefore)
  · rfl
  · exact absurd (by rw [List.getElem?_take_of_lt hlt, hj]) (hbacking.unspent hbefore')

/-- What it takes for handlers to be called only for writes that governance allowed. -/
structure PaidFor (s : Traffic) (ttl : Span) : Prop where
  /-- The handler that is called is the one bound to exactly the command of the write. -/
  bound : ∀ {place call handler envelope},
    s.history[place]? = some (.asked call (.handler handler envelope)) →
    boundTo (s.history.take place) envelope.command = some handler
  /-- An answer of governance that allowed the write pays for each call of a handler, and no answer
  pays for two. -/
  paid : ∃ payer : Nat → Nat,
    (∀ {place call handler envelope},
      s.history[place]? = some (.asked call (.handler handler envelope)) →
      payer place < place ∧ Pays s.history ttl (payer place) place call envelope) ∧
    ∀ {first second call other handler bound envelope write},
      s.history[first]? = some (.asked call (.handler handler envelope)) →
      s.history[second]? = some (.asked other (.handler bound write)) →
      payer first = payer second → first = second
  /-- Who was answered anything but an allowance mints no token. -/
  refused : ∀ {call question answer},
    .replied call (.evaluator question) (.decided answer) ∈ s.history →
    (∀ reason, answer ≠ .ok (.allow reason)) → ∀ token now, .minted call token now ∉ s.history
  /-- Who requested a write without an execution mints no token. -/
  unnamed : ∀ {call envelope}, .requested call envelope ∈ s.history → envelope.execution = none →
    ∀ token now, .minted call token now ∉ s.history
  /-- Who redeemed a token that was not valid calls no handler. -/
  worthless : ∀ {call token now worth}, .redeemed call token now worth ∈ s.history →
    (∀ envelope, worth ≠ .valid envelope) →
    ∀ handler envelope, .asked call (.handler handler envelope) ∉ s.history
  /-- A token is valid only if it was minted for an allowed write, and was neither redeemed nor
  purged since, and its time is not over. -/
  valid : ∀ {place call token now envelope},
    s.history[place]? = some (.redeemed call token now (.valid envelope)) →
    ∃ expiresAt granter paid minted, now < expiresAt ∧
      Backing (s.history.take place) ttl token ⟨envelope, expiresAt⟩ granter paid minted

/-- In every run handlers are called only for writes that governance allowed, each on an answer of
its own. -/
theorem run_paidFor (opensApprovals : Bool) (ttl : Span) (actions : List Action) :
    ((start opensApprovals ttl).run actions).PaidFor ttl := by
  have horder := (sound_run opensApprovals ttl actions).inOrder
  have hjustified := justified_run opensApprovals ttl actions
  generalize (start opensApprovals ttl).run actions = s at horder hjustified
  constructor
  case bound => exact fun hasked => (hjustified.handled hasked).1
  case paid =>
    have hpaid : ∀ place, (∃ call handler envelope,
        s.history[place]? = some (.asked call (.handler handler envelope))) →
        ∃ paid, ∀ call handler envelope,
          s.history[place]? = some (.asked call (.handler handler envelope)) →
          Pays s.history ttl paid place call envelope := by
      rintro place ⟨call, handler, envelope, hasked⟩
      obtain ⟨paid, hpays⟩ := hjustified.pays hasked
      refine ⟨paid, fun other bound write hother => ?_⟩
      obtain ⟨rfl, hwhom⟩ := GatewayEvent.asked.inj (Option.some.inj (hasked.symm.trans hother))
      obtain ⟨rfl, rfl⟩ := Awaited.handler.inj hwhom
      exact hpays
    choose! payer hpayer using hpaid
    refine ⟨payer, ?_, ?_⟩
    · intro place call handler envelope hasked
      have hpays := hpayer place ⟨call, handler, envelope, hasked⟩ call handler envelope hasked
      exact ⟨hpays.before, hpays⟩
    · intro first second call other handler bound envelope write hfirst hsecond hsame
      have hpays := hpayer first ⟨call, handler, envelope, hfirst⟩ call handler envelope hfirst
      rw [hsame] at hpays
      exact hpays.unique horder
        (hpayer second ⟨other, bound, write, hsecond⟩ other bound write hsecond)
  case refused =>
    intro call question answer hreplied hanswer token now hminted
    obtain ⟨request, reason, _, _, hallowed⟩ := hjustified.minted hminted
    have hsame := horder.event_unique hreplied hallowed rfl rfl rfl rfl
    obtain ⟨_, _, hreply⟩ := GatewayEvent.replied.inj hsame
    exact hanswer reason (Reply.decided.inj hreply)
  case unnamed =>
    intro call envelope hrequested hexecution token now hminted
    obtain ⟨request, reason, hkeyed, ⟨original, horiginal, henvelope⟩, _⟩ :=
      hjustified.minted hminted
    have hsame := horder.event_unique hrequested horiginal rfl rfl rfl rfl
    obtain ⟨_, rfl⟩ := GatewayEvent.requested.inj hsame
    have hsome := hkeyed.1
    rw [henvelope, hexecution] at hsome
    contradiction
  case worthless =>
    intro call token now worth hredeemed hworth handler envelope hasked
    obtain ⟨place, hplace⟩ := List.mem_iff_getElem?.mp hasked
    obtain ⟨_, before, token', now', _, hvalid⟩ := hjustified.handled hplace
    have hsame :=
      horder.event_unique hredeemed (List.mem_of_getElem? hvalid) rfl rfl rfl rfl
    obtain ⟨_, _, _, hworth'⟩ := GatewayEvent.redeemed.inj hsame
    exact hworth envelope hworth'
  case valid => exact fun hredeemed => hjustified.redeemed hredeemed

end Traffic

end Gatehouse
