import Gatehouse.Proofs.Gateway.Passage
import Gatehouse.Proofs.Policy.Bookkeeping

/-! # A parked write goes where the operator steers it

In the application a write that needs an approval is parked under one that the
operator finds in the book: the gateway has just had it opened there, or it was
there and still pending when the guardrails ruled. Nothing but an opening or a
decision of that very name changes how it stands, so a write that comes with it
is answered by what the operator decided, however many other writes and
decisions come in between, and no second approval is opened for it.
-/

namespace Gatehouse

namespace Traffic

variable {s : Traffic} {call : CallId}

/-- A call breaks down only when its acceptance was to be recorded, and where the calendar does not
show the end of its token. -/
theorem recorded_of_broken {g : Gateway} {stamp : Stamp} {stage : Call} {reply : Reply}
    (hexpects : stage.awaits.expects reply) (hbroken : (g.resume stamp stage reply).2 = .broken) :
    (∃ accepted, reply = .recorded accepted) ∧ stamp.now.add? g.tokens.ttl = none := by
  refine ⟨?_, (g.goesOn_resume stamp hexpects).overflowed hbroken⟩
  cases Call.expects_cases hexpects with
  | receiving _ _ accepted | judged _ _ _ accepted | accepting _ _ _ _ accepted
  | closing _ _ accepted => exact ⟨accepted, rfl⟩
  | evaluating request answer | opening request reason payload answer =>
      cases answer <;> contradiction
  | applying envelope key handler answer =>
      obtain ⟨event, hsettle⟩ := g.settle_eq stamp envelope key (answer.mapError Fault.text)
      simp [Gateway.resume, hsettle] at hbroken

theorem progress_of_dropped {other : CallId} {now : Moment} {progress : Progress}
    (hmem : .dropped other ∈ progress.events call now) : other = call ∧ progress = .broken := by
  unfold Progress.events at hmem
  split at hmem <;> simp at hmem
  exact ⟨hmem, rfl⟩

/-- A call is seen to be dropped when somebody drops it, and when it breaks down. -/
theorem of_dropped_newEvents {action : Action} (hmem : .dropped call ∈ s.newEvents action) :
    (∃ now, action = .drop call now) ∨
      ∃ stamp accepted, action = .reply call stamp (.recorded accepted) ∧
        stamp.now.add? s.gateway.tokens.ttl = none := by
  cases action with
  | register command handler => simp [newEvents, step] at hmem
  | purge now => simp [newEvents, step] at hmem
  | request other stamp envelope thenCommit =>
      simp only [newEvents, step] at hmem
      split at hmem
      next =>
        simp only [advance, List.drop_left, List.singleton_append, List.mem_cons, reduceCtorEq,
          false_or] at hmem
        obtain ⟨_, hbroken⟩ := progress_of_dropped hmem
        unfold Gateway.request at hbroken
        split at hbroken <;> contradiction
      next => simp at hmem
  | commit other stamp token =>
      simp only [newEvents, step] at hmem
      split at hmem
      next =>
        simp only [advance, redemption, List.drop_left, List.singleton_append, List.mem_cons,
          reduceCtorEq, false_or] at hmem
        obtain ⟨_, hbroken⟩ := progress_of_dropped hmem
        have hcommits := s.gateway.commit_commits stamp token
        generalize s.gateway.commit stamp token = after at hcommits hbroken
        cases hcommits <;> contradiction
      next => simp at hmem
  | reply other stamp reply =>
      simp only [newEvents, step] at hmem
      split at hmem
      next stage hstage =>
        split at hmem
        next hexpects =>
          simp only [advance, List.drop_left, List.cons_append, List.mem_cons, reduceCtorEq,
            false_or, List.mem_append] at hmem
          rcases hmem with hredeemed | hevents
          · unfold redemptionsAfter at hredeemed
            split at hredeemed <;> simp [redemption] at hredeemed
          · obtain ⟨rfl, hbroken⟩ := progress_of_dropped hevents
            obtain ⟨⟨accepted, rfl⟩, hoverflow⟩ := recorded_of_broken hexpects hbroken
            exact .inr ⟨stamp, accepted, rfl, hoverflow⟩
        next => simp at hmem
      next => simp at hmem
  | drop other now =>
      simp only [newEvents, step] at hmem
      split at hmem
      next stage hstage =>
        simp only [advance, List.drop_left, List.nil_append] at hmem
        obtain ⟨rfl, _⟩ := progress_of_dropped hmem
        exact .inl ⟨now, rfl⟩
      next => simp at hmem

end Traffic

namespace Governed

variable {regime : Regime} {ttl : Span} {s : Governed} {call : CallId}

/-- Whatever happens to a gateway under guardrails, its traffic stays or goes on by one action. -/
theorem traffic_step (regime : Regime) (s : Governed) (action : Action) :
    (s.step regime action).traffic = s.traffic ∨
      ∃ moved, (s.step regime action).traffic = s.traffic.step moved := by
  have hstep := step_cases regime s action
  generalize s.step regime action = next at hstep ⊢
  cases hstep with
  | still | openedAside | decided => exact .inl rfl
  | moved action => exact .inr ⟨action, rfl⟩
  | ruled => exact .inr ⟨.reply .., rfl⟩
  | openedFor => exact .inr ⟨.reply .., rfl⟩

theorem run_traffic {holds : Traffic → Prop}
    (hmotion : ∀ {t next : Traffic}, Traffic.Motion t next → holds t → holds next)
    (hholds : holds s.traffic) (actions : List Action) : holds (s.run regime actions).traffic := by
  induction actions generalizing s with
  | nil => exact hholds
  | cons action rest ih =>
      refine ih (s := s.step regime action) ?_
      rcases traffic_step regime s action with heq | ⟨moved, heq⟩ <;> rw [heq]
      · exact hholds
      · exact hmotion (s.traffic.motion_cases moved) hholds

theorem run_append (s : Governed) (regime : Regime) (earlier later : List Action) :
    s.run regime (earlier ++ later) = (s.run regime earlier).run regime later :=
  List.foldl_append ..

theorem log_step (regime : Regime) (s : Governed) (action : Action) :
    s.log <+: (s.step regime action).log := by
  have hstep := step_cases regime s action
  generalize s.step regime action = next at hstep ⊢
  cases hstep with
  | still => exact List.prefix_rfl
  | openedFor =>
      simp only [move, openApproval, List.append_assoc]
      exact List.prefix_append _ _
  | moved | ruled | openedAside | decided => exact List.prefix_append _ _

theorem log_run (regime : Regime) (s : Governed) (actions : List Action) :
    s.log <+: (s.run regime actions).log := by
  induction actions generalizing s with
  | nil => exact List.prefix_rfl
  | cons action rest ih => exact (log_step regime s action).trans (ih _)

theorem mem_seen_move {event : GatewayEvent} {moved : Traffic.Action} :
    .seen event ∈ (s.move moved).log ↔ .seen event ∈ s.log ∨ event ∈ s.traffic.newEvents moved := by
  simp only [move, List.mem_append, List.mem_map, Happening.seen.injEq, exists_eq_right]

theorem mem_seen_openApproval {event : GatewayEvent} {opening : Stamp} :
    .seen event ∈ (s.openApproval opening).log ↔ .seen event ∈ s.log := by
  simp [openApproval]

/-- A call is dropped by somebody, or breaks down when its acceptance is recorded. -/
theorem of_dropped_step {action : Action}
    (hbefore : .seen (.dropped call) ∉ s.log)
    (hmem : .seen (.dropped call) ∈ (s.step regime action).log) :
    (∃ now, action = .gateway (.drop call now)) ∨
      ∃ stamp accepted, action = .gateway (.reply call stamp (.recorded accepted)) ∧
        stamp.now.add? s.traffic.gateway.tokens.ttl = none := by
  have hmoved : ∀ {moved : Traffic.Action}, .seen (.dropped call) ∈ (s.move moved).log → _ :=
    fun hmem => Traffic.of_dropped_newEvents ((mem_seen_move.mp hmem).resolve_left hbefore)
  cases action with
  | gateway moved =>
      simp only [step] at hmem
      split at hmem
      next =>
        rcases hmoved hmem with ⟨now, rfl⟩ | ⟨stamp, accepted, rfl, hoverflow⟩
        · exact .inl ⟨now, rfl⟩
        · exact .inr ⟨stamp, accepted, rfl, hoverflow⟩
      next => exact absurd hmem hbefore
  | rule other stamp =>
      simp only [step] at hmem
      split at hmem
      -- The guardrails' reply neither drops a call nor records its acceptance.
      next => rcases hmoved hmem with ⟨_, haction⟩ | ⟨_, _, haction, _⟩ <;> cases haction
      next => exact absurd hmem hbefore
  | openFor other opening stamp =>
      simp only [step] at hmem
      split at hmem
      next =>
        split at hmem
        next =>
          have hadded := (mem_seen_move.mp hmem).resolve_left (mt mem_seen_openApproval.mp hbefore)
          rcases Traffic.of_dropped_newEvents hadded with ⟨_, haction⟩ | ⟨_, _, haction, _⟩ <;>
            cases haction
        next => exact absurd hmem hbefore
      next => exact absurd hmem hbefore
  | openAside opening =>
      simp only [step] at hmem
      split at hmem
      · exact absurd (mem_seen_openApproval.mp hmem) hbefore
      · exact absurd hmem hbefore
  | approve id | reject id => simp [step, hbefore] at hmem

theorem ttl_step (regime : Regime) (s : Governed) (action : Action) :
    (s.step regime action).traffic.gateway.tokens.ttl = s.traffic.gateway.tokens.ttl := by
  rcases traffic_step regime s action with heq | ⟨moved, heq⟩
  · rw [heq]
  · rw [heq, Traffic.ttl_step]

theorem of_dropped_run (hbefore : .seen (.dropped call) ∉ s.log) {actions : List Action}
    (hmem : .seen (.dropped call) ∈ (s.run regime actions).log) :
    (∃ now, .gateway (.drop call now) ∈ actions) ∨
      ∃ stamp accepted, .gateway (.reply call stamp (.recorded accepted)) ∈ actions ∧
        stamp.now.add? s.traffic.gateway.tokens.ttl = none := by
  induction actions generalizing s with
  | nil => exact absurd hmem hbefore
  | cons action rest ih =>
      by_cases hnow : .seen (.dropped call) ∈ (s.step regime action).log
      · rcases of_dropped_step hbefore hnow with ⟨now, rfl⟩ | ⟨stamp, accepted, rfl, hoverflow⟩
        · exact .inl ⟨now, List.mem_cons_self⟩
        · exact .inr ⟨stamp, accepted, List.mem_cons_self, hoverflow⟩
      · rcases ih hnow hmem with ⟨now, hdrop⟩ | ⟨stamp, accepted, hreply, hoverflow⟩
        · exact .inl ⟨now, List.mem_cons_of_mem _ hdrop⟩
        · rw [ttl_step] at hoverflow
          exact .inr ⟨stamp, accepted, List.mem_cons_of_mem _ hreply, hoverflow⟩

/-- Whoever a call waits for can give it a reply. -/
theorem exists_reply (hopener : regime.opener = .book) {stage : Call}
    (hstage : s.traffic.calls.get? call = some stage) (stamp : Stamp) :
    ∃ action, (s.step regime action).traffic.repliesTo call = s.traffic.repliesTo call + 1 := by
  have hmove : ∀ {reply}, stage.awaits.expects reply →
      (s.move (.reply call stamp reply)).traffic.repliesTo call =
        s.traffic.repliesTo call + 1 :=
    fun hexpects => Traffic.repliesTo_reply hstage hexpects stamp
  cases stage with
  | receiving | judged | accepting | closing =>
      refine ⟨.gateway (.reply call stamp (.recorded true)), ?_⟩
      rw [step, if_pos (by rfl)]
      exact hmove rfl
  | evaluating request =>
      refine ⟨.rule call stamp, ?_⟩
      simp only [step, hstage]
      exact hmove rfl
  | opening request reason payload =>
      refine ⟨.openFor call stamp stamp, ?_⟩
      simp only [step, hstage, hopener, if_true]
      exact Traffic.repliesTo_reply (s := (s.openApproval stamp).traffic) hstage rfl stamp
  | applying envelope key handler =>
      refine ⟨.gateway (.reply call stamp (.applied (.ok .null))), ?_⟩
      rw [step, if_pos (by rfl)]
      exact hmove rfl

end Governed

/-- A write was parked: at this place the book opened an approval for it, or there the guardrails
found the one that it came with waiting for its decision. -/
inductive ParkedAt (log : List Happening) (place : Nat) (call : CallId) (id : String) : Prop where
  | opened (opening : Stamp) (envelope : Envelope) (payload : Json)
      (hopened : log[place]? = some (.opened opening))
      (hreply : log[place + 1]? = some
        (.seen (.replied call (.creator envelope payload) (.opened (.ok id)))))
      (hname : ApprovalBook.nameFor opening = id)
  | pending (question : PolicyRequest) (reason : String) (payload : Json)
      (hruled : log[place]? = some (.seen (.replied call (.evaluator question)
        (.decided (.ok (.requiresApproval reason (some id) payload))))))
      (happroval : question.approval = some id)
      (hpending : (ApprovalBook.ofLog (log.take place)).state? id = some .pending)

theorem ParkedAt.state? {log : List Happening} {place : Nat} {call : CallId} {id : String}
    (hparked : ParkedAt log place call id) :
    (ApprovalBook.ofLog (log.take (place + 1))).state? id = some .pending := by
  cases hparked with
  | opened opening envelope payload hopened hreply hname =>
      rw [ApprovalBook.ofLog_take_succ hopened, ApprovalBook.after, ApprovalBook.state?_opened,
        if_pos hname.symm]
  | pending question reason payload hruled happroval hpending =>
      rw [ApprovalBook.ofLog_take_succ hruled]
      exact hpending

/-- An approval is in the book, waiting for its decision or standing as the operator has decided
since a place of the log. -/
def Stands (log : List Happening) (since place : Nat) (id : String) : Prop :=
  ∃ state, (ApprovalBook.ofLog (log.take place)).state? id = some state ∧
    (state = .pending ∨ DecidedBetween log since place id state)

/-- The guardrails ruled on the write of a call while the approval that it came with stood like
this. -/
def RuledWhile (log : List Happening) (ruled : Nat) (call : CallId) (id : String)
    (state : ApprovalState) : Prop :=
  (∃ question answer, log[ruled]? =
      some (.seen (.replied call (.evaluator question) (.decided answer))) ∧
    question.approval = some id) ∧
  (ApprovalBook.ofLog (log.take ruled)).state? id = some state

/-- What a write is answered that comes with an approval which stands like this. -/
def ApprovalState.Answers (id : String) (outcome : WriteOutcome) : ApprovalState → Prop
  | .pending => outcome.status = .requiresApproval ∧ outcome.reason = some "approval_pending" ∧
    outcome.approval = some id
  | .approved => outcome.status = .accepted ∧ outcome.reason = some "approval_granted" ∧
    outcome.token.isSome
  | .rejected => outcome.status = .rejected ∧ outcome.reason = some "approval_rejected"

theorem place_before {log : List Happening} {place : Nat} {event : GatewayEvent}
    (hmem : event ∈ (log.filterMap Happening.event?).take (seenBefore log place)) :
    ∃ earlier, earlier < place ∧ log[earlier]? = some (.seen event) := by
  rw [take_seenBefore, mem_seen_iff] at hmem
  obtain ⟨earlier, hearlier⟩ := List.mem_iff_getElem?.mp hmem
  exact ⟨earlier, of_place_take hearlier⟩

namespace Governed

section Recorded

variable {regime : Regime} {ttl : Span} {s : Governed} {call : CallId} {place : Nat}
  {outcome : WriteOutcome} {write : Envelope}

/-- Behind every answer in the log stands what was seen before it. -/
theorem Recorded.grounds (hrecorded : s.Recorded regime ttl) (hopener : regime.opener = .book)
    (hanswered : s.log[place]? = some (.seen (.answered call outcome))) :
    ∃ given auditId, Grounds true
        ((s.log.filterMap Happening.event?).take (seenBefore s.log place)) call given ∧
      outcome = { given with auditId := auditId } := by
  have hexplained := hrecorded.of_runs (Traffic.explained_run _ ttl)
  have hseen := seen_of_place hanswered
  rw [hrecorded.history] at hseen ⊢
  simpa [hopener] using hexplained.answered hseen

/-- The guardrails rule on the write that a call requested. -/
theorem Recorded.ruling (hrecorded : s.Recorded regime ttl)
    (hrequested : .requested call write ∈ s.traffic.history) {question : PolicyRequest}
    {answer : Except Fault Decision}
    (hruled : s.log[place]? =
      some (.seen (.replied call (.evaluator question) (.decided answer)))) :
    question = write.question ∧
      answer = regime.guardrails.decideBy (.ofLog (s.log.take place)) question := by
  refine ⟨?_, hrecorded.ruled hruled⟩
  have hexplained := hrecorded.of_runs (Traffic.explained_run _ ttl)
  have horder := hrecorded.of_runs (Traffic.inOrder_run _ ttl)
  have hreplied := mem_seen_iff.mpr (List.mem_of_getElem? hruled)
  rw [hrecorded.history] at hreplied
  obtain ⟨request, hkeyed, ⟨original, horiginal, henvelope⟩, rfl⟩ := hexplained.ruled hreplied
  obtain ⟨_, rfl⟩ := GatewayEvent.requested.inj
    (horder.event_unique hrequested horiginal rfl rfl rfl rfl)
  rw [hkeyed.question_eq, henvelope]
  rfl

/-- A parked write is one that the guardrails park, and its approval was open in the book. -/
theorem Recorded.parking (hrecorded : s.Recorded regime ttl) (hbookkept : s.Bookkept)
    (hopener : regime.opener = .book)
    (hanswered : s.log[place]? = some (.seen (.answered call outcome)))
    (hstatus : outcome.status = .requiresApproval) :
    (∃ request reason named payload, Ruled (s.log.filterMap Happening.event?) call request
        (.ok (.requiresApproval reason named payload))) ∧
      ∃ id parked, outcome.approval = some id ∧ parked < place ∧ ParkedAt s.log parked call id := by
  obtain ⟨given, auditId, hgrounds, rfl⟩ := hrecorded.grounds hopener hanswered
  have hall : ∀ {request answer},
      Ruled ((s.log.filterMap Happening.event?).take (seenBefore s.log place)) call request answer →
      Ruled (s.log.filterMap Happening.event?) call request answer := by
    intro request answer hruled
    rw [← List.take_append_drop (seenBefore s.log place) (s.log.filterMap Happening.event?)]
    exact hruled.append _
  cases hgrounds with
  | parked request reason approval payload hruled =>
      refine ⟨⟨request, reason, _, payload, hall hruled⟩, approval, ?_⟩
      obtain ⟨parked, hlt, hparked⟩ := place_before hruled.replied
      obtain ⟨happroval, hpending⟩ :=
        Guardrails.of_parked_decideBy (hrecorded.ruled hparked).symm
      exact ⟨parked, rfl, hlt, .pending _ reason payload hparked happroval hpending⟩
  | opened request reason approval payload hruled hopened =>
      refine ⟨⟨request, reason, _, payload, hall hruled⟩, approval, ?_⟩
      obtain ⟨replied, hlt, hreplied⟩ := place_before hopened
      obtain ⟨parked, opening, rfl, hopening, hname⟩ := hbookkept _ _ _ _ _ hreplied
      exact ⟨parked, rfl, by omega,
        .opened opening _ payload hopening hreplied (Except.ok.inj hname).symm⟩
  | unopened request reason payload stamp fault hruled hopened =>
      obtain ⟨replied, _, hreplied⟩ := place_before hopened
      obtain ⟨_, _, _, _, hanswer⟩ := hbookkept _ _ _ _ _ hreplied
      contradiction
  | unasked request reason payload stamp hopens => contradiction
  | settled _ _ _ _ answer => cases answer <;> contradiction
  | _ => contradiction

end Recorded

/-- How a call fares that requests a write with an approval which was in the book before. -/
structure Heeded (regime : Regime) (ttl : Span) (since : Nat) (later : List Action) (s : Governed)
    (call : CallId) (id : String) : Prop where
  /-- It is answered what the approval says that stood when the guardrails ruled. -/
  answered : ∀ {place outcome}, s.log[place]? = some (.seen (.answered call outcome)) →
    ∃ ruled state, since ≤ ruled ∧ ruled < place ∧ RuledWhile s.log ruled call id state ∧
      state.Answers id outcome
  /-- Whatever approval is opened, it is for another call. -/
  unopened : ∀ {place opening}, s.log[place]? = some (.opened opening) →
    ∃ other envelope payload, other ≠ call ∧ s.log[place + 1]? =
      some (.seen (.replied other (.creator envelope payload)
        (.opened (.ok (ApprovalBook.nameFor opening)))))
  /-- It takes no more than seven replies. -/
  brief : s.traffic.repliesTo call ≤ 7
  /-- As long as it is in flight it can be given the next one. -/
  waits : ∀ stage, s.traffic.calls.get? call = some stage →
    ∃ action, (s.step regime action).traffic.repliesTo call = s.traffic.repliesTo call + 1
  /-- It ends with an answer, unless it is dropped or the calendar does not show the end of its
  token. -/
  ends : s.traffic.calls.get? call = none →
    (∃ outcome, .seen (.answered call outcome) ∈ s.log) ∨
    (∃ now, .gateway (.drop call now) ∈ later) ∨
    ∃ stamp accepted, .gateway (.reply call stamp (.recorded accepted)) ∈ later ∧
      stamp.now.add? ttl = none

/-- A call requests a write, and nothing more, that needs an approval and comes with one that was in
the book before. -/
structure Returns (regime : Regime) (since : Nat) (s : Governed) (call : CallId)
    (write : Envelope) (id : String) : Prop where
  requested : .requested call write ∈ s.traffic.history
  meant : s.traffic.Meant call false
  execution : write.execution ≠ none
  free : write.command ∉ regime.guardrails.denied
  required : write.command ∈ regime.guardrails.approvalRequired
  approval : write.approval = some id
  known : (ApprovalBook.ofLog (s.log.take since)).state? id ≠ none
  fresh : ∀ {place event}, s.log[place]? = some (.seen event) → event.call? = some call →
    since ≤ place

section Returns

variable {regime : Regime} {ttl : Span} {s : Governed} {call : CallId} {write : Envelope}
  {id : String} {since place : Nat}

/-- The guardrails rule on the write by how its approval stands. -/
theorem Returns.steering (hreturns : s.Returns regime since call write id)
    (hrecorded : s.Recorded regime ttl) {question : PolicyRequest}
    {answer : Except Fault Decision} (hruled : s.log[place]? =
      some (.seen (.replied call (.evaluator question) (.decided answer)))) :
    ∃ state, RuledWhile s.log place call id state ∧
      answer = .ok (Guardrails.decideOn question id (some state)) := by
  obtain ⟨rfl, hanswer⟩ := hrecorded.ruling hreturns.requested hruled
  have hsince := hreturns.fresh hruled rfl
  obtain ⟨state, hstate⟩ :=
    Option.ne_none_iff_exists'.mp (ApprovalBook.state?_ne_none hsince hreturns.known)
  refine ⟨state, ⟨⟨_, answer, hruled, hreturns.approval⟩, hstate⟩, ?_⟩
  rw [hanswer, Guardrails.decideBy_of_approval hreturns.free hreturns.required hreturns.approval,
    hstate]

theorem Returns.ruled (hreturns : s.Returns regime since call write id)
    (hrecorded : s.Recorded regime ttl) {request : WriteRequest}
    {answer : Except Fault Decision} (hruled : Ruled
      ((s.log.filterMap Happening.event?).take (seenBefore s.log place)) call request answer) :
    ∃ ruled state, since ≤ ruled ∧ ruled < place ∧ RuledWhile s.log ruled call id state ∧
      answer = .ok (Guardrails.decideOn request.question id (some state)) := by
  obtain ⟨ruled, hlt, hplace⟩ := place_before hruled.replied
  obtain ⟨state, hwhile, hanswer⟩ := hreturns.steering hrecorded hplace
  exact ⟨ruled, state, hreturns.fresh hplace rfl, hlt, hwhile, hanswer⟩

/-- The write is answered what its approval says. -/
theorem Returns.answered (hreturns : s.Returns regime since call write id)
    (hrecorded : s.Recorded regime ttl) (hopener : regime.opener = .book)
    {outcome : WriteOutcome}
    (hanswered : s.log[place]? = some (.seen (.answered call outcome))) :
    ∃ ruled state, since ≤ ruled ∧ ruled < place ∧ RuledWhile s.log ruled call id state ∧
      state.Answers id outcome := by
  obtain ⟨given, auditId, hgrounds, rfl⟩ := hrecorded.grounds hopener hanswered
  have hsofar : ∀ {event},
      event ∈ (s.log.filterMap Happening.event?).take (seenBefore s.log place) →
      event ∈ s.traffic.history := by
    intro event hmem
    rw [← hrecorded.history]
    exact List.mem_of_mem_take hmem
  -- The call redeems no token, so it is not the end of a commit that it is answered.
  have hunredeemed : ∀ {token now worth}, .redeemed call token now worth ∉
      (s.log.filterMap Happening.event?).take (seenBefore s.log place) :=
    fun hmem => hreturns.meant.redeemed rfl _ _ _ (hsofar hmem)
  have huncommitted : ∀ {committed envelope key}, ¬ CommittedAt
      ((s.log.filterMap Happening.event?).take (seenBefore s.log place)) committed call envelope
      key := by
    rintro committed envelope key ⟨_, token, now, hplace⟩
    exact hunredeemed (List.mem_of_getElem? hplace)
  cases hgrounds with
  | unnamed envelope hunnamed hmissing =>
      have horder := hrecorded.of_runs (Traffic.inOrder_run _ ttl)
      obtain ⟨_, rfl⟩ := GatewayEvent.requested.inj
        (horder.event_unique hreturns.requested (hsofar hunnamed) rfl rfl rfl rfl)
      exact absurd hmissing hreturns.execution
  | unavailable request fault hruled =>
      obtain ⟨_, _, _, _, _, hanswer⟩ := hreturns.ruled hrecorded hruled
      contradiction
  | denied request reason hruled =>
      obtain ⟨ruled, state, hsince, hlt, hwhile, hanswer⟩ := hreturns.ruled hrecorded hruled
      cases state <;> cases hanswer
      exact ⟨ruled, .rejected, hsince, hlt, hwhile, rfl, rfl⟩
  | parked request reason approval payload hruled =>
      obtain ⟨ruled, state, hsince, hlt, hwhile, hanswer⟩ := hreturns.ruled hrecorded hruled
      cases state <;> cases hanswer
      exact ⟨ruled, .pending, hsince, hlt, hwhile, rfl, rfl, rfl⟩
  | accepted request reason token now hruled =>
      obtain ⟨ruled, state, hsince, hlt, hwhile, hanswer⟩ := hreturns.ruled hrecorded hruled
      cases state <;> cases hanswer
      exact ⟨ruled, .approved, hsince, hlt, hwhile, rfl, rfl, rfl⟩
  | opened _ _ _ _ hruled | unopened _ _ _ _ _ hruled =>
      -- An approval that is in the book is never one that nobody opened.
      obtain ⟨_, state, _, _, _, hanswer⟩ := hreturns.ruled hrecorded hruled
      cases state <;> cases hanswer
  | unasked => contradiction
  | unknown _ _ hredeemed | expired _ _ _ hredeemed | keyless _ _ _ hredeemed =>
      exact absurd hredeemed hunredeemed
  | busy _ _ _ hcommitted | replayed _ _ _ _ hcommitted | unhandled _ _ _ hcommitted
  | settled _ _ _ _ _ hcommitted => exact absurd hcommitted huncommitted

/-- Whatever approval is opened, it is for another call. -/
theorem Returns.unopened (hreturns : s.Returns regime since call write id)
    (hrecorded : s.Recorded regime ttl) (hsourced : s.Sourced) {opening : Stamp}
    (hopened : s.log[place]? = some (.opened opening)) :
    ∃ other envelope payload, other ≠ call ∧ s.log[place + 1]? =
      some (.seen (.replied other (.creator envelope payload)
        (.opened (.ok (ApprovalBook.nameFor opening))))) := by
  obtain ⟨envelope, _, other, reason, payload, hreply, hparked⟩ := hsourced place opening hopened
  refine ⟨other, envelope, payload, ?_, hreply⟩
  rintro rfl
  obtain ⟨ruled, hruled⟩ := List.mem_iff_getElem?.mp hparked
  obtain ⟨state, _, hanswer⟩ := hreturns.steering hrecorded (of_place_take hruled).2
  cases state <;> cases hanswer

/-- A call that is over was answered or dropped. -/
theorem Recorded.ended (hrecorded : s.Recorded regime ttl)
    (hrequested : .requested call write ∈ s.traffic.history)
    (hover : s.traffic.calls.get? call = none) :
    (∃ outcome, .seen (.answered call outcome) ∈ s.log) ∨ .seen (.dropped call) ∈ s.log := by
  have hlog : ∀ {event}, s.traffic.lastSeen call = some event → .seen event ∈ s.log := by
    intro event hlast
    have hmem := List.mem_filter.mp (List.mem_of_getLast? hlast)
    rw [← mem_seen_iff, hrecorded.history]
    exact hmem.1
  rcases (hrecorded.of_runs (Traffic.brief_run _ ttl)).ended call hover with
    hnone | ⟨outcome, hlast⟩ | hlast
  · rw [Traffic.lastSeen, List.getLast?_eq_none_iff, Traffic.trail, List.filter_eq_nil_iff] at hnone
    exact absurd (by simp [GatewayEvent.call?]) (hnone _ hrequested)
  · exact .inl ⟨outcome, hlog hlast⟩
  · exact .inr (hlog hlast)

end Returns

/-- What an operator can rely on about the parked writes of a run of the application. -/
structure Steered (app : Application) (actions : List Action) : Prop where
  /-- The operator's book is what the log makes of it. -/
  book : (app.governed.run app.regime actions).book =
    .ofLog (app.governed.run app.regime actions).log
  /-- Whatever approval a write came with, the one that it is parked under is in the book before the
  answer and from then on, waiting for its decision unless the operator has decided since. -/
  parked : ∀ {place call outcome},
    (app.governed.run app.regime actions).log[place]? = some (.seen (.answered call outcome)) →
    outcome.status = .requiresApproval →
    ∃ id parked, outcome.approval = some id ∧ parked < place ∧
      ParkedAt (app.governed.run app.regime actions).log parked call id ∧
      ∀ later, parked < later →
        Stands (app.governed.run app.regime actions).log (parked + 1) later id
  /-- What the operator decides about it takes effect. -/
  decides : ∀ {parked place call id decision},
    ParkedAt (app.governed.run app.regime actions).log parked call id → parked < place →
    (app.governed.run app.regime actions).log[place]? = some (.decided id decision) →
    (ApprovalBook.ofLog ((app.governed.run app.regime actions).log.take (place + 1))).state? id =
      some decision
  /-- The write requested once more with that approval is heeded, whatever else happens. -/
  again : ∀ {before later other stamp repeated call write outcome id},
    actions = before ++ .gateway (.request other stamp repeated false) :: later →
    (app.governed.run app.regime before).traffic.isNew other →
    .seen (.requested call write) ∈ (app.governed.run app.regime before).log →
    .seen (.answered call outcome) ∈ (app.governed.run app.regime before).log →
    outcome.status = .requiresApproval → outcome.approval = some id →
    repeated.command = write.command → repeated.execution = write.execution →
    repeated.approval = some id →
    (app.governed.run app.regime actions).Heeded app.regime
      app.governed.traffic.gateway.tokens.ttl
      (app.governed.run app.regime before).log.length later other id

end Governed

theorem ParkedAt.stands {log : List Happening} {parked : Nat} {call : CallId} {id : String}
    (hparked : ParkedAt log parked call id) {later : Nat} (hlater : parked < later) :
    Stands log (parked + 1) later id :=
  ApprovalBook.state?_of_pending hlater hparked.state?

namespace Governed

section Steered

variable {regime : Regime} {ttl : Span} {s next : Governed} {call other : CallId}
  {write repeated : Envelope} {outcome : WriteOutcome} {id : String}

/-- A write that was parked has an execution and a command that needs an approval. -/
theorem Recorded.of_parked (hrecorded : s.Recorded regime ttl)
    (hrequested : .seen (.requested call write) ∈ s.log) {request : WriteRequest}
    {reason : String} {named : Option String} {payload : Json}
    (hruled : Ruled (s.log.filterMap Happening.event?) call request
      (.ok (.requiresApproval reason named payload))) :
    write.execution ≠ none ∧ write.command ∉ regime.guardrails.denied ∧
      write.command ∈ regime.guardrails.approvalRequired := by
  obtain ⟨original, horiginal, henvelope⟩ := hruled.requested
  obtain ⟨ruled, hreplied⟩ := List.mem_iff_getElem?.mp (mem_seen_iff.mp hruled.replied)
  rw [← mem_seen_iff] at hrequested
  have hsame := (hrecorded.of_runs (Traffic.inOrder_run _ ttl)).event_unique
    (hrecorded.history ▸ hrequested) (hrecorded.history ▸ horiginal) rfl rfl rfl rfl
  obtain ⟨_, rfl⟩ := GatewayEvent.requested.inj hsame
  have hcommand : request.question.command = write.command := by
    rw [WriteRequest.question, henvelope]
  have hexecution : write.execution = some request.execution := by
    rw [← hruled.keyed.1, henvelope]
  refine ⟨by simp [hexecution], ?_⟩
  rw [← hcommand]
  exact Guardrails.decideBy_requiresApproval (hrecorded.ruled hreplied).symm

/-- A write that was parked is requested once more with its approval. -/
theorem Recorded.returns (hrecorded : s.Recorded regime ttl) (hbookkept : s.Bookkept)
    (hopener : regime.opener = .book) (hnew : s.traffic.isNew other)
    (hrequested : .seen (.requested call write) ∈ s.log)
    (hanswered : .seen (.answered call outcome) ∈ s.log)
    (hstatus : outcome.status = .requiresApproval) (hparkedUnder : outcome.approval = some id)
    (hcommand : repeated.command = write.command)
    (hexecution : repeated.execution = write.execution)
    (happroval : repeated.approval = some id) (hgrown : s.log <+: next.log)
    (hmeant : next.traffic.Meant other false)
    (hrepeated : .requested other repeated ∈ next.traffic.history) :
    next.Returns regime s.log.length other repeated id := by
  obtain ⟨place, hplace⟩ := List.mem_iff_getElem?.mp hanswered
  obtain ⟨⟨request, reason, named, payload, hruled⟩, named', parked, hid, hlt, hparked⟩ :=
    hrecorded.parking hbookkept hopener hplace hstatus
  obtain rfl : named' = id := Option.some.inj (hid.symm.trans hparkedUnder)
  obtain ⟨hnamed, hfree, hrequired⟩ := hrecorded.of_parked hrequested hruled
  constructor
  case requested => exact hrepeated
  case meant => exact hmeant
  case execution => rwa [hexecution]
  case free => rwa [hcommand]
  case required => rwa [hcommand]
  case approval => exact happroval
  case known =>
    rw [← List.prefix_iff_eq_take.mp hgrown]
    have hbound := (List.getElem?_eq_some_iff.mp hplace).1
    obtain ⟨state, hstate, _⟩ := hparked.stands (Nat.lt_trans hlt hbound)
    rw [List.take_length] at hstate
    simp [hstate]
  case fresh =>
    intro found event hfound hcall
    by_contra hearlier
    obtain ⟨added, hadded⟩ := hgrown
    rw [← hadded, List.getElem?_append_left (Nat.not_le.mp hearlier)] at hfound
    have hseen := mem_seen_iff.mpr (List.mem_of_getElem? hfound)
    rw [hrecorded.history] at hseen
    exact Traffic.call?_ne_of_isNew hnew hseen hcall

/-- A call is started that is to request a write and nothing more. -/
theorem Recorded.started (hrecorded : s.Recorded regime ttl) (hnew : s.traffic.isNew other)
    (stamp : Stamp) (envelope : Envelope) {started : Governed}
    (hstarted : started = s.step regime (.gateway (.request other stamp envelope false))) :
    started.traffic.Meant other false ∧ .seen (.requested other envelope) ∈ started.log ∧
      .seen (.dropped other) ∉ started.log := by
  have hmove : started = s.move (.request other stamp envelope false) := hstarted
  refine ⟨?_, ?_, fun hdropped => ?_⟩
  · rw [hmove]
    exact Traffic.meant_requested hnew stamp envelope false
  · rw [hmove, Governed.move]
    simp [Traffic.newEvents, Traffic.step, hnew, Traffic.advance]
  · rw [hstarted] at hdropped
    have hfresh : .seen (.dropped other) ∉ s.log := by
      rw [← mem_seen_iff, hrecorded.history]
      exact fun hmem => Traffic.call?_ne_of_isNew hnew hmem rfl
    rcases of_dropped_step hfresh hdropped with ⟨_, haction⟩ | ⟨_, _, haction, _⟩ <;> cases haction

theorem heeded_run (hopener : regime.opener = .book) (houtsiders : regime.outsiders = false)
    {before : List Action} {stamp : Stamp}
    (hnew : ((start regime ttl).run regime before).traffic.isNew other)
    (hrequested : .seen (.requested call write) ∈ ((start regime ttl).run regime before).log)
    (hanswered : .seen (.answered call outcome) ∈ ((start regime ttl).run regime before).log)
    (hstatus : outcome.status = .requiresApproval) (hparked : outcome.approval = some id)
    (hcommand : repeated.command = write.command)
    (hexecution : repeated.execution = write.execution)
    (happroval : repeated.approval = some id) (later : List Action) :
    ((start regime ttl).run regime
        (before ++ .gateway (.request other stamp repeated false) :: later)).Heeded regime ttl
      ((start regime ttl).run regime before).log.length later other id := by
  have hrecorded :=
    recorded_run regime ttl (before ++ .gateway (.request other stamp repeated false) :: later)
  have hsourced := sourced_run regime ttl houtsiders
    (before ++ .gateway (.request other stamp repeated false) :: later)
  have hbefore := recorded_run regime ttl before
  have hbookkept := bookkept_run regime ttl hopener before
  rw [run_append] at hrecorded hsourced ⊢
  generalize (start regime ttl).run regime before = s at *
  obtain ⟨hmeant, hseen, hundropped⟩ := hbefore.started hnew stamp repeated rfl
  have hgrown :=
    log_run regime (s.step regime (.gateway (.request other stamp repeated false))) later
  have hreturns := hbefore.returns hbookkept hopener hnew hrequested hanswered hstatus hparked
    hcommand hexecution happroval ((log_step regime s _).trans hgrown)
    (run_traffic Traffic.meant_motion hmeant later)
    (hrecorded.history ▸ mem_seen_iff.mpr (hgrown.subset hseen))
  constructor
  case answered => exact hreturns.answered hrecorded hopener
  case unopened => exact hreturns.unopened hrecorded hsourced
  case brief => exact (hrecorded.of_runs (Traffic.brief_run _ ttl)).bounded other
  case waits => exact fun stage hstage => exists_reply hopener hstage (stampNamed "")
  case ends =>
    intro hover
    refine (hrecorded.ended hreturns.requested hover).imp_right fun hdropped => ?_
    have httl := (hbefore.of_runs (Traffic.accounted_run _ ttl)).ttl_eq
    have hdropped := of_dropped_run hundropped hdropped
    rwa [ttl_step, httl] at hdropped

/-- In every run of the application parked writes go where the operator steers them. -/
theorem run_steered {c : Config} {now : Moment} {app : Application}
    (happ : Application.ofConfig c now = .ok app) (actions : List Action) :
    Steered app actions := by
  obtain rfl := Application.eq_wire_of_ofConfig happ
  have hopener : (Application.wire c now).regime.opener = .book := rfl
  have houtsiders : (Application.wire c now).regime.outsiders = false := rfl
  constructor
  all_goals rw [Application.governed_wire]
  all_goals generalize (Application.wire c now).regime = regime at hopener houtsiders ⊢
  all_goals
    generalize (Span.ofSeconds? c.commitTokenTtlSecs).getD Gateway.fallbackTtl = ttl
  case book => exact (recorded_run regime ttl actions).book
  case parked =>
    intro place call outcome hanswered hstatus
    obtain ⟨_, id, parked, hid, hlt, hparked⟩ := (recorded_run regime ttl actions).parking
      (bookkept_run regime ttl hopener actions) hopener hanswered hstatus
    exact ⟨id, parked, hid, hlt, hparked, fun later hlater => hparked.stands hlater⟩
  case decides =>
    intro parked place call id decision hparked hlt hdecided
    obtain ⟨state, hstate, _⟩ := hparked.stands hlt
    exact ApprovalBook.state?_of_decided hdecided (by simp [hstate])
  case again =>
    rintro before later other stamp repeated call write outcome id rfl hnew hrequested hanswered
      hstatus hparked hcommand hexecution happroval
    exact heeded_run hopener houtsiders hnew hrequested hanswered hstatus hparked hcommand
      hexecution happroval later

/-- A write that comes with an approval nobody opened. -/
def pretension : Envelope :=
  { publication with approval := some "apr_made_up" }

/-- The write with the approval that it was parked under. -/
def resumption : Envelope :=
  { publication with approval := some "apr_publication" }

/-- A write is requested to its end. -/
def requestedToTheEnd (call : CallId) (envelope : Envelope) : List Action := [
  .gateway (.request call (stampNamed "a") envelope false),
  .gateway (.reply call (stampNamed "b") (.recorded true)),
  .rule call (stampNamed "c"),
  .gateway (.reply call (stampNamed "d") (.recorded true)),
  .openFor call (stampNamed "publication") (stampNamed "e"),
  .gateway (.reply call (stampNamed "f") (.recorded true))]

/-- The write is parked, asked for again before the operator has decided, granted, and asked for
once more. -/
def steered : List Action :=
  requestedToTheEnd ⟨0⟩ pretension ++ requestedToTheEnd ⟨1⟩ resumption ++
    .approve "apr_publication" :: requestedToTheEnd ⟨2⟩ resumption

/-- What the calls of a run were answered. -/
def answers (log : List Happening) : List (WriteStatus × Option String × Option String) :=
  log.filterMap fun
    | .seen (.answered _ outcome) => some (outcome.status, outcome.reason, outcome.approval)
    | _ => none

theorem steered_answers :
    Application.ofConfig twoGuarded (.ofNanos 0) = .ok twoGuardedApp ∧
    answers (twoGuardedApp.governed.run twoGuardedApp.regime steered).log = [
      (.requiresApproval, some "approval_unknown", some "apr_publication"),
      (.requiresApproval, some "approval_pending", some "apr_publication"),
      (.accepted, some "approval_granted", none)] ∧
    Steered twoGuardedApp steered := by
  have happ : Application.ofConfig twoGuarded (.ofNanos 0) = .ok twoGuardedApp := by
    decide +kernel
  exact ⟨happ, by decide +kernel, run_steered happ steered⟩

end Steered

end Governed

end Gatehouse
