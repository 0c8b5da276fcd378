import Gatehouse.Orchestrator.Submission
import Gatehouse.Proofs.Orchestrator.Records
import Gatehouse.Proofs.Policy.Governed

/-! # The whole house

The gateway with its calls in flight and the approval book behind it, the router
with its executions, the queue, the worker, and those who hand in jobs and wait
for them, all at once. What the worker turns to the gateway or the router with is
a call in flight or an execution like any other, and goes by a name; where the
worker stands is known by that name. A run is any list of actions, and one that
does not fit the state changes nothing.

The worker moves as it does in a shift: to an observer who sees nothing of the
calls of others but what they leave behind, the house is one. `Step` lists every
way in which an action can change the house.
-/

namespace Gatehouse

namespace Traffic

/-- How far a call has got. -/
def standing (s : Traffic) (call : CallId) : Progress :=
  match s.calls.get? call with
  | some stage => .waiting stage
  | none =>
    match s.lastSeen call with
    | some (.answered _ outcome) => .answered outcome
    | _ => .broken

end Traffic

namespace Governed

/-- The stamp of an action by which a call can come to be answered. -/
def Action.stamp : Action → Stamp
  | .gateway (.reply _ stamp _) | .rule _ stamp | .openFor _ _ stamp => stamp
  | _ => ⟨.ofNanos 0, "", "", ""⟩

/-- What an action comes to for the gateway. -/
def moved? (regime : Regime) (s : Governed) : Action → Option Traffic.Action
  | .gateway action => some action
  | .rule call stamp =>
    match s.traffic.calls.get? call with
    | some (.evaluating request) =>
      some (.reply call stamp
        (.decided (regime.guardrails.decideBy s.book request.question)))
    | _ => none
  | .openFor call opening stamp =>
    match s.traffic.calls.get? call with
    | some (.opening ..) =>
      if regime.opener = .book then
        some (.reply call stamp (.opened (.ok (ApprovalBook.nameFor opening))))
      else none
    | _ => none
  | .openAside _ | .approve _ | .reject _ => none

/-- What an action makes of a gateway and a book, if others may have a say in place of the
guardrails. -/
def perform (regime : Regime) (s : Governed) : Action → Governed
  | .gateway action => s.move action
  | action => s.step regime action

end Governed

/-- Where the worker is, with the name under which its job is known to the gateway or the router. -/
inductive Post where
  | absent
  | idle
  | handed (job : Job)
  | writing (job : Job) (name : Nat)
  | executing (job : Job) (name : Nat)
  | recording (event : AuditEvent)
  deriving DecidableEq

namespace Post

/-- Where the worker is after it got so far with what goes by a name. -/
def after (name : Nat) : WorkProgress → Post
  | .waiting (.writing job _) => .writing job name
  | .waiting (.executing job _) => .executing job name
  | .waiting (.recording event) => .recording event
  | .done => .idle
  | .broken => .absent

/-- The worker waits for an execution. -/
def awaits (post : Post) (ticket : Ticket) : Bool :=
  match post with
  | .executing _ name => ⟨name⟩ = ticket
  | _ => false

end Post

/-- The name of somebody who has handed in a job. -/
structure WaiterId where
  number : Nat
  deriving DecidableEq

/-- Everything in the house, and what those who handed in jobs were answered. -/
structure House where
  governed : Governed
  deployment : Deployment
  queue : JobQueue
  settings : OrchestratorSettings
  post : Post
  waiting : Table WaiterId Waiting
  responses : List (WaiterId × SubmitResponse)

namespace House

/-- What can happen in the house. -/
inductive Action where
  /-- Somebody uses the gateway, replies to a call or decides about an approval. -/
  | governance (action : Governed.Action)
  /-- Somebody uses the router, or an adapter answers to somebody else. -/
  | agents (action : Deployment.Action)
  /-- Somebody hands in a job, and from a time on waits for it if that is wanted. -/
  | submit (waiter : WaiterId) (stamp : Stamp) (submission : Submission) (now : Nat)
  /-- Somebody who waits looks at the queue. -/
  | look (waiter : WaiterId) (now : Nat)
  /-- Somebody does not wait any more. -/
  | leave (waiter : WaiterId)
  | cancel (id : JobId) (now : Moment)
  /-- The worker is started. -/
  | engage
  /-- The worker is stopped. -/
  | dismiss (now : Moment)
  | claim (now : Moment)
  /-- The worker turns to somebody with its job, under a name. -/
  | begin (name : Nat) (env : Environment) (stamp : Stamp)
  /-- The adapter answers that the worker waits for. -/
  | report (stamp : Stamp) (answer : Except Fault Json)
  /-- The sink replies to the worker. -/
  | record (accepted : Bool)

/-- The house before anything happened, with any router. -/
def start (regime : Regime) (ttl : Span) (router : Router) (settings : OrchestratorSettings) :
    House where
  governed := .start regime ttl
  deployment := ⟨router, .empty, .empty, []⟩
  queue := .empty
  settings := settings
  post := .absent
  waiting := .empty
  responses := []

/-- What the worker works with. -/
def workshop (h : House) : Workshop where
  gateway := h.governed.traffic.gateway
  router := h.deployment.router
  queue := h.queue

/-- The worker goes on, as far as it concerns the queue and the worker itself. -/
def goOn (h : House) (name : Nat) (after : Workshop × WorkProgress) : House :=
  { h with queue := after.1.queue, post := .after name after.2 }

/-- The worker hears how its call stands. -/
def hear (h : House) (stamp : Stamp) : House :=
  match h.post with
  | .writing job name =>
    h.goOn name (h.workshop.afterGateway h.settings.summaryKeys stamp job
      (h.governed.traffic.standing ⟨name⟩))
  | _ => h

/-- What the gateway and the router see of the worker turning to them with its job. -/
def turnTo (h : House) (name : Nat) (env : Environment) (stamp : Stamp) (job : Job) : House :=
  match job.kind, Workshop.writeOf stamp job with
  | .writeExecute, .ok envelope =>
    { h with governed := h.governed.move (.request ⟨name⟩ stamp envelope true) }
  | .agentExecute, _ =>
    if !Workshop.namesCommand job.payload then h
    else { h with deployment := h.deployment.step (.execute ⟨name⟩ env stamp job.payload) }
  | _, _ => h

/-- Somebody who waits looks at the queue. -/
def see (h : House) (waiter : WaiterId) (waiting : Waiting) (now : Nat) : House :=
  match waiting.look h.settings.waitPollMillis h.queue now with
  | .answered response =>
    { h with
      waiting := h.waiting.erase waiter
      responses := h.responses ++ [(waiter, response)] }
  | .again waiting _ => { h with waiting := h.waiting.put waiter waiting }

/-- What an action makes of the house. -/
def step (regime : Regime) (h : House) : Action → House
  | .governance action =>
    { h with governed := h.governed.perform regime action }.hear action.stamp
  | .agents (.answer ticket now answer) =>
    if h.post.awaits ticket then h
    else { h with deployment := h.deployment.step (.answer ticket now answer) }
  | .agents (.drop ticket now) =>
    { h with
      deployment := h.deployment.step (.drop ticket now)
      post := if h.post.awaits ticket then .absent else h.post }
  | .agents action => { h with deployment := h.deployment.step action }
  | .submit waiter stamp submission now =>
    -- The name of a new job is one that no job has.
    if (h.queue.get? ⟨stamp.id⟩).isSome || h.waiting.contains waiter then h
    else
      let (job, queue) := submission.enqueue h.settings h.queue stamp
      let h := { h with queue := queue }
      if submission.wait then
        h.see waiter ⟨job, now + submission.patience h.settings⟩ now
      else { h with responses := h.responses ++ [(waiter, .unawaited job)] }
  | .look waiter now =>
    match h.waiting.get? waiter with
    | some waiting => h.see waiter waiting now
    | none => h
  | .leave waiter => { h with waiting := h.waiting.erase waiter }
  | .cancel id now =>
    match h.queue.cancel id now with
    | .ok (_, queue) => { h with queue := queue }
    | .error _ => h
  | .engage =>
    match h.post with
    | .absent => { h with post := .idle }
    | _ => h
  | .dismiss now =>
    match h.post with
    | .writing _ name =>
      { h with governed := h.governed.move (.drop ⟨name⟩ now), post := .absent }
    | .executing _ name =>
      { h with deployment := h.deployment.step (.drop ⟨name⟩ now), post := .absent }
    | _ => { h with post := .absent }
  | .claim now =>
    match h.post with
    | .idle =>
      match h.queue.claim now with
      | (some job, queue) => { h with queue := queue, post := .handed job }
      | (none, queue) =>
        { h with queue := queue, governed := h.governed.move (.purge now) }
    | _ => h
  | .begin name env stamp =>
    match h.post with
    | .handed job =>
      if h.governed.traffic.isNew ⟨name⟩ && h.deployment.isNew ⟨name⟩ then
        (h.turnTo name env stamp job).goOn name
          (h.workshop.start env h.settings.summaryKeys stamp job)
      else h
    | _ => h
  | .report stamp answer =>
    match h.post with
    | .executing job name =>
      match h.deployment.executions.get? ⟨name⟩ with
      | some execution =>
        { h with deployment := h.deployment.step (.answer ⟨name⟩ stamp.now answer) }.goOn name
          (h.workshop.executed h.settings.summaryKeys stamp job execution answer)
      | none => h
    | _ => h
  | .record _ =>
    match h.post with
    | .recording _ => { h with post := .idle }
    | _ => h

/-- What a list of actions makes of the house. -/
def run (regime : Regime) (h : House) (actions : List Action) : House :=
  actions.foldl (step regime) h

end House

namespace Traffic

variable {s : Traffic} {call : CallId} {stage : Call}

theorem standing_of_inFlight (hstage : s.calls.get? call = some stage) :
    s.standing call = .waiting stage := by
  rw [standing, hstage]

/-- After a call has gone on it stands where it got to. -/
theorem standing_advance {now : Moment} {stage? : Option Call} {seen : List GatewayEvent}
    {after : Gateway × Progress} (hturn : Turn s.gateway call now stage? seen after) :
    (s.advance call now seen after).standing call = after.2 := by
  have hplace : (s.advance call now seen after).calls.get? call = after.2.call? := by
    rw [advance, get?_place, if_pos rfl]
  rw [standing, hplace, lastSeen_advance hturn]
  cases after.2 <;> rfl

theorem step_reply (hstage : s.calls.get? call = some stage) {reply : Reply}
    (hexpects : stage.awaits.expects reply) (stamp : Stamp) :
    (s.step (.reply call stamp reply)).gateway = (s.gateway.resume stamp stage reply).1 ∧
      (s.step (.reply call stamp reply)).standing call =
        (s.gateway.resume stamp stage reply).2 := by
  simp only [step, hstage, hexpects, if_true]
  exact ⟨rfl, standing_advance (Gateway.resume_turn s call stamp stage reply hexpects)⟩

theorem step_drop (hstage : s.calls.get? call = some stage) (now : Moment) :
    (s.step (.drop call now)).gateway = s.gateway.abandon now stage ∧
      (s.step (.drop call now)).standing call = .broken := by
  simp only [step, hstage]
  exact ⟨rfl, standing_advance (s.gateway.abandon_turn call now stage)⟩

/-- A call that has just started stands where its request got it to, and the gateway is as
before. -/
theorem step_request (hnew : s.isNew call) (stamp : Stamp) (envelope : Envelope)
    (thenCommit : Bool) :
    (s.step (.request call stamp envelope thenCommit)).gateway = s.gateway ∧
      (s.step (.request call stamp envelope thenCommit)).standing call =
        Gateway.request stamp envelope thenCommit := by
  simp only [step, hnew, if_true]
  exact ⟨rfl, standing_advance (s.gateway.request_turn call stamp envelope thenCommit)⟩

end Traffic

namespace Governed

variable {regime : Regime} {s : Governed} {action : Action}

theorem traffic_perform (regime : Regime) (s : Governed) (action : Action) :
    (s.perform regime action).traffic =
      match s.moved? regime action with
      | some moved => s.traffic.step moved
      | none => s.traffic := by
  cases action with
  | gateway | approve | reject => rfl
  | rule call stamp =>
      cases hstage : s.traffic.calls.get? call with
      | none => simp only [perform, step, moved?, hstage]
      | some stage =>
          cases stage with
          | evaluating request =>
              simp only [perform, step, moved?, hstage]
              rfl
          | _ => simp only [perform, step, moved?, hstage]
  | openFor call opening stamp =>
      cases hstage : s.traffic.calls.get? call with
      | none => simp only [perform, step, moved?, hstage]
      | some stage =>
          cases stage with
          | opening =>
              simp only [perform, step, moved?, hstage]
              by_cases hopener : regime.opener = .book
              · rw [if_pos hopener, if_pos hopener]
                rfl
              · rw [if_neg hopener, if_neg hopener]
          | _ => simp only [perform, step, moved?, hstage]
  | openAside opening =>
      simp only [perform, step, moved?]
      split <;> rfl

/-- The stamp of an action is that of the reply that it comes to. -/
theorem stamp_of_moved {call : CallId} {stamp : Stamp} {reply : Reply}
    (hmoved : s.moved? regime action = some (.reply call stamp reply)) : action.stamp = stamp := by
  cases action with
  | gateway moved =>
      obtain rfl := Option.some.inj hmoved
      rfl
  | rule other given =>
      simp only [moved?] at hmoved
      split at hmoved
      · cases hmoved
        rfl
      · contradiction
  | openFor other opening given =>
      simp only [moved?] at hmoved
      split at hmoved
      · split at hmoved
        · cases hmoved
          rfl
        · contradiction
      · contradiction
  | openAside opening | approve id | reject id => contradiction

end Governed

namespace House

theorem see_eq (h : House) (waiter : WaiterId) (waiting : Waiting) (now : Nat) :
    ∃ waiting' responses, h.see waiter waiting now =
      { h with waiting := waiting', responses := responses } := by
  unfold see
  split <;> exact ⟨_, _, rfl⟩

/-- Every way in which an action can change the house. -/
inductive Step (regime : Regime) (h : House) : Action → House → Prop where
  | still (action : Action) : Step regime h action h
  | governed (act : Governed.Action) (hpost : ∀ job name, h.post ≠ .writing job name) :
      Step regime h (.governance act) { h with governed := h.governed.perform regime act }
  /-- The worker waits for a call, and hears how it stands. -/
  | heard (act : Governed.Action) {job : Job} {name : Nat} (hpost : h.post = .writing job name)
      {next : House} (hnext : next = { h with governed := h.governed.perform regime act }) :
      Step regime h (.governance act)
        (next.goOn name (next.workshop.afterGateway h.settings.summaryKeys act.stamp job
          (next.governed.traffic.standing ⟨name⟩)))
  /-- Others use the router, and may break the worker down. -/
  | routed (act : Deployment.Action) (deployment : Deployment) {post : Post}
      (hpost : post = h.post ∨ post = .absent) :
      Step regime h (.agents act) { h with deployment := deployment, post := post }
  | submitted (waiter : WaiterId) (stamp : Stamp) (submission : Submission) (now : Nat)
      (waiting : Table WaiterId Waiting) (responses : List (WaiterId × SubmitResponse)) :
      Step regime h (.submit waiter stamp submission now)
        { h with
          queue := (submission.enqueue h.settings h.queue stamp).2
          waiting := waiting
          responses := responses }
  | looked (waiter : WaiterId) (now : Nat) (waiting : Table WaiterId Waiting)
      (responses : List (WaiterId × SubmitResponse)) :
      Step regime h (.look waiter now) { h with waiting := waiting, responses := responses }
  | left (waiter : WaiterId) :
      Step regime h (.leave waiter) { h with waiting := h.waiting.erase waiter }
  | cancelled (id : JobId) (now : Moment) {after : Job × JobQueue}
      (hcancel : h.queue.cancel id now = .ok after) :
      Step regime h (.cancel id now) { h with queue := after.2 }
  | engaged : Step regime h .engage { h with post := .idle }
  | recorded (accepted : Bool) : Step regime h (.record accepted) { h with post := .idle }
  | dismissed (now : Moment) : Step regime h (.dismiss now) { h with post := .absent }
  /-- The worker leaves its call. -/
  | hungUp (now : Moment) (name : Nat) :
      Step regime h (.dismiss now)
        { h with governed := h.governed.move (.drop ⟨name⟩ now), post := .absent }
  /-- The worker leaves its execution. -/
  | walkedOut (now : Moment) (name : Nat) :
      Step regime h (.dismiss now)
        { h with deployment := h.deployment.step (.drop ⟨name⟩ now), post := .absent }
  | claimed (now : Moment) {job : Job} {queue : JobQueue}
      (hclaim : h.queue.claim now = (some job, queue)) :
      Step regime h (.claim now) { h with queue := queue, post := .handed job }
  /-- There is no job, and the worker has tokens purged. -/
  | swept (now : Moment) {queue : JobQueue} (hclaim : h.queue.claim now = (none, queue)) :
      Step regime h (.claim now)
        { h with queue := queue, governed := h.governed.move (.purge now) }
  | begun (name : Nat) (env : Environment) (stamp : Stamp) {job : Job}
      (hpost : h.post = .handed job) (hnew : h.governed.traffic.isNew ⟨name⟩) :
      Step regime h (.begin name env stamp)
        ((h.turnTo name env stamp job).goOn name
          (h.workshop.start env h.settings.summaryKeys stamp job))
  | reported (stamp : Stamp) (answer : Except Fault Json) {job : Job} {name : Nat}
      {execution : Execution} (hpost : h.post = .executing job name)
      (hexecution : h.deployment.executions.get? ⟨name⟩ = some execution) :
      Step regime h (.report stamp answer)
        ({ h with deployment := h.deployment.step (.answer ⟨name⟩ stamp.now answer) }.goOn name
          (h.workshop.executed h.settings.summaryKeys stamp job execution answer))

theorem step_cases (regime : Regime) (h : House) (action : Action) :
    Step regime h action (h.step regime action) := by
  cases action with
  | governance act =>
      cases hpost : h.post with
      | writing job name =>
          simp only [step, hear, hpost]
          exact .heard act hpost (by rw [hpost])
      | _ =>
          simp only [step, hear, hpost]
          exact hpost ▸ .governed act (by simp [hpost])
  | agents act =>
      cases act with
      | answer =>
          simp only [step]
          split
          · exact .still _
          · exact .routed _ _ (.inl rfl)
      | drop =>
          simp only [step]
          split
          · exact .routed _ _ (.inr rfl)
          · exact .routed _ _ (.inl rfl)
      | _ => exact .routed _ _ (.inl rfl)
  | submit waiter stamp submission now =>
      simp only [step]
      split
      · exact .still _
      · split
        · obtain ⟨waiting, responses, hsee⟩ := see_eq
            { h with queue := (submission.enqueue h.settings h.queue stamp).2 } waiter
            ⟨(submission.enqueue h.settings h.queue stamp).1, now + submission.patience h.settings⟩
            now
          rw [hsee]
          exact .submitted ..
        · exact .submitted ..
  | look waiter now =>
      simp only [step]
      split
      next waiting hwaiting =>
        obtain ⟨waiting', responses, hsee⟩ := h.see_eq waiter waiting now
        rw [hsee]
        exact .looked ..
      next => exact .still _
  | leave waiter => exact .left waiter
  | cancel id now =>
      simp only [step]
      split
      next hcancel => exact .cancelled id now hcancel
      next => exact .still _
  | engage =>
      simp only [step]
      split
      · exact .engaged
      · exact .still _
  | dismiss now =>
      simp only [step]
      split
      · exact .hungUp ..
      · exact .walkedOut ..
      · exact .dismissed now
  | claim now =>
      simp only [step]
      split
      · split
        next hclaim => exact .claimed now hclaim
        next hclaim => exact .swept now hclaim
      · exact .still _
  | begin name env stamp =>
      simp only [step]
      split
      next job hpost =>
        split
        next hnew => exact .begun name env stamp hpost (Bool.and_eq_true_iff.mp hnew).1
        next => exact .still _
      next => exact .still _
  | report stamp answer =>
      simp only [step]
      split
      next job name hpost =>
        split
        next execution hexecution => exact .reported stamp answer hpost hexecution
        next => exact .still _
      next => exact .still _
  | record accepted =>
      simp only [step]
      split
      · exact .recorded accepted
      · exact .still _

end House

end Gatehouse
