import Gatehouse.Proofs.Orchestrator.House

/-! # The worker of the house

To the worker the house is a shift: what others do with the gateway and the
router comes to it as what it finds left behind, and what replies to its call or
its execution comes as an answer to its work. So whatever holds of every shift
holds of the worker in the house.
-/

namespace Gatehouse

/-- The end of an attempt at a job, which touches nothing but the queue. -/
structure Workshop.Closes (w : Workshop) (after : Workshop × WorkProgress) : Prop where
  gateway : after.1.gateway = w.gateway
  router : after.1.router = w.router
  recording : ∀ work, after.2 = .waiting work → ∃ event, work = .recording event

namespace Workshop

variable (w : Workshop) (limit : Nat) (stamp : Stamp) (job : Job)

theorem closes_acknowledge (result : Json) : w.Closes (w.acknowledge limit stamp job result) := by
  unfold acknowledge
  split
  · exact ⟨rfl, rfl, fun work hwork => by contradiction⟩
  · exact ⟨rfl, rfl, fun work hwork => ⟨_, (WorkProgress.waiting.inj hwork).symm⟩⟩

theorem closes_refuse (fault : Fault) : w.Closes (w.refuse stamp job fault) := by
  unfold refuse
  split
  · exact ⟨rfl, rfl, fun work hwork => by contradiction⟩
  · exact ⟨rfl, rfl, fun work hwork => ⟨_, (WorkProgress.waiting.inj hwork).symm⟩⟩

end Workshop

namespace Deployment

variable {d : Deployment} {ticket : Ticket} {execution : Execution} {action : Action}

/-- The action ends the execution of a ticket. -/
def Action.concerns (ticket : Ticket) : Action → Bool
  | .answer other .. | .drop other _ => other = ticket
  | _ => false

/-- An execution is under way that has been given the name of a ticket. -/
structure Holds (d : Deployment) (ticket : Ticket) (execution : Execution) : Prop where
  underWay : d.executions.get? ticket = some execution
  known : d.isNew ticket = false

theorem isNew_step (hknown : d.isNew ticket = false) (action : Action) :
    (d.step action).isNew ticket = false := by
  have hgrows : ∀ {next after : Deployment}, Change action.now next after →
      next.isNew ticket = false → after.isNew ticket = false := by
    intro next after hchange hnext
    cases hchange <;>
      simp_all [isNew, withHealth, withLoad, withIsolation, withFleet, marking, saw, failing, close]
  exact step_keeps hgrows hknown

/-- An execution goes on until its adapter answers or it is dropped. -/
theorem Holds.step (hholds : d.Holds ticket execution)
    (hconcerns : action.concerns ticket = false) :
    (d.step action).Holds ticket execution where
  known := isNew_step hholds.known action
  underWay := by
    have hunderWay := hholds.underWay
    cases action with
    | execute other env stamp payload =>
        simp only [Deployment.step]
        split
        next hnew =>
          have hne : ticket ≠ other := by
            rintro rfl
            rw [hholds.known] at hnew
            contradiction
          split
          next => exact hunderWay
          next => rw [Table.get?_put, if_neg hne, hunderWay]
        next => exact hunderWay
    | answer other now answer | drop other now =>
        have hne : ticket ≠ other := fun heq => by simp [Action.concerns, heq] at hconcerns
        simp only [Deployment.step]
        split
        next => rw [Table.get?_erase, if_neg hne, hunderWay]
        next => exact hunderWay
    | probe | probed =>
        simp only [Deployment.step]
        split <;> exact hunderWay
    | _ => exact hunderWay

end Deployment

theorem Post.of_awaits {post : Post} {ticket : Ticket} (hawaits : post.awaits ticket) :
    ∃ job name, post = .executing job name ∧ ticket = ⟨name⟩ := by
  unfold awaits at hawaits
  split at hawaits
  next job name => exact ⟨job, name, rfl, (of_decide_eq_true hawaits).symm⟩
  next => contradiction

namespace House

/-- Where the worker is, as a shift knows it. -/
def station (h : House) : Station :=
  match h.post with
  | .absent => .absent
  | .idle => .idle
  | .handed job => .handed job
  | .writing job name =>
    match h.governed.traffic.calls.get? ⟨name⟩ with
    | some stage => .busy (.writing job stage)
    | none => .absent
  | .executing job name =>
    match h.deployment.executions.get? ⟨name⟩ with
    | some execution => .busy (.executing job execution)
    | none => .absent
  | .recording event => .busy (.recording event)

/-- The worker, what it works with, and how many keys of a result it has recorded. -/
def shift (h : House) : Shift :=
  ⟨h.workshop, h.settings.summaryKeys, h.station⟩

/-- What others have made of the gateway and the router. -/
def elsewhere (next : House) : Shift.Action :=
  .elsewhere next.governed.traffic.gateway next.deployment.router

/-- What an action is to the worker. -/
def shadow (regime : Regime) (h : House) (action : Action) : Shift.Action :=
  match action with
  | .governance governed =>
    match h.post, h.governed.moved? regime governed with
    | .writing _ name, some (.reply call stamp reply) =>
      if call = ⟨name⟩ then .reply stamp (.forwarded reply) else (h.step regime action).elsewhere
    | .writing _ name, some (.drop call now) =>
      if call = ⟨name⟩ then .breakDown now else (h.step regime action).elsewhere
    | _, _ => (h.step regime action).elsewhere
  | .agents (.drop ticket now) =>
    if h.post.awaits ticket then .breakDown now else (h.step regime action).elsewhere
  | .agents _ | .look .. | .leave _ => (h.step regime action).elsewhere
  | .submit waiter stamp submission _ =>
    if h.waiting.contains waiter then (h.step regime action).elsewhere
    else .submit stamp submission.kind submission.payload submission.execution
      (submission.maxAttempts.getD h.settings.defaultMaxAttempts)
  | .cancel id now => .cancel id now
  | .engage => .start
  | .dismiss now => .stop now
  | .claim now => .claim now
  | .begin name env stamp =>
    if h.governed.traffic.isNew ⟨name⟩ && h.deployment.isNew ⟨name⟩ then .begin env stamp
    else h.elsewhere
  | .report stamp answer => .reply stamp (.executed answer)
  | .record accepted => .reply ⟨.ofNanos 0, "", "", ""⟩ (.recorded accepted)

/-- What the worker waits for is under way. -/
structure Manned (h : House) : Prop where
  writing : ∀ job name, h.post = .writing job name →
    ∃ stage, h.governed.traffic.calls.get? ⟨name⟩ = some stage
  executing : ∀ job name, h.post = .executing job name →
    ∃ execution, h.deployment.Holds ⟨name⟩ execution

variable {regime : Regime} {h : House}

theorem Manned.station_writing (hmanned : h.Manned) {job : Job} {name : Nat}
    (hpost : h.post = .writing job name) :
    ∃ stage, h.governed.traffic.calls.get? ⟨name⟩ = some stage ∧
      h.station = .busy (.writing job stage) := by
  obtain ⟨stage, hstage⟩ := hmanned.writing job name hpost
  exact ⟨stage, hstage, by simp only [station, hpost, hstage]⟩

theorem Manned.station_executing (hmanned : h.Manned) {job : Job} {name : Nat}
    (hpost : h.post = .executing job name) :
    ∃ execution, h.deployment.Holds ⟨name⟩ execution ∧
      h.station = .busy (.executing job execution) := by
  obtain ⟨execution, hholds⟩ := hmanned.executing job name hpost
  exact ⟨execution, hholds, by simp only [station, hpost, hholds.underWay]⟩

theorem post_of_handed {job : Job} (hstation : h.station = .handed job) : h.post = .handed job := by
  cases hpost : h.post with
  | handed =>
      simp only [station, hpost] at hstation
      rw [Station.handed.inj hstation]
  | writing | executing =>
      simp only [station, hpost] at hstation
      split at hstation <;> contradiction
  | _ =>
      simp only [station, hpost] at hstation
      contradiction

/-- A worker that is busy waits for its call, its execution or the sink. -/
theorem post_of_busy {work : Work} (hstation : h.station = .busy work) :
    (∃ job name stage, h.post = .writing job name ∧ work = .writing job stage) ∨
      (∃ job name execution, h.post = .executing job name ∧ work = .executing job execution) ∨
        ∃ event, h.post = .recording event ∧ work = .recording event := by
  cases hpost : h.post with
  | recording event =>
      simp only [station, hpost] at hstation
      exact .inr (.inr ⟨event, rfl, (Station.busy.inj hstation).symm⟩)
  | writing job name =>
      simp only [station, hpost] at hstation
      split at hstation
      next stage hstage => exact .inl ⟨job, name, stage, rfl, (Station.busy.inj hstation).symm⟩
      next => contradiction
  | executing job name =>
      simp only [station, hpost] at hstation
      split at hstation
      next execution hexecution =>
        exact .inr (.inl ⟨job, name, execution, rfl, (Station.busy.inj hstation).symm⟩)
      next => contradiction
  | _ =>
      simp only [station, hpost] at hstation
      contradiction

/-- What others leave behind is all that the worker notices of them. -/
theorem shift_aside (hmanned : h.Manned) {next : House} (hpost : next.post = h.post)
    (hcalls : ∀ job name, h.post = .writing job name →
      next.governed.traffic.calls.get? ⟨name⟩ = h.governed.traffic.calls.get? ⟨name⟩)
    (hexecutions : ∀ job name execution, h.post = .executing job name →
      h.deployment.Holds ⟨name⟩ execution → next.deployment.Holds ⟨name⟩ execution)
    (hqueue : next.queue = h.queue) (hsettings : next.settings = h.settings)
    (hterms : next.workshop.terms = h.workshop.terms) :
    next.shift = h.shift.step next.elsewhere ∧ next.Manned := by
  have hworkshop : { h.shift.workshop with
      gateway := next.governed.traffic.gateway, router := next.deployment.router } =
        next.workshop := by
    simp only [shift, workshop, hqueue]
  have hstation : next.station = h.station := by
    rw [station, station, hpost]
    cases hat : h.post with
    | writing job name => simp only [hcalls job name hat]
    | executing job name =>
        obtain ⟨execution, hholds⟩ := hmanned.executing job name hat
        simp only [hholds.underWay, (hexecutions job name execution hat hholds).underWay]
    | _ => rfl
  have hsame : next.workshop.terms = h.shift.workshop.terms := hterms
  refine ⟨?_, ?_, ?_⟩
  · simp only [Shift.step, elsewhere, hworkshop]
    rw [if_pos hsame]
    simp only [shift, hstation, hsettings]
  · intro job name hat
    rw [hpost] at hat
    rw [hcalls job name hat]
    exact hmanned.writing job name hat
  · intro job name hat
    rw [hpost] at hat
    obtain ⟨execution, hholds⟩ := hmanned.executing job name hat
    exact ⟨execution, hexecutions job name execution hat hholds⟩

/-- The worker goes on as in a shift, if what it waits for then is under way and the gateway and the
router are as the work has left them. -/
theorem shift_goOn {next : House} {name : Nat} {after : Workshop × WorkProgress}
    (hgateway : next.governed.traffic.gateway = after.1.gateway)
    (hrouter : next.deployment.router = after.1.router)
    (hwriting : ∀ job stage, after.2 = .waiting (.writing job stage) →
      next.governed.traffic.calls.get? ⟨name⟩ = some stage)
    (hexecuting : ∀ job execution, after.2 = .waiting (.executing job execution) →
      next.deployment.Holds ⟨name⟩ execution)
    (hsettings : next.settings = h.settings) :
    (next.goOn name after).shift = h.shift.goOn after ∧ (next.goOn name after).Manned := by
  have hworkshop : (next.goOn name after).workshop = after.1 := by
    simp only [workshop, goOn, hgateway, hrouter]
  have hstation : (next.goOn name after).station = Shift.stationAfter after.2 := by
    obtain ⟨workshop, progress⟩ := after
    rcases progress with (⟨job, execution⟩ | ⟨job, stage⟩ | event) | _ | _
    · simp only [station, goOn, Post.after, (hexecuting job execution rfl).underWay,
        Shift.stationAfter]
    · simp only [station, goOn, Post.after, hwriting job stage rfl, Shift.stationAfter]
    all_goals rfl
  refine ⟨by simp only [shift, hworkshop, hstation, Shift.goOn]; simp [goOn, hsettings], ?_, ?_⟩
  · intro job other hpost
    obtain ⟨workshop, progress⟩ := after
    rcases progress with (⟨_, execution⟩ | ⟨_, stage⟩ | event) | _ | _ <;> cases hpost
    exact ⟨stage, hwriting job stage rfl⟩
  · intro job other hpost
    obtain ⟨workshop, progress⟩ := after
    rcases progress with (⟨_, execution⟩ | ⟨_, stage⟩ | event) | _ | _ <;> cases hpost
    exact ⟨execution, hexecuting job execution rfl⟩

theorem terms_perform (h : House) (regime : Regime) (action : Governed.Action) :
    ({ h with governed := h.governed.perform regime action } : House).workshop.terms =
      h.workshop.terms := by
  have httl : (h.governed.perform regime action).traffic.gateway.tokens.ttl =
      h.governed.traffic.gateway.tokens.ttl := by
    rw [Governed.traffic_perform]
    split
    · exact Traffic.ttl_step ..
    · rfl
  simp only [Workshop.terms, workshop, httl]

/-- The worker hears of its call whatever happens to the gateway. -/
theorem step_governance (regime : Regime) (h : House) {job : Job} {name : Nat}
    (hpost : h.post = .writing job name) (action : Governed.Action) {next : House}
    (hnext : next = { h with governed := h.governed.perform regime action }) :
    h.step regime (.governance action) = next.goOn name
      (next.workshop.afterGateway h.settings.summaryKeys action.stamp job
        (next.governed.traffic.standing ⟨name⟩)) := by
  subst hnext
  simp only [step, hear, hpost]

theorem shift_step_reply {s : Shift} {work : Work} (hstation : s.station = .busy work)
    (stamp : Stamp) (reply : WorkReply) :
    s.step (.reply stamp reply) =
      if work.expects reply then s.goOn (s.workshop.answered s.limit stamp work reply) else s := by
  simp only [Shift.step, hstation]

theorem shift_leave {s : Shift} {work : Work} (hstation : s.station = .busy work) (now : Moment) :
    s.leave now = ⟨s.workshop.abandon now work, s.limit, .absent⟩ := by
  simp only [Shift.leave, hstation]

theorem shift_step_breakDown {s : Shift} {work : Work} (hstation : s.station = .busy work)
    (now : Moment) :
    s.step (.breakDown now) = ⟨s.workshop.abandon now work, s.limit, .absent⟩ := by
  rw [← shift_leave hstation]
  simp only [Shift.step, hstation]

/-- The worker goes on at the end of an attempt. -/
theorem shift_closes {next : House} {name : Nat} {after : Workshop × WorkProgress}
    (hcloses : next.workshop.Closes after) (hsettings : next.settings = h.settings) :
    (next.goOn name after).shift = h.shift.goOn after ∧ (next.goOn name after).Manned := by
  refine shift_goOn hcloses.gateway.symm hcloses.router.symm ?_ ?_ hsettings
  · intro job stage hwork
    obtain ⟨event, hevent⟩ := hcloses.recording _ hwork
    contradiction
  · intro job execution hwork
    obtain ⟨event, hevent⟩ := hcloses.recording _ hwork
    contradiction

/-- After the gateway has made progress the worker is with its call or done with it. -/
theorem shift_afterGateway (h next : House) {name : Nat} {stamp : Stamp} {job : Job}
    {progress : Progress} (hstanding : next.governed.traffic.standing ⟨name⟩ = progress)
    (hsettings : next.settings = h.settings) :
    (next.goOn name (next.workshop.afterGateway h.settings.summaryKeys stamp job progress)).shift =
      h.shift.goOn (next.workshop.afterGateway h.settings.summaryKeys stamp job progress) ∧
    (next.goOn name
      (next.workshop.afterGateway h.settings.summaryKeys stamp job progress)).Manned := by
  cases progress with
  | answered outcome => exact shift_closes (next.workshop.closes_acknowledge ..) hsettings
  | broken =>
      refine shift_goOn rfl rfl ?_ ?_ hsettings
      · exact fun job stage hwork => by contradiction
      · exact fun job execution hwork => by contradiction
  | waiting stage =>
      refine shift_goOn rfl rfl ?_ ?_ hsettings
      · intro other found hwork
        cases hwork
        simp only [Traffic.standing] at hstanding
        split at hstanding
        next found hfound => rw [hfound, Progress.waiting.inj hstanding]
        next => split at hstanding <;> contradiction
      · exact fun other execution hwork => by cases hwork

/-- A reply to the call of the worker is an answer to its work. -/
theorem shift_forwarded (hmanned : h.Manned) {job : Job} {name : Nat}
    (hpost : h.post = .writing job name) {action : Governed.Action} {stamp : Stamp} {reply : Reply}
    (hmoved : h.governed.moved? regime action = some (.reply ⟨name⟩ stamp reply)) :
    (h.step regime (.governance action)).shift =
        h.shift.step (.reply stamp (.forwarded reply)) ∧
      (h.step regime (.governance action)).Manned := by
  obtain ⟨stage, hstage, hstation⟩ := hmanned.station_writing hpost
  have htraffic := Governed.traffic_perform regime h.governed action
  simp only [hmoved] at htraffic
  rw [step_governance regime h hpost action rfl, shift_step_reply hstation,
    Governed.stamp_of_moved hmoved]
  by_cases hexpects : stage.awaits.expects reply
  · obtain ⟨hgateway, hstanding⟩ := Traffic.step_reply hstage hexpects stamp
    rw [← htraffic] at hgateway hstanding
    have hworkshop : h.shift.workshop.answered h.shift.limit stamp (.writing job stage)
        (.forwarded reply) =
        ({ h with governed := h.governed.perform regime action } : House).workshop.afterGateway
          h.settings.summaryKeys stamp job
          (h.governed.traffic.gateway.resume stamp stage reply).2 := by
      simp only [Workshop.answered, Workshop.replied, shift, workshop, hgateway]
    rw [if_pos (show (Work.writing job stage).expects (.forwarded reply) from hexpects), hworkshop]
    simp only [hstanding]
    exact h.shift_afterGateway _ hstanding rfl
  · have hsame : (h.governed.perform regime action).traffic = h.governed.traffic := by
      rw [htraffic]
      simp only [Traffic.step, hstage, hexpects, Bool.false_eq_true, if_false]
    have hstanding : (h.governed.perform regime action).traffic.standing ⟨name⟩ =
        .waiting stage := by
      rw [hsame]
      exact Traffic.standing_of_inFlight hstage
    rw [if_neg (show ¬ (Work.writing job stage).expects (.forwarded reply) from hexpects)]
    simp only [hstanding]
    obtain ⟨hshift, hnext⟩ := h.shift_afterGateway
      { h with governed := h.governed.perform regime action } hstanding rfl
    refine ⟨hshift.trans ?_, hnext⟩
    simp only [Workshop.afterGateway, workshop, hsame, Shift.goOn, Shift.stationAfter, shift,
      hstation]

/-- A call of the worker that is dropped takes the worker with it. -/
theorem shift_dropped (hmanned : h.Manned) {job : Job} {name : Nat}
    (hpost : h.post = .writing job name) {action : Governed.Action} {now : Moment}
    (hmoved : h.governed.moved? regime action = some (.drop ⟨name⟩ now)) :
    (h.step regime (.governance action)).shift = h.shift.step (.breakDown now) ∧
      (h.step regime (.governance action)).Manned := by
  obtain ⟨stage, hstage, hstation⟩ := hmanned.station_writing hpost
  have htraffic := Governed.traffic_perform regime h.governed action
  simp only [hmoved] at htraffic
  obtain ⟨hgateway, hstanding⟩ := Traffic.step_drop hstage now
  rw [← htraffic] at hgateway hstanding
  rw [step_governance regime h hpost action rfl]
  simp only [hstanding]
  obtain ⟨hshift, hnext⟩ := h.shift_afterGateway
    { h with governed := h.governed.perform regime action } hstanding rfl
  refine ⟨hshift.trans ?_, hnext⟩
  rw [shift_step_breakDown hstation]
  simp only [Workshop.afterGateway, Shift.goOn, Shift.stationAfter, shift, workshop,
    Workshop.abandon, hgateway]

/-- Whatever happens to the gateway that is no reply to the worker leaves it where it is. -/
theorem shift_governed (hmanned : h.Manned) (action : Governed.Action)
    (hconcerns : ∀ job name moved, h.post = .writing job name →
      h.governed.moved? regime action = some moved → moved.concerns ⟨name⟩ = false) :
    (h.step regime (.governance action)).shift =
        h.shift.step (h.step regime (.governance action)).elsewhere ∧
      (h.step regime (.governance action)).Manned := by
  have hcalls : ∀ job name, h.post = .writing job name →
      (h.governed.perform regime action).traffic.calls.get? ⟨name⟩ =
        h.governed.traffic.calls.get? ⟨name⟩ := by
    intro job name hpost
    obtain ⟨stage, hstage⟩ := hmanned.writing job name hpost
    rw [Governed.traffic_perform]
    cases hmoved : h.governed.moved? regime action with
    | none => rfl
    | some moved =>
        simp only
        rw [Traffic.get?_step_of_not_concerns hstage (hconcerns job name moved hpost hmoved),
          hstage]
  have hheard : h.step regime (.governance action) =
      { h with governed := h.governed.perform regime action } := by
    cases hpost : h.post with
    | writing job name =>
        obtain ⟨stage, hstage⟩ := hmanned.writing job name hpost
        have hstanding := Traffic.standing_of_inFlight ((hcalls job name hpost).trans hstage)
        rw [step_governance regime h hpost action rfl]
        simp only [hstanding, Workshop.afterGateway, goOn, workshop, Post.after]
    | _ => simp only [step, hear, hpost]
  rw [hheard]
  exact shift_aside hmanned rfl hcalls (fun _ _ _ _ hholds => hholds) rfl rfl
    (h.terms_perform regime action)

/-- A worker that waits for neither a call nor an execution lacks nothing. -/
theorem manned_of_free (hwriting : ∀ job name, h.post ≠ .writing job name)
    (hexecuting : ∀ job name, h.post ≠ .executing job name) : h.Manned where
  writing job name hpost := absurd hpost (hwriting job name)
  executing job name hpost := absurd hpost (hexecuting job name)

/-- Whatever happens to the router that does not end the execution of the worker leaves it where it
is. -/
theorem shift_agents (hmanned : h.Manned) {action : Deployment.Action}
    (hconcerns : ∀ job name, h.post = .executing job name → action.concerns ⟨name⟩ = false)
    {next : House} (hnext : next = { h with deployment := h.deployment.step action }) :
    next.shift = h.shift.step next.elsewhere ∧ next.Manned := by
  subst hnext
  refine shift_aside hmanned rfl (fun _ _ _ => rfl) ?_ rfl rfl ?_
  · exact fun job name execution hpost hholds => hholds.step (hconcerns job name hpost)
  · exact congrArg (Prod.mk _) (h.deployment.policy_step action)

/-- An execution of the worker that is dropped takes the worker with it. -/
theorem shift_abandoned (hmanned : h.Manned) {job : Job} {name : Nat}
    (hpost : h.post = .executing job name) (now : Moment) {next : House}
    (hnext : next =
      { h with deployment := h.deployment.step (.drop ⟨name⟩ now), post := .absent }) :
    next.shift = h.shift.step (.breakDown now) ∧ next.Manned := by
  obtain ⟨execution, hholds, hstation⟩ := hmanned.station_executing hpost
  subst hnext
  refine ⟨?_, manned_of_free (by simp) (by simp)⟩
  rw [shift_step_breakDown hstation]
  simp only [shift, workshop, station, Workshop.abandon, Deployment.step, hholds.underWay]

/-- The worker finds another queue. -/
theorem shift_queue {next : House} (hmanned : h.Manned) (hgoverned : next.governed = h.governed)
    (hdeployment : next.deployment = h.deployment) (hpost : next.post = h.post)
    (hsettings : next.settings = h.settings) :
    next.shift = h.shift.withQueue next.queue ∧ next.Manned := by
  refine ⟨?_, ?_, ?_⟩
  · simp only [shift, workshop, station, hgoverned, hdeployment, hpost, hsettings, Shift.withQueue]
  · simpa only [hgoverned, hpost] using hmanned.writing
  · simpa only [hdeployment, hpost] using hmanned.executing

/-- What happens to the executions of others does not end that of the worker. -/
theorem concerns_of_not_awaits {ticket : Ticket} (hawaits : ¬ h.post.awaits ticket) {job : Job}
    {name : Nat} (hpost : h.post = .executing job name) : ticket ≠ ⟨name⟩ := by
  rintro rfl
  simp [hpost, Post.awaits] at hawaits

theorem shift_submit (hmanned : h.Manned) {waiter : WaiterId}
    (hwaits : h.waiting.contains waiter = false)
    (stamp : Stamp) (submission : Submission) (now : Nat) :
    (h.step regime (.submit waiter stamp submission now)).shift =
      h.shift.step (.submit stamp submission.kind submission.payload submission.execution
        (submission.maxAttempts.getD h.settings.defaultMaxAttempts)) ∧
      (h.step regime (.submit waiter stamp submission now)).Manned := by
  have hqueue : h.shift.queue = h.queue := rfl
  simp only [step, Shift.step, hwaits, Bool.or_false, hqueue]
  split
  · exact ⟨rfl, hmanned⟩
  · split
    · obtain ⟨waiting, responses, hsee⟩ := see_eq
        { h with queue := (submission.enqueue h.settings h.queue stamp).2 } waiter
        ⟨(submission.enqueue h.settings h.queue stamp).1, now + submission.patience h.settings⟩ now
      rw [hsee]
      exact shift_queue hmanned rfl rfl rfl rfl
    · exact shift_queue hmanned rfl rfl rfl rfl

theorem shift_cancel (hmanned : h.Manned) (id : JobId) (now : Moment) :
    (h.step regime (.cancel id now)).shift = h.shift.step (.cancel id now) ∧
      (h.step regime (.cancel id now)).Manned := by
  have hqueue : h.shift.queue = h.queue := rfl
  simp only [step, Shift.step, hqueue]
  cases h.queue.cancel id now with
  | ok after => exact shift_queue hmanned rfl rfl rfl rfl
  | error e => exact ⟨rfl, hmanned⟩

theorem shift_engage (hmanned : h.Manned) :
    (h.step regime .engage).shift = h.shift.step .start ∧ (h.step regime .engage).Manned := by
  cases hpost : h.post with
  | absent =>
      simp only [step, hpost]
      refine ⟨?_, manned_of_free (by simp) (by simp)⟩
      simp only [shift, workshop, station, hpost, Shift.step]
  | writing job name =>
      obtain ⟨stage, hstage, hstation⟩ := hmanned.station_writing hpost
      simp only [step, hpost]
      exact ⟨by simp only [shift, hstation, Shift.step], hmanned⟩
  | executing job name =>
      obtain ⟨execution, hholds, hstation⟩ := hmanned.station_executing hpost
      simp only [step, hpost]
      exact ⟨by simp only [shift, hstation, Shift.step], hmanned⟩
  | _ =>
      simp only [step, hpost]
      exact ⟨by simp only [shift, station, hpost, Shift.step], hmanned⟩

theorem shift_dismiss (hmanned : h.Manned) (now : Moment) :
    (h.step regime (.dismiss now)).shift = h.shift.step (.stop now) ∧
      (h.step regime (.dismiss now)).Manned := by
  cases hpost : h.post with
  | writing job name =>
      obtain ⟨stage, hstage, hstation⟩ := hmanned.station_writing hpost
      obtain ⟨hgateway, -⟩ := Traffic.step_drop hstage now
      simp only [step, hpost]
      refine ⟨?_, manned_of_free (by simp) (by simp)⟩
      rw [Shift.step, shift_leave hstation]
      simp only [shift, workshop, station, Governed.move, Workshop.abandon, hgateway]
  | executing job name =>
      obtain ⟨execution, hholds, hstation⟩ := hmanned.station_executing hpost
      simp only [step, hpost]
      refine ⟨?_, manned_of_free (by simp) (by simp)⟩
      rw [Shift.step, shift_leave hstation]
      simp only [shift, workshop, station, Workshop.abandon, Deployment.step, hholds.underWay]
  | _ =>
      simp only [step, hpost]
      refine ⟨?_, manned_of_free (by simp) (by simp)⟩
      simp only [shift, workshop, station, hpost, Shift.step, Shift.leave, Workshop.abandon]

theorem shift_claim (hmanned : h.Manned) (now : Moment) :
    (h.step regime (.claim now)).shift = h.shift.step (.claim now) ∧
      (h.step regime (.claim now)).Manned := by
  have hqueue : h.shift.queue = h.queue := rfl
  cases hpost : h.post with
  | idle =>
      have hstation : h.shift.station = .idle := by simp only [shift, station, hpost]
      simp only [step, hpost, Shift.step, hstation, hqueue]
      rcases h.queue.claim now with ⟨_ | job, queue⟩
      · refine ⟨?_, manned_of_free (by simp) (by simp)⟩
        simp only [shift, workshop, station, hpost, Governed.move, Traffic.step]
      · refine ⟨?_, manned_of_free (by simp) (by simp)⟩
        simp only [shift, workshop, station, Shift.withQueue]
  | writing job name =>
      obtain ⟨stage, hstage, hstation⟩ := hmanned.station_writing hpost
      simp only [step, hpost]
      exact ⟨by simp only [shift, hstation, Shift.step], hmanned⟩
  | executing job name =>
      obtain ⟨execution, hholds, hstation⟩ := hmanned.station_executing hpost
      simp only [step, hpost]
      exact ⟨by simp only [shift, hstation, Shift.step], hmanned⟩
  | _ =>
      simp only [step, hpost]
      exact ⟨by simp only [shift, station, hpost, Shift.step], hmanned⟩

/-- The worker turns to the gateway with a write, or has it that there is none. -/
theorem shift_begin_write (h : House) {name : Nat} (hnew : h.governed.traffic.isNew ⟨name⟩)
    (env : Environment) (stamp : Stamp) {job : Job} (hkind : job.kind = .writeExecute) :
    ((h.turnTo name env stamp job).goOn name
        (h.workshop.start env h.settings.summaryKeys stamp job)).shift =
      h.shift.goOn (h.workshop.start env h.settings.summaryKeys stamp job) ∧
    ((h.turnTo name env stamp job).goOn name
      (h.workshop.start env h.settings.summaryKeys stamp job)).Manned := by
  cases hwrite : Workshop.writeOf stamp job with
  | error fault =>
      simp only [turnTo, Workshop.start, hkind, hwrite]
      exact shift_closes (h.workshop.closes_refuse stamp job fault) rfl
  | ok envelope =>
      obtain ⟨hgateway, hstanding⟩ := Traffic.step_request hnew stamp envelope true
      simp only [turnTo, Workshop.start, hkind, hwrite]
      have hworkshop : ({ h with
          governed := h.governed.move (.request ⟨name⟩ stamp envelope true) } :
          House).workshop = h.workshop := by
        simp only [workshop, Governed.move, hgateway]
      rw [← hworkshop]
      exact shift_afterGateway h _ hstanding rfl

theorem shift_begin_agent (h : House) {name : Nat} (hnew : h.deployment.isNew ⟨name⟩)
    (env : Environment) (stamp : Stamp) {job : Job} (hkind : job.kind = .agentExecute) :
    ((h.turnTo name env stamp job).goOn name
        (h.workshop.start env h.settings.summaryKeys stamp job)).shift =
      h.shift.goOn (h.workshop.start env h.settings.summaryKeys stamp job) ∧
    ((h.turnTo name env stamp job).goOn name
      (h.workshop.start env h.settings.summaryKeys stamp job)).Manned := by
  cases hnames : Workshop.namesCommand job.payload with
  | false =>
      simp only [turnTo, Workshop.start, hkind, hnames, Bool.not_false, if_true]
      exact shift_closes (h.workshop.closes_refuse stamp job _) rfl
  | true =>
      simp only [turnTo, Workshop.start, hkind, hnames, Bool.not_true, Bool.false_eq_true, if_false,
        Deployment.step, hnew, if_true, workshop]
      cases hexecute : h.deployment.router.execute env stamp job.payload with
      | mk router dispatch =>
          cases dispatch with
          | reported report =>
              exact shift_closes (Workshop.closes_acknowledge _ h.settings.summaryKeys stamp job
                report.toJson) rfl
          | running execution =>
              refine shift_goOn rfl rfl ?_ ?_ rfl
              · exact fun other stage hwork => by cases hwork
              · intro other found hwork
                cases hwork
                refine ⟨?_, ?_⟩
                · rw [Table.get?_put, if_pos rfl]
                · simp [Deployment.isNew, AgentEvent.ticket?]

/-- Who waits and what was answered is nothing to the worker. -/
theorem shift_unseen (hmanned : h.Manned) (waiting : Table WaiterId Waiting)
    (responses : List (WaiterId × SubmitResponse)) {next : House}
    (hnext : next = { h with waiting := waiting, responses := responses }) :
    next.shift = h.shift.step next.elsewhere ∧ next.Manned := by
  subst hnext
  exact shift_aside hmanned rfl (fun _ _ _ => rfl) (fun _ _ _ _ hholds => hholds) rfl rfl rfl

theorem shift_still (hmanned : h.Manned) : h.shift = h.shift.step h.elsewhere ∧ h.Manned :=
  shift_unseen hmanned h.waiting h.responses rfl

/-- A worker that has no job at hand cannot begin one. -/
theorem shift_step_begin {s : Shift} (hstation : ∀ job, s.station ≠ .handed job)
    (env : Environment) (stamp : Stamp) : s.step (.begin env stamp) = s := by
  cases hat : s.station with
  | handed job => exact absurd hat (hstation job)
  | _ => simp only [Shift.step, hat]

theorem shift_begin (hmanned : h.Manned) (name : Nat) (env : Environment) (stamp : Stamp) :
    (h.step regime (.begin name env stamp)).shift =
        h.shift.step (h.shadow regime (.begin name env stamp)) ∧
      (h.step regime (.begin name env stamp)).Manned := by
  by_cases hnew : h.governed.traffic.isNew ⟨name⟩ && h.deployment.isNew ⟨name⟩
  case neg =>
    have hsame : h.step regime (.begin name env stamp) = h := by
      simp only [step, if_neg hnew]
      split <;> rfl
    rw [hsame, shadow, if_neg hnew]
    exact shift_still hmanned
  case pos =>
    rw [shadow, if_pos hnew]
    obtain ⟨hcall, hticket⟩ := Bool.and_eq_true_iff.mp hnew
    by_cases hat : ∃ job, h.post = .handed job
    · obtain ⟨job, hpost⟩ := hat
      have hstation : h.shift.station = .handed job := by simp only [shift, station, hpost]
      simp only [step, hpost, hnew, if_true, Shift.step, hstation]
      cases hkind : job.kind with
      | writeExecute => exact h.shift_begin_write hcall env stamp hkind
      | agentExecute => exact h.shift_begin_agent hticket env stamp hkind
      | other kind =>
          simp only [turnTo, Workshop.start, hkind]
          exact shift_closes (h.workshop.closes_refuse stamp job _) rfl
    · have hsame : h.step regime (.begin name env stamp) = h := by
        simp only [step]
        split
        next job hpost => exact absurd ⟨job, hpost⟩ hat
        next => rfl
      rw [hsame, shift_step_begin fun job hstation => hat ⟨job, post_of_handed hstation⟩]
      exact ⟨rfl, hmanned⟩

/-- A worker that does not wait for such an answer does not go on by it. -/
theorem shift_step_unexpected {s : Shift} {reply : WorkReply}
    (hstation : ∀ work, s.station = .busy work → work.expects reply = false) (stamp : Stamp) :
    s.step (.reply stamp reply) = s := by
  simp only [Shift.step]
  split
  next work hat => simp [hstation work hat]
  next => rfl

/-- The adapter answers that the worker waits for. -/
theorem shift_report (hmanned : h.Manned) (stamp : Stamp) (answer : Except Fault Json) :
    (h.step regime (.report stamp answer)).shift =
        h.shift.step (.reply stamp (.executed answer)) ∧
      (h.step regime (.report stamp answer)).Manned := by
  by_cases hat : ∃ job name, h.post = .executing job name
  · obtain ⟨job, name, hpost⟩ := hat
    obtain ⟨execution, hholds, hstation⟩ := hmanned.station_executing hpost
    have hdeployment : h.step regime (.report stamp answer) =
        { h with deployment := h.deployment.step (.answer ⟨name⟩ stamp.now answer) }.goOn name
          (h.workshop.executed h.settings.summaryKeys stamp job execution answer) := by
      simp only [step, hpost, hholds.underWay]
    have hrouter : (h.deployment.step (.answer ⟨name⟩ stamp.now answer)).router =
        (h.deployment.router.finished execution stamp.now answer).1 := by
      simp only [Deployment.step, hholds.underWay]
    rw [hdeployment, shift_step_reply hstation, if_pos (by rfl)]
    change _ = h.shift.goOn (h.workshop.executed ..) ∧ _
    simp only [Workshop.executed]
    cases hfinished : h.workshop.router.finished execution stamp.now answer with
    | mk router report =>
        obtain rfl : (h.deployment.step (.answer ⟨name⟩ stamp.now answer)).router = router :=
          hrouter.trans (congrArg Prod.fst hfinished)
        cases report with
        | some report => exact shift_closes (Workshop.closes_acknowledge ..) rfl
        | none =>
            refine shift_goOn rfl rfl ?_ ?_ rfl
            · exact fun other stage hwork => by cases hwork
            · exact fun other found hwork => by cases hwork
  · have hsame : h.step regime (.report stamp answer) = h := by
      simp only [step]
      split
      next job name hpost => exact absurd ⟨job, name, hpost⟩ hat
      next => rfl
    rw [hsame, shift_step_unexpected]
    · exact ⟨rfl, hmanned⟩
    · intro work hwork
      rcases post_of_busy hwork with ⟨_, _, _, _, rfl⟩ | ⟨job, name, _, hpost, _⟩ | ⟨_, _, rfl⟩
      · rfl
      · exact absurd ⟨job, name, hpost⟩ hat
      · rfl

theorem shift_record (hmanned : h.Manned) (stamp : Stamp) (accepted : Bool) :
    (h.step regime (.record accepted)).shift = h.shift.step (.reply stamp (.recorded accepted)) ∧
      (h.step regime (.record accepted)).Manned := by
  by_cases hat : ∃ event, h.post = .recording event
  · obtain ⟨event, hpost⟩ := hat
    have hstation : h.shift.station = .busy (.recording event) := by
      simp only [shift, station, hpost]
    rw [shift_step_reply hstation, if_pos (by rfl)]
    simp only [step, hpost]
    exact ⟨rfl, manned_of_free (by simp) (by simp)⟩
  · have hsame : h.step regime (.record accepted) = h := by
      simp only [step]
      split
      next event hpost => exact absurd ⟨event, hpost⟩ hat
      next => rfl
    rw [hsame, shift_step_unexpected]
    · exact ⟨rfl, hmanned⟩
    · intro work hwork
      rcases post_of_busy hwork with ⟨_, _, stage, _, rfl⟩ | ⟨_, _, _, _, rfl⟩ | ⟨event, hpost, _⟩
      · rfl
      · rfl
      · exact absurd ⟨event, hpost⟩ hat

/-- Whatever happens in the house is one step of a shift for its worker. -/
theorem shift_step (hmanned : h.Manned) (regime : Regime) (action : Action) :
    (h.step regime action).shift = h.shift.step (h.shadow regime action) ∧
      (h.step regime action).Manned := by
  cases action with
  | governance governed =>
      simp only [shadow]
      split
      next job name call stamp reply hpost hmoved =>
        split
        next hcall =>
          subst hcall
          exact shift_forwarded hmanned hpost hmoved
        next hcall =>
          refine shift_governed hmanned governed fun other own moved hat hact => ?_
          rw [hpost] at hat
          cases hat
          rw [hmoved] at hact
          cases hact
          simpa [Traffic.Action.concerns] using hcall
      next job name call now hpost hmoved =>
        split
        next hcall =>
          subst hcall
          exact shift_dropped hmanned hpost hmoved
        next hcall =>
          refine shift_governed hmanned governed fun other own moved hat hact => ?_
          rw [hpost] at hat
          cases hat
          rw [hmoved] at hact
          cases hact
          simpa [Traffic.Action.concerns] using hcall
      next hreply hdrop =>
        refine shift_governed hmanned governed fun job name moved hat hact => ?_
        cases moved with
        | reply call stamp reply => exact absurd hact (hreply job name call stamp reply hat)
        | drop call now => exact absurd hact (hdrop job name call now hat)
        | _ => rfl
  | agents action =>
      cases action with
      | answer ticket now answer =>
          simp only [shadow, step]
          split
          next => exact shift_still hmanned
          next hawaits =>
            refine shift_agents hmanned (fun job name hpost => ?_) rfl
            simpa [Deployment.Action.concerns] using concerns_of_not_awaits hawaits hpost
      | drop ticket now =>
          simp only [shadow, step]
          split
          next hawaits =>
            obtain ⟨job, name, hpost, rfl⟩ := Post.of_awaits hawaits
            exact shift_abandoned hmanned hpost now rfl
          next hawaits =>
            refine shift_agents hmanned (fun job name hpost => ?_) rfl
            simpa [Deployment.Action.concerns] using concerns_of_not_awaits hawaits hpost
      | _ => exact shift_agents hmanned (fun _ _ _ => rfl) rfl
  | submit waiter stamp submission now =>
      simp only [shadow]
      split
      next hwaits =>
        simp only [step, hwaits, Bool.or_true, if_true]
        exact shift_still hmanned
      next hwaits => exact shift_submit hmanned (Bool.not_eq_true _ ▸ hwaits) stamp submission now
  | look waiter now =>
      simp only [shadow, step]
      split
      next waiting hwaiting =>
        obtain ⟨waiting', responses, hsee⟩ := h.see_eq waiter waiting now
        rw [hsee]
        exact shift_unseen hmanned waiting' responses rfl
      next => exact shift_still hmanned
  | leave waiter => exact shift_unseen hmanned _ _ rfl
  | cancel id now => exact shift_cancel hmanned id now
  | engage => exact shift_engage hmanned
  | dismiss now => exact shift_dismiss hmanned now
  | claim now => exact shift_claim hmanned now
  | begin name env stamp => exact shift_begin hmanned name env stamp
  | report stamp answer => exact shift_report hmanned stamp answer
  | record accepted => exact shift_record hmanned _ accepted

theorem manned_start (regime : Regime) (ttl : Span) (router : Router)
    (settings : OrchestratorSettings) : (start regime ttl router settings).Manned :=
  manned_of_free (by simp [start]) (by simp [start])

/-- What the worker waits for is under way, the queue is in order, and the job in hand is that of a
record. -/
structure Kept (h : House) : Prop where
  manned : h.Manned
  working : h.shift.Working

theorem kept_start (regime : Regime) (ttl : Span) (router : Router)
    (settings : OrchestratorSettings) : (start regime ttl router settings).Kept :=
  ⟨manned_start .., Shift.working_start ..⟩

/-- Whatever happens in the house, its worker makes one step of a shift. -/
theorem Kept.step (hkept : h.Kept) (regime : Regime) (action : Action) :
    h.shift.Step (h.shadow regime action) (h.step regime action).shift := by
  rw [(shift_step hkept.manned regime action).1]
  exact Shift.step_cases hkept.working.fitting _

theorem kept_step (hkept : h.Kept) (regime : Regime) (action : Action) :
    (h.step regime action).Kept where
  manned := (shift_step hkept.manned regime action).2
  working := (hkept.step regime action).working hkept.working

/-- What holds at the start and is kept by every step of a house whose worker is kept holds
throughout a run. -/
theorem run_keeps {holds : House → Prop}
    (hkeeps : ∀ {h : House} (action : Action), h.Kept → holds h → holds (h.step regime action))
    (hkept : h.Kept) (hholds : holds h) (actions : List Action) :
    (h.run regime actions).Kept ∧ holds (h.run regime actions) := by
  induction actions generalizing h with
  | nil => exact ⟨hkept, hholds⟩
  | cons action rest ih => exact ih (kept_step hkept regime action) (hkeeps action hkept hholds)

end House

end Gatehouse
