import Gatehouse.Proofs.Job.Index
import Gatehouse.Proofs.Orchestrator.HouseShift

/-! # Where the results of the house come from

The result of a job that asks for a write is the answer to a call, and that call
requested the very write. A job that has a result is over and keeps it, so
whoever was given a result was given that of the job. What is known of the call
that the worker waits for carries this from one step to the next.
-/

namespace Gatehouse

namespace Job

/-- Two jobs ask for the same. -/
structure Alike (job other : Job) : Prop where
  kind : other.kind = job.kind
  payload : other.payload = job.payload
  execution : other.execution = job.execution

theorem Passes.alike {job after : Job} (hpasses : job.Passes after) : job.Alike after :=
  ⟨hpasses.kind_eq, hpasses.payload_eq, hpasses.execution_eq⟩

theorem Alike.refl (job : Job) : job.Alike job := ⟨rfl, rfl, rfl⟩

theorem Alike.trans {job other third : Job} (hfirst : job.Alike other)
    (hsecond : other.Alike third) : job.Alike third where
  kind := hsecond.kind.trans hfirst.kind
  payload := hsecond.payload.trans hfirst.payload
  execution := hsecond.execution.trans hfirst.execution

theorem Alike.symm {job other : Job} (halike : job.Alike other) : other.Alike job :=
  ⟨halike.kind.symm, halike.payload.symm, halike.execution.symm⟩

/-- A call requested the write that a job asks for. -/
def RequestedBy (job : Job) (history : List GatewayEvent) (call : CallId) : Prop :=
  ∃ stamp envelope, Workshop.writeOf stamp job = .ok envelope ∧ .requested call envelope ∈ history

theorem RequestedBy.mono {job : Job} {history later : List GatewayEvent} {call : CallId}
    (hrequested : job.RequestedBy history call) (hgrown : history <+: later) :
    job.RequestedBy later call := by
  obtain ⟨stamp, envelope, hwrite, hmem⟩ := hrequested
  exact ⟨stamp, envelope, hwrite, hgrown.subset hmem⟩

theorem RequestedBy.alike {job other : Job} {history : List GatewayEvent} {call : CallId}
    (hrequested : job.RequestedBy history call) (halike : job.Alike other) :
    other.RequestedBy history call := by
  obtain ⟨stamp, envelope, hwrite, hmem⟩ := hrequested
  refine ⟨stamp, envelope, ?_, hmem⟩
  rwa [Workshop.writeOf, halike.payload, halike.execution]

/-- The result is the answer to a call that requested the write of a job. -/
def AnsweredWith (job : Job) (history : List GatewayEvent) (result : Json) : Prop :=
  ∃ call outcome, job.RequestedBy history call ∧ .answered call outcome ∈ history ∧
    result = outcome.toJson

theorem AnsweredWith.mono {job : Job} {history later : List GatewayEvent} {result : Json}
    (hanswered : job.AnsweredWith history result) (hgrown : history <+: later) :
    job.AnsweredWith later result := by
  obtain ⟨call, outcome, hrequested, hmem, hresult⟩ := hanswered
  exact ⟨call, outcome, hrequested.mono hgrown, hgrown.subset hmem, hresult⟩

theorem AnsweredWith.alike {job other : Job} {history : List GatewayEvent} {result : Json}
    (hanswered : job.AnsweredWith history result) (halike : job.Alike other) :
    other.AnsweredWith history result := by
  obtain ⟨call, outcome, hrequested, hmem, hresult⟩ := hanswered
  exact ⟨call, outcome, hrequested.alike halike, hmem, hresult⟩

end Job

namespace JobQueue

variable {q next : JobQueue}

/-- Every result in the next queue was in this one before or is new and of the kind described. -/
def Yields (q next : JobQueue) (fresh : JobId → Json → Prop) : Prop :=
  ∀ id after result, next.get? id = some after → after.result = some result →
    fresh id result ∨ ∃ before, q.get? id = some before ∧ before.result = some result

variable {fresh other : JobId → Json → Prop}

theorem Yields.imp (hyields : q.Yields next fresh)
    (himp : ∀ {id result}, fresh id result → other id result) : q.Yields next other :=
  fun id after result hafter hresult => (hyields id after result hafter hresult).imp_left himp

theorem Yields.same (hjobs : next.jobs = q.jobs) : q.Yields next fresh := by
  intro id after result hafter hresult
  refine .inr ⟨after, ?_, hresult⟩
  rwa [get?, ← hjobs]

/-- One record was replaced, and its result is the one it had or is new. -/
theorem Yields.update (htidy : q.Tidy) {id : JobId} {before after : Job}
    (hbefore : q.get? id = some before) (hid : after.id = before.id)
    (hresult : ∀ result, after.result = some result →
      fresh id result ∨ before.result = some result) :
    q.Yields (q.update after) fresh := by
  intro found record result hfound hrecord
  rcases htidy.of_update hbefore hid hfound with ⟨rfl, rfl⟩ | ⟨_, hkept⟩
  · exact (hresult result hrecord).imp_right fun hsame => ⟨before, hbefore, hsame⟩
  · exact .inr ⟨record, hkept, hrecord⟩

theorem yields_ack (htidy : q.Tidy) {id : JobId} {result : Json} {now : Moment}
    {after : Job × JobQueue} (hack : q.ack id result now = .ok after) :
    q.Yields after.2 fun name value => name = id ∧ value = result := by
  rcases q.ack_cases id result now with ⟨error, herror, _⟩ | ⟨job, hjob, _, hok⟩
  · rw [herror] at hack
    contradiction
  · obtain rfl := Except.ok.inj (hok.symm.trans hack)
    refine .update htidy hjob rfl fun value hvalue => ?_
    exact .inl ⟨rfl, (Option.some.inj hvalue).symm⟩

theorem yields_nack (htidy : q.Tidy) {id : JobId} {error : String} {now : Moment}
    {after : Job × JobQueue} (hnack : q.nack id error now = .ok after) :
    q.Yields after.2 fresh := by
  rcases q.nack_cases id error now with
    ⟨failure, hfailure, _⟩ | ⟨job, hjob, _, ⟨_, hok⟩ | ⟨_, hok⟩⟩
  · rw [hfailure] at hnack
    contradiction
  · obtain rfl := Except.ok.inj (hok.symm.trans hnack)
    exact .update htidy hjob rfl fun _ => .inr
  · obtain rfl := Except.ok.inj (hok.symm.trans hnack)
    exact .update htidy hjob rfl fun _ => .inr

theorem yields_cancel (htidy : q.Tidy) {id : JobId} {now : Moment} {after : Job × JobQueue}
    (hcancel : q.cancel id now = .ok after) : q.Yields after.2 fresh := by
  unfold cancel at hcancel
  split at hcancel
  next => contradiction
  next job hjob =>
    split at hcancel
    · contradiction
    · obtain rfl := Except.ok.inj hcancel
      exact .update htidy hjob rfl fun _ => .inr

theorem yields_claim (htidy : q.Tidy) (now : Moment) : q.Yields (q.claim now).2 fresh := by
  rcases q.claim_cases now with ⟨hclaim, _⟩ | ⟨id, rest, before, _, hbefore, _, hclaim⟩
  · rw [hclaim]
    exact .same rfl
  · rw [hclaim]
    exact Yields.update (q := q) htidy hbefore rfl fun _ => .inr

theorem yields_enqueue (stamp : Stamp) (kind : JobKind) (payload : Json)
    (execution : Option String) (maxAttempts : Nat) :
    q.Yields (q.enqueue stamp kind payload execution maxAttempts).2 fresh := by
  unfold enqueue
  split
  next => exact .same rfl
  next =>
    intro id after result hafter hresult
    rw [get?_add] at hafter
    split at hafter
    next =>
      obtain rfl := Option.some.inj hafter
      contradiction
    next => exact .inr ⟨after, hafter, hresult⟩

/-- A job that has a result keeps it. -/
theorem Flows.result_kept (hflows : q.Flows next) (horderly : q.Orderly) {id : JobId} {job : Job}
    (hjob : q.get? id = some job) {result : Json} (hresult : job.result = some result) :
    ∃ after, next.get? id = some after ∧ after.result = some result := by
  obtain ⟨after, hafter, rfl | hpasses⟩ := hflows.kept horderly hjob
  · exact ⟨after, hafter, hresult⟩
  · -- A job with a result has succeeded, and that is for good.
    have hsucceeded := (horderly.sound hjob).result (by simp [hresult])
    exact absurd hpasses.not_terminal (by simp [hsucceeded, JobStatus.isTerminal])

theorem Flows.alike_kept (hflows : q.Flows next) (horderly : q.Orderly) {id : JobId} {job : Job}
    (hjob : q.get? id = some job) : ∃ after, next.get? id = some after ∧ job.Alike after := by
  obtain ⟨after, hafter, rfl | hpasses⟩ := hflows.kept horderly hjob
  · exact ⟨after, hafter, .refl after⟩
  · exact ⟨after, hafter, hpasses.alike⟩

end JobQueue

namespace Workshop

variable {w : Workshop} {fresh : JobId → Json → Prop}

theorem yields_acknowledge (htidy : w.queue.Tidy) (limit : Nat) (stamp : Stamp) (job : Job)
    (result : Json) : w.queue.Yields (w.acknowledge limit stamp job result).1.queue
      fun id value => id = job.id ∧ value = result := by
  unfold acknowledge
  split
  next => exact .same rfl
  next hack => exact JobQueue.yields_ack htidy hack

theorem yields_refuse (htidy : w.queue.Tidy) (stamp : Stamp) (job : Job) (fault : Fault) :
    w.queue.Yields (w.refuse stamp job fault).1.queue fresh := by
  unfold refuse
  split
  next => exact .same rfl
  next hnack => exact JobQueue.yields_nack htidy hnack

theorem yields_afterGateway (htidy : w.queue.Tidy) (limit : Nat) (stamp : Stamp) (job : Job)
    (progress : Progress) : w.queue.Yields (w.afterGateway limit stamp job progress).1.queue
      fun id result => id = job.id ∧
        ∃ outcome, progress = .answered outcome ∧ result = outcome.toJson := by
  cases progress with
  | waiting | broken => exact .same rfl
  | answered outcome =>
      exact (yields_acknowledge htidy limit stamp job _).imp fun ⟨hid, hresult⟩ =>
        ⟨hid, outcome, rfl, hresult⟩

theorem yields_start (htidy : w.queue.Tidy) (env : Environment) (limit : Nat) (stamp : Stamp)
    (job : Job) : w.queue.Yields (w.start env limit stamp job).1.queue
      fun id result => id = job.id ∧ (job.kind = .writeExecute → ∃ envelope outcome,
        writeOf stamp job = .ok envelope ∧ Gateway.request stamp envelope true = .answered outcome ∧
          result = outcome.toJson) := by
  unfold start
  cases hkind : job.kind with
  | agentExecute =>
      simp only
      split
      · exact yields_refuse htidy stamp job _
      · cases w.router.execute env stamp job.payload with
        | mk router dispatch =>
            cases dispatch with
            | reported report =>
                exact (yields_acknowledge (w := { w with router := router }) htidy limit stamp job
                  report.toJson).imp fun ⟨hid, _⟩ => ⟨hid, nofun⟩
            | running execution => exact .same rfl
  | writeExecute =>
      simp only
      split
      next => exact yields_refuse htidy stamp job _
      next envelope hwrite =>
        refine (yields_afterGateway htidy limit stamp job _).imp ?_
        rintro id result ⟨hid, outcome, hanswered, hresult⟩
        exact ⟨hid, fun _ => ⟨envelope, outcome, hwrite, hanswered, hresult⟩⟩
  | other name => exact yields_refuse htidy stamp job _

theorem yields_executed (htidy : w.queue.Tidy) (limit : Nat) (stamp : Stamp) (job : Job)
    (execution : Execution) (answer : Except Fault Json) :
    w.queue.Yields (w.executed limit stamp job execution answer).1.queue
      fun id _ => id = job.id := by
  simp only [executed]
  cases w.router.finished execution stamp.now answer with
  | mk router report =>
      cases report with
      | some report =>
          exact (yields_acknowledge (w := { w with router := router }) htidy limit stamp job
            report.toJson).imp And.left
      | none => exact .same rfl

end Workshop

theorem Traffic.answered_of_standing {s : Traffic} {call : CallId} {outcome : WriteOutcome}
    (hstanding : s.standing call = .answered outcome) : .answered call outcome ∈ s.history := by
  simp only [standing] at hstanding
  split at hstanding
  · contradiction
  · split at hstanding
    next other found hlast =>
      obtain rfl := Progress.answered.inj hstanding
      obtain ⟨hmem, hcall⟩ := List.mem_filter.mp (List.mem_of_getLast? hlast)
      obtain rfl : other = call := Option.some.inj (of_decide_eq_true hcall)
      exact hmem
    · contradiction

theorem Traffic.requested_step {s : Traffic} {call : CallId} (hnew : s.isNew call) (stamp : Stamp)
    (envelope : Envelope) (thenCommit : Bool) :
    .requested call envelope ∈ (s.step (.request call stamp envelope thenCommit)).history := by
  simp [step, hnew, advance]

namespace House

variable {regime : Regime} {h : House} {action : Action}

/-- What could be seen of the gateway so far. -/
def history (h : House) : List GatewayEvent :=
  h.governed.traffic.history

/-- The gateway and the book stay, or go on by one action: what others do to them, or what the
worker does, which passes the guardrails by. -/
theorem governed_step (regime : Regime) (h : House) (action : Action) :
    (h.step regime action).governed = h.governed ∨
      ∃ act, (h.step regime action).governed = h.governed.perform regime act ∧
        (action = .governance act ∨ ∃ moved, act = .gateway moved ∧ regime.leaves moved) := by
  have hstep := step_cases regime h action
  generalize h.step regime action = next at hstep ⊢
  cases hstep with
  | governed act => exact .inr ⟨act, rfl, .inl rfl⟩
  | heard act _ hnext =>
      subst hnext
      exact .inr ⟨act, rfl, .inl rfl⟩
  | hungUp now name => exact .inr ⟨.gateway (.drop ⟨name⟩ now), rfl, .inr ⟨_, rfl, rfl⟩⟩
  | swept now => exact .inr ⟨.gateway (.purge now), rfl, .inr ⟨_, rfl, rfl⟩⟩
  | begun name env stamp =>
      simp only [goOn, turnTo]
      split
      next envelope hkind hwrite =>
        exact .inr ⟨.gateway (.request ⟨name⟩ stamp envelope true), rfl, .inr ⟨_, rfl, rfl⟩⟩
      · split <;> exact .inl rfl
      · exact .inl rfl
  | _ => exact .inl rfl

theorem history_step (regime : Regime) (h : House) (action : Action) :
    h.history <+: (h.step regime action).history := by
  simp only [history]
  rcases governed_step regime h action with hsame | ⟨act, hact, _⟩
  · rw [hsame]
  · rw [hact, Governed.traffic_perform]
    split
    · exact (h.governed.traffic.step_cases _).history_grows
    · exact List.prefix_rfl

/-- The worker has just turned to the gateway with its job, under the name of a new call. -/
def TakenUp (h next : House) (job : Job) (call : CallId) : Prop :=
  ∃ stamp envelope, Workshop.writeOf stamp job = .ok envelope ∧ h.governed.traffic.isNew call ∧
    next.governed = h.governed.move (.request call stamp envelope true)

/-- The worker waits for a call, or has just made it. -/
def WaitsFor (h next : House) (job : Job) (call : CallId) : Prop :=
  h.post = .writing job call.number ∨ h.TakenUp next job call

/-- A job of the worker has just brought a result; if it asks for a write, the call of the worker
was answered. -/
def Earns (h next : House) (id : JobId) (result : Json) : Prop :=
  ∃ job, h.station.job? = some job ∧ id = job.id ∧
    (job.kind = .writeExecute → ∃ call outcome, h.WaitsFor next job call ∧
      .answered call outcome ∈ next.history ∧ result = outcome.toJson)

theorem TakenUp.requested {h next : House} {job : Job} {call : CallId}
    (htaken : h.TakenUp next job call) : job.RequestedBy next.history call := by
  obtain ⟨stamp, envelope, hwrite, hnew, hnext⟩ := htaken
  refine ⟨stamp, envelope, hwrite, ?_⟩
  rw [history, hnext]
  exact Traffic.requested_step hnew stamp envelope true

/-- What is known of the job in hand, and of every result of a write. -/
structure Traced (h : House) : Prop where
  inHand : ∀ {job}, h.station.job? = some job →
    ∃ record, h.queue.get? job.id = some record ∧ job.Alike record
  writing : ∀ {job name}, h.post = .writing job name → job.RequestedBy h.history ⟨name⟩
  results : ∀ {id job result}, h.queue.get? id = some job → job.kind = .writeExecute →
    job.result = some result → job.AnsweredWith h.history result

theorem traced_start (regime : Regime) (ttl : Span) (router : Router)
    (settings : OrchestratorSettings) : (start regime ttl router settings).Traced where
  inHand hjob := by contradiction
  writing hpost := by contradiction
  results hjob := by contradiction

/-- The worker hears of the answer to its call. -/
theorem yields_heard (hkept : h.Kept) {act : Governed.Action} {job : Job} {name : Nat}
    (hpost : h.post = .writing job name) {next after : House}
    (hnext : next = { h with governed := h.governed.perform regime act })
    (hafter : after = next.goOn name
      (next.workshop.afterGateway h.settings.summaryKeys act.stamp job
        (next.governed.traffic.standing ⟨name⟩))) :
    h.queue.Yields after.queue (h.Earns after) := by
  subst hnext hafter
  obtain ⟨stage, _, hstation⟩ := hkept.manned.station_writing hpost
  refine (Workshop.yields_afterGateway
    (w := ({ h with governed := h.governed.perform regime act } : House).workshop)
    hkept.working.orderly.tidy h.settings.summaryKeys act.stamp job _).imp ?_
  rintro id result ⟨rfl, outcome, hstanding, rfl⟩
  refine ⟨job, by rw [hstation]; rfl, rfl, fun _ => ⟨⟨name⟩, outcome, .inl hpost, ?_, rfl⟩⟩
  exact Traffic.answered_of_standing hstanding

theorem turnTo_governed (name : Nat) (env : Environment) {stamp : Stamp} {job : Job}
    (hkind : job.kind = .writeExecute) {envelope : Envelope}
    (hwrite : Workshop.writeOf stamp job = .ok envelope) :
    (h.turnTo name env stamp job).governed =
      h.governed.move (.request ⟨name⟩ stamp envelope true) := by
  simp only [turnTo, hkind, hwrite]

/-- The worker begins with its job, and may already be done with it. -/
theorem yields_begun (hkept : h.Kept) {job : Job} (hpost : h.post = .handed job) {name : Nat}
    (hnew : h.governed.traffic.isNew ⟨name⟩) (env : Environment) (stamp : Stamp) {after : House}
    (hafter : after = (h.turnTo name env stamp job).goOn name
      (h.workshop.start env h.settings.summaryKeys stamp job)) :
    h.queue.Yields after.queue (h.Earns after) := by
  subst hafter
  refine (Workshop.yields_start (w := h.workshop) hkept.working.orderly.tidy env
    h.settings.summaryKeys stamp job).imp ?_
  rintro id result ⟨rfl, hresult⟩
  refine ⟨job, by simp only [station, hpost, Station.job?], rfl, fun hkind => ?_⟩
  obtain ⟨envelope, outcome, hwrite, hanswered, rfl⟩ := hresult hkind
  obtain ⟨_, hstanding⟩ := Traffic.step_request hnew stamp envelope true
  have hgoverned := turnTo_governed (h := h) name env hkind hwrite
  refine ⟨⟨name⟩, outcome, .inr ⟨stamp, envelope, hwrite, hnew, hgoverned⟩, ?_, rfl⟩
  rw [history, goOn, hgoverned]
  exact Traffic.answered_of_standing (hstanding.trans hanswered)

/-- The worker is done with its execution, which is no write. -/
theorem yields_reported (hkept : h.Kept) {job : Job} {name : Nat} {execution : Execution}
    (hpost : h.post = .executing job name) (stamp : Stamp) (answer : Except Fault Json)
    {next : House} :
    h.queue.Yields (h.workshop.executed h.settings.summaryKeys stamp job execution answer).1.queue
      (h.Earns next) := by
  obtain ⟨held, _, hstation⟩ := hkept.manned.station_executing hpost
  refine (Workshop.yields_executed (w := h.workshop) hkept.working.orderly.tidy
    h.settings.summaryKeys stamp job execution answer).imp ?_
  rintro id result rfl
  refine ⟨job, by rw [hstation]; rfl, rfl, fun hkind => ?_⟩
  obtain ⟨⟨_, hagent⟩, _⟩ := hkept.working.fitting _ job hstation rfl
  rw [hkind] at hagent
  contradiction

theorem see_queue (h : House) (waiter : WaiterId) (waiting : Waiting) (now : Nat) :
    (h.see waiter waiting now).queue = h.queue := by
  rw [(see_eq ..).choose_spec.choose_spec]

/-- Every result in the house was there before, or the worker has just brought it. -/
theorem yields_step (hkept : h.Kept) (regime : Regime) (action : Action) :
    h.queue.Yields (h.step regime action).queue (h.Earns (h.step regime action)) := by
  have htidy := hkept.working.orderly.tidy
  have hstep := step_cases regime h action
  generalize h.step regime action = next at hstep ⊢
  cases hstep with
  | heard act hpost hnext => exact yields_heard hkept hpost hnext rfl
  | begun name env stamp hpost hnew => exact yields_begun hkept hpost hnew env stamp rfl
  | reported stamp answer hpost => exact yields_reported hkept hpost stamp answer
  | submitted waiter stamp submission =>
      exact JobQueue.yields_enqueue stamp submission.kind submission.payload _ _
  | cancelled id now hcancel => exact JobQueue.yields_cancel htidy hcancel
  | claimed now hclaim | swept now hclaim =>
      have hyields : ∀ fresh, h.queue.Yields (h.queue.claim now).2 fresh :=
        fun _ => JobQueue.yields_claim htidy now
      rw [hclaim] at hyields
      exact hyields _
  | _ => exact .same rfl

/-- At the end of an attempt the worker waits for no call. -/
theorem not_writing_of_closes {w : Workshop} {after : Workshop × WorkProgress}
    (hcloses : w.Closes after) {name other : Nat} {job : Job} :
    Post.after name after.2 ≠ .writing job other := by
  obtain ⟨workshop, progress⟩ := after
  rcases progress with (_ | ⟨found, stage⟩ | _) | _ | _
  case waiting.writing =>
    obtain ⟨event, hevent⟩ := hcloses.recording _ rfl
    contradiction
  all_goals exact fun hpost => by contradiction

theorem writing_afterGateway {w : Workshop} {limit : Nat} {stamp : Stamp} {job found : Job}
    {progress : Progress} {name other : Nat}
    (hpost : Post.after name (w.afterGateway limit stamp job progress).2 = .writing found other) :
    found = job ∧ other = name := by
  cases progress with
  | answered outcome =>
      exact absurd hpost (not_writing_of_closes (w.closes_acknowledge limit stamp job _))
  | waiting stage =>
      cases hpost
      exact ⟨rfl, rfl⟩
  | broken => contradiction

theorem writing_start {w : Workshop} {env : Environment} {limit : Nat} {stamp : Stamp}
    {job found : Job} {name other : Nat}
    (hpost : Post.after name (w.start env limit stamp job).2 = .writing found other) :
    found = job ∧ other = name ∧ job.kind = .writeExecute ∧
      ∃ envelope, Workshop.writeOf stamp job = .ok envelope := by
  unfold Workshop.start at hpost
  cases hkind : job.kind with
  | agentExecute =>
      simp only [hkind] at hpost
      split at hpost
      · exact absurd hpost (not_writing_of_closes (w.closes_refuse stamp job _))
      · split at hpost
        next report hreport =>
          exact absurd hpost (not_writing_of_closes (Workshop.closes_acknowledge ..))
        next => contradiction
  | writeExecute =>
      simp only [hkind] at hpost
      split at hpost
      next => exact absurd hpost (not_writing_of_closes (w.closes_refuse stamp job _))
      next envelope hwrite =>
        obtain ⟨hjob, hname⟩ := writing_afterGateway hpost
        exact ⟨hjob, hname, rfl, envelope, hwrite⟩
  | other kind =>
      simp only [hkind] at hpost
      exact absurd hpost (not_writing_of_closes (w.closes_refuse stamp job _))

/-- The worker waits for a call that it has just made or was waiting for before. -/
theorem writing_step (regime : Regime) (action : Action) {job : Job} {name : Nat}
    (hpost : (h.step regime action).post = .writing job name) :
    h.WaitsFor (h.step regime action) job ⟨name⟩ := by
  have hstep := step_cases regime h action
  generalize h.step regime action = next at hpost hstep ⊢
  cases hstep with
  | heard act hat =>
      obtain ⟨rfl, rfl⟩ := writing_afterGateway hpost
      exact .inl hat
  | routed act deployment hsame =>
      rcases hsame with rfl | rfl
      · exact .inl hpost
      · contradiction
  | engaged | recorded | dismissed | hungUp | walkedOut | claimed => contradiction
  | begun name env stamp hat hnew =>
      obtain ⟨rfl, rfl, hkind, envelope, hwrite⟩ := writing_start hpost
      exact .inr ⟨stamp, envelope, hwrite, hnew, turnTo_governed name env hkind hwrite⟩
  | reported stamp answer =>
      simp only [goOn, Workshop.executed] at hpost
      split at hpost
      · exact absurd hpost (not_writing_of_closes (Workshop.closes_acknowledge ..))
      · contradiction
  | _ => exact .inl hpost

/-- The call that the worker waits for requested the write of the job. -/
theorem Traced.requested (htraced : h.Traced) {job : Job} {call : CallId}
    (hwaits : h.WaitsFor (h.step regime action) job call) :
    job.RequestedBy (h.step regime action).history call := by
  rcases hwaits with hbefore | htaken
  · exact (htraced.writing hbefore).mono (history_step regime h action)
  · exact htaken.requested

/-- The job that the worker had in hand is still that of a record. -/
theorem Traced.inHand_step (htraced : h.Traced) (hkept : h.Kept) (regime : Regime)
    (action : Action) {job : Job} (hjob : h.station.job? = some job) :
    ∃ record, (h.step regime action).queue.get? job.id = some record ∧ job.Alike record := by
  have hflows : h.queue.Flows (h.step regime action).queue := (hkept.step regime action).flows
  obtain ⟨record, hrecord, halike⟩ := htraced.inHand hjob
  obtain ⟨after, hafter, hkeeps⟩ := hflows.alike_kept hkept.working.orderly hrecord
  exact ⟨after, hafter, halike.trans hkeeps⟩

/-- The result of a write is that of a call which the worker has just been answered, or it was there
before. -/
theorem Traced.result_step (htraced : h.Traced) (hkept : h.Kept) {id : JobId} {after : Job}
    {result : Json} (hafter : (h.step regime action).queue.get? id = some after)
    (hkind : after.kind = .writeExecute) (hresult : after.result = some result) :
    ∃ job, job.Alike after ∧
      ((job.id = id ∧ ∃ call outcome, h.WaitsFor (h.step regime action) job call ∧
          .answered call outcome ∈ (h.step regime action).history ∧ result = outcome.toJson) ∨
        (h.queue.get? id = some job ∧ job.kind = .writeExecute ∧ job.result = some result)) := by
  rcases yields_step hkept regime action id after result hafter hresult with
    ⟨job, hjob, rfl, hearned⟩ | ⟨before, hbefore, hearlier⟩
  · obtain ⟨record, hrecord, halike⟩ := htraced.inHand_step hkept regime action hjob
    obtain rfl := Option.some.inj (hafter.symm.trans hrecord)
    exact ⟨job, halike, .inl ⟨rfl, hearned (halike.kind.symm.trans hkind)⟩⟩
  · have hflows : h.queue.Flows (h.step regime action).queue := (hkept.step regime action).flows
    obtain ⟨found, hfound, halike⟩ := hflows.alike_kept hkept.working.orderly hbefore
    obtain rfl := Option.some.inj (hafter.symm.trans hfound)
    exact ⟨before, halike, .inr ⟨hbefore, halike.kind.symm.trans hkind, hearlier⟩⟩

theorem traced_step (hkept : h.Kept) (htraced : h.Traced) (regime : Regime) (action : Action) :
    (h.step regime action).Traced := by
  constructor
  case inHand =>
    intro job hjob
    rcases (hkept.step regime action).inHand hjob with hbefore | hnow
    · exact htraced.inHand_step hkept regime action hbefore
    · exact ⟨job, hnow, .refl job⟩
  case writing =>
    intro job name hpost
    exact htraced.requested (writing_step regime action hpost)
  case results =>
    intro id after result hafter hkind hresult
    obtain ⟨job, halike, ⟨_, call, outcome, hwaits, hanswered, rfl⟩ |
        ⟨hbefore, hwrite, hearlier⟩⟩ :=
      htraced.result_step hkept hafter hkind hresult
    · exact ⟨call, outcome, (htraced.requested hwaits).alike halike, hanswered, rfl⟩
    · have hanswered := htraced.results hbefore hwrite hearlier
      exact (hanswered.mono (history_step regime h action)).alike halike

/-- The action can bring somebody an answer, or take one away. -/
def Action.answers : Action → Bool
  | .submit .. | .look .. | .leave _ => true
  | _ => false

/-- Whoever waits waits for a job of the queue, and every result that was given away is that of a
job. -/
structure Informed (h : House) : Prop where
  waiting : ∀ {waiter waiting}, h.waiting.get? waiter = some waiting →
    ∃ job, h.queue.get? waiting.latest.id = some job
  responses : ∀ {waiter response result}, (waiter, response) ∈ h.responses →
    response.result = some result →
    ∃ job, h.queue.get? response.jobId = some job ∧ job.result = some result

theorem informed_start (regime : Regime) (ttl : Span) (router : Router)
    (settings : OrchestratorSettings) : (start regime ttl router settings).Informed where
  waiting hwaiting := by contradiction
  responses hmem := by contradiction

/-- Jobs and results stay. -/
theorem Informed.kept {next : House} (hinformed : h.Informed) (horderly : h.queue.Orderly)
    (hflows : h.queue.Flows next.queue) (hwaiting : next.waiting = h.waiting)
    (hresponses : next.responses = h.responses) : next.Informed where
  waiting := by
    intro waiter waiting hget
    rw [hwaiting] at hget
    obtain ⟨job, hjob⟩ := hinformed.waiting hget
    obtain ⟨after, hafter, _⟩ := hflows.kept horderly hjob
    exact ⟨after, hafter⟩
  responses := by
    intro waiter response result hmem hresult
    rw [hresponses] at hmem
    obtain ⟨job, hjob, hgiven⟩ := hinformed.responses hmem hresult
    exact hflows.result_kept horderly hjob hgiven

/-- Somebody is answered with a job of the queue. -/
theorem Informed.told (hinformed : h.Informed) {waiting : Table WaiterId Waiting}
    (hwaiting : ∀ {waiter found}, waiting.get? waiter = some found →
      ∃ job, h.queue.get? found.latest.id = some job)
    {told : List (WaiterId × SubmitResponse)}
    (htold : ∀ {waiter response}, (waiter, response) ∈ told →
      ∃ job, h.queue.get? response.jobId = some job ∧ job.result = response.result) :
    Informed { h with waiting := waiting, responses := h.responses ++ told } where
  waiting := hwaiting
  responses := by
    intro waiter response result hmem hresult
    rcases List.mem_append.mp hmem with hbefore | hnew
    · exact hinformed.responses hbefore hresult
    · obtain ⟨job, hjob, hsame⟩ := htold hnew
      exact ⟨job, hjob, hsame.trans hresult⟩

theorem informed_see (hinformed : h.Informed) (htidy : h.queue.Tidy) (waiter : WaiterId)
    {waiting : Waiting} {job : Job} (hjob : h.queue.get? waiting.latest.id = some job) (now : Nat) :
    (h.see waiter waiting now).Informed := by
  have hid : job.id = waiting.latest.id := htidy.id_eq hjob
  have hlook : waiting.look h.settings.waitPollMillis h.queue now =
      if job.status.isTerminal then .answered (.ofJob job)
      else if waiting.deadline ≤ now then .answered (.timedOut job)
      else .again { waiting with latest := job }
        (now + min h.settings.waitPollMillis (waiting.deadline - now)) := by
    simp only [Waiting.look, hjob, Option.getD_some]
  have hanswered : ∀ response : SubmitResponse, response.jobId = job.id →
      response.result = job.result → Informed { h with
        waiting := h.waiting.erase waiter, responses := h.responses ++ [(waiter, response)] } := by
    intro response hresponse hresult
    refine hinformed.told ?_ ?_
    · intro other found hfound
      rw [Table.get?_erase] at hfound
      split at hfound
      · contradiction
      · exact hinformed.waiting hfound
    · intro other told hmem
      obtain ⟨rfl, rfl⟩ := Prod.mk.inj (List.mem_singleton.mp hmem)
      exact ⟨job, by rw [hresponse, hid, hjob], hresult.symm⟩
  simp only [see, hlook]
  split
  next response hgiven =>
    split at hgiven
    · cases hgiven
      exact hanswered _ rfl rfl
    · split at hgiven
      · cases hgiven
        exact hanswered _ rfl rfl
      · contradiction
  next again wakeAt hgiven =>
    obtain rfl : again = { waiting with latest := job } := by
      split at hgiven
      · contradiction
      · split at hgiven
        · contradiction
        · cases hgiven
          rfl
    refine ⟨?_, hinformed.responses⟩
    intro other found hfound
    rw [Table.get?_put] at hfound
    split at hfound
    · cases hfound
      exact ⟨job, by rw [hid, hjob]⟩
    · exact hinformed.waiting hfound

end House

theorem JobQueue.get?_enqueue {q : JobQueue} (htidy : q.Tidy) (stamp : Stamp) (kind : JobKind)
    (payload : Json) (execution : Option String) (maxAttempts : Nat) :
    (q.enqueue stamp kind payload execution maxAttempts).2.get?
        (q.enqueue stamp kind payload execution maxAttempts).1.id =
      some (q.enqueue stamp kind payload execution maxAttempts).1 := by
  unfold enqueue
  split
  next job hknown =>
    obtain ⟨name, _, hget⟩ := Option.bind_eq_some_iff.mp hknown
    obtain ⟨id, _, hjob⟩ := Option.bind_eq_some_iff.mp hget
    have hid : job.id = id := htidy.id_eq hjob
    rw [hid]
    exact hjob
  next => rw [get?_add, if_pos rfl]

namespace House

variable {regime : Regime} {h : House} {action : Action}

/-- Only those who wait, or hand in a job, are answered. -/
theorem waiting_step (haside : action.answers = false) :
    (h.step regime action).waiting = h.waiting ∧
      (h.step regime action).responses = h.responses := by
  have hstep := step_cases regime h action
  generalize h.step regime action = next at hstep ⊢
  cases hstep with
  | submitted | looked | left => contradiction
  | heard _ _ hnext =>
      subst hnext
      exact ⟨rfl, rfl⟩
  | begun name env stamp =>
      simp only [goOn, turnTo]
      split
      · exact ⟨rfl, rfl⟩
      · split <;> exact ⟨rfl, rfl⟩
      · exact ⟨rfl, rfl⟩
  | _ => exact ⟨rfl, rfl⟩

theorem informed_submit (hkept : h.Kept) (hinformed : h.Informed) (regime : Regime)
    (waiter : WaiterId) (stamp : Stamp) (submission : Submission) (now : Nat) :
    (h.step regime (.submit waiter stamp submission now)).Informed := by
  have horderly := hkept.working.orderly
  have hflows : h.queue.Flows (h.step regime (.submit waiter stamp submission now)).queue :=
    (hkept.step regime _).flows
  have htidy := (hflows.orderly horderly).tidy
  simp only [step] at hflows htidy ⊢
  split
  · exact hinformed
  next hfree =>
    rw [if_neg hfree] at hflows htidy
    have hjob := JobQueue.get?_enqueue horderly.tidy stamp submission.kind submission.payload
      submission.execution (submission.maxAttempts.getD h.settings.defaultMaxAttempts)
    have hnext : Informed { h with queue := (submission.enqueue h.settings h.queue stamp).2 } := by
      refine hinformed.kept horderly ?_ rfl rfl
      split at hflows
      · rwa [see_queue] at hflows
      · exact hflows
    split
    next hwait =>
      rw [if_pos hwait, see_queue] at htidy
      exact informed_see hnext htidy waiter (by exact hjob) now
    next =>
      refine hnext.told hnext.waiting ?_
      intro other told hmem
      obtain ⟨rfl, rfl⟩ := Prod.mk.inj (List.mem_singleton.mp hmem)
      exact ⟨_, hjob, rfl⟩

theorem informed_step (hkept : h.Kept) (hinformed : h.Informed) (regime : Regime)
    (action : Action) : (h.step regime action).Informed := by
  have horderly := hkept.working.orderly
  cases action with
  | submit waiter stamp submission now =>
      exact informed_submit hkept hinformed regime waiter stamp submission now
  | look waiter now =>
      simp only [step]
      split
      next waiting hwaiting =>
        obtain ⟨job, hjob⟩ := hinformed.waiting hwaiting
        exact informed_see hinformed horderly.tidy waiter hjob now
      next => exact hinformed
  | leave waiter =>
      refine ⟨?_, hinformed.responses⟩
      intro other found hfound
      simp only [step, Table.get?_erase] at hfound
      split at hfound
      · contradiction
      · exact hinformed.waiting hfound
  | _ =>
      exact hinformed.kept horderly (hkept.step regime _).flows (waiting_step (by rfl)).1
        (waiting_step (by rfl)).2

end House

end Gatehouse
