import Gatehouse.Proofs.Gateway.Unrecorded
import Gatehouse.Proofs.Orchestrator.House

/-! # A house without an audit trail

The names of records find their way out of the gateway in answers only, and
from there into the results of jobs and to those who wait for them. Take them
out everywhere, forget what the sink accepted, and the house goes on as if the
sink had refused every event.
-/

namespace Gatehouse

namespace Table

variable {κ ν : Type} [DecidableEq κ] (f : ν → ν) (t : Table κ ν)

theorem put_mapValues (k : κ) (v : ν) :
    (t.mapValues fun _ => f).put k (f v) = (t.put k v).mapValues fun _ => f := by
  unfold put
  split
  next hmem =>
    rw [dif_pos (by simpa using hmem)]
    simp only [modify, mapValues, List.map_map, Table.mk.injEq, List.map_inj_left]
    intro entry _
    simp only [Function.comp_apply, Prod.mk.injEq, true_and]
    split <;> rfl
  next hmem =>
    rw [dif_neg (by simpa using hmem)]
    simp [mapValues]

theorem erase_mapValues (k : κ) :
    (t.mapValues fun _ => f).erase k = (t.erase k).mapValues fun _ => f := by
  simp [erase, mapValues, List.filter_map, Function.comp_def]

end Table

namespace Json

/-- The field with nothing in it, if it is the one that names a record. -/
def blankRecord (field : String × Json) : String × Json :=
  (field.1, if field.1 = "audit_id" then .null else field.2)

/-- The value, naming no record where an answer would name one. -/
def unrecorded : Json → Json
  | .obj fields => .obj (fields.map blankRecord)
  | value => value

@[simp] theorem keys_unrecorded (value : Json) : value.unrecorded.keys = value.keys := by
  cases value with
  | obj fields => simp [unrecorded, keys, blankRecord, Function.comp_def]
  | _ => rfl

theorem insertField_blankRecord (key : String) (value : Json) (fields : List (String × Json)) :
    insertField key (blankRecord (key, value)).2 (fields.map blankRecord) =
      (insertField key value fields).map blankRecord := by
  induction fields with
  | nil => rfl
  | cons field rest ih =>
      obtain ⟨other, found⟩ := field
      simp only [List.map_cons, insertField, blankRecord] at ih ⊢
      split
      · rfl
      · split
        · rfl
        · rw [ih]
          rfl

theorem sortFields_blankRecord (fields : List (String × Json)) :
    sortFields (fields.map blankRecord) = (sortFields fields).map blankRecord := by
  induction fields using List.reverseRecOn with
  | nil => rfl
  | append_singleton fields field ih =>
      simp only [sortFields, List.map_append, List.map_cons, List.map_nil,
        List.foldl_append, List.foldl_cons, List.foldl_nil] at ih ⊢
      rw [ih]
      exact insertField_blankRecord field.1 field.2 _

theorem unrecorded_ofFields (fields : List (String × Json)) :
    (ofFields fields).unrecorded = ofFields (fields.map blankRecord) := by
  rw [ofFields, ofFields, unrecorded, sortFields_blankRecord]

theorem optionalField_blankRecord {α : Type} {key : String} (hkey : key ≠ "audit_id")
    (encode : α → Json) (value : Option α) :
    (optionalField key encode value).map blankRecord = optionalField key encode value := by
  cases value with
  | none => rfl
  | some value => simp [optionalField, blankRecord, hkey]

end Json

theorem WriteOutcome.unrecorded_toJson (outcome : WriteOutcome) :
    outcome.toJson.unrecorded = outcome.unrecorded.toJson := by
  rw [toJson, Json.unrecorded_ofFields]
  simp [toJson, unrecorded, Json.blankRecord, Json.ofText?]

/-- What agents report names no record. -/
theorem ExecutionReport.unrecorded_toJson (report : ExecutionReport) :
    report.toJson.unrecorded = report.toJson := by
  rw [toJson, Json.unrecorded_ofFields]
  simp [Json.blankRecord, Json.optionalField_blankRecord]

namespace Job

/-- The job with a result that names no record. -/
def unrecorded (job : Job) : Job :=
  { job with result := job.result.map Json.unrecorded }

end Job

namespace JobQueue

/-- The queue with results that name no records. -/
def unrecorded (q : JobQueue) : JobQueue :=
  { q with jobs := q.jobs.mapValues fun _ => Job.unrecorded }

variable (q : JobQueue)

@[simp] theorem get?_unrecorded (id : JobId) :
    q.unrecorded.get? id = (q.get? id).map Job.unrecorded :=
  q.jobs.get?_mapValues _ id

theorem known?_unrecorded (execution : Option String) :
    q.unrecorded.known? execution = (q.known? execution).map Job.unrecorded := by
  cases execution with
  | none => rfl
  | some execution =>
      simp only [known?, getByExecution?, unrecorded, Option.bind_some]
      cases q.byExecution.get? execution with
      | none => rfl
      | some id => exact q.get?_unrecorded id

theorem update_unrecorded (job : Job) :
    q.unrecorded.update job.unrecorded = (q.update job).unrecorded := by
  simp only [update, unrecorded, JobQueue.mk.injEq, and_true]
  exact q.jobs.put_mapValues Job.unrecorded job.id job

/-- A job and the queue it is in, with results that name no records. -/
def forget (after : Job × JobQueue) : Job × JobQueue :=
  (after.1.unrecorded, after.2.unrecorded)

theorem update_forget (job : Job) :
    (job.unrecorded, q.unrecorded.update job.unrecorded) = forget (job, q.update job) := by
  rw [update_unrecorded, forget]

theorem add_unrecorded (job : Job) :
    q.unrecorded.add job.unrecorded = (q.add job).unrecorded := by
  simp only [add, unrecorded, JobQueue.mk.injEq]
  exact ⟨q.jobs.put_mapValues Job.unrecorded job.id job, rfl, rfl⟩

theorem enqueue_unrecorded (stamp : Stamp) (kind : JobKind) (payload : Json)
    (execution : Option String) (maxAttempts : Nat) :
    q.unrecorded.enqueue stamp kind payload execution maxAttempts =
      forget (q.enqueue stamp kind payload execution maxAttempts) := by
  simp only [enqueue, known?_unrecorded]
  cases q.known? execution with
  | some job => rfl
  | none => exact congrArg (Prod.mk _) (q.add_unrecorded (Job.new ..))

theorem claim_unrecorded (now : Moment) :
    q.unrecorded.claim now =
      ((q.claim now).1.map Job.unrecorded, (q.claim now).2.unrecorded) := by
  have hchannel : q.unrecorded.channel = q.channel := rfl
  unfold claim
  rw [hchannel]
  cases q.channel with
  | nil => rfl
  | cons id rest =>
      have hget := get?_unrecorded { q with channel := rest } id
      simp only [unrecorded] at hget ⊢
      rw [hget]
      cases get? { q with channel := rest } id with
      | none => rfl
      | some job =>
          simp only [Option.map_some]
          split
          next hqueued =>
            rw [if_pos (show job.status = .queued from hqueued)]
            have hupdate := update_unrecorded { q with channel := rest } { job with
              status := .processing, attempts := job.attempts + 1, updatedAt := now }
            exact congrArg (Prod.mk _) hupdate
          next hqueued =>
            rw [if_neg (show job.status ≠ .queued from hqueued)]
            rfl

theorem processing_unrecorded (id : JobId) (action : JobAction) :
    q.unrecorded.processing id action = (q.processing id action).map Job.unrecorded := by
  simp only [processing, get?_unrecorded]
  cases q.get? id with
  | none => rfl
  | some job =>
      simp only [Option.map_some, Job.unrecorded]
      split <;> rfl

theorem ack_unrecorded (id : JobId) (result : Json) (now : Moment) :
    q.unrecorded.ack id result.unrecorded now = (q.ack id result now).map forget := by
  simp only [ack, processing_unrecorded]
  cases q.processing id .ack with
  | error e => rfl
  | ok job =>
      exact congrArg Except.ok (q.update_forget { job with
        status := .succeeded, result := some result, lastError := none, updatedAt := now })

theorem nack_unrecorded (id : JobId) (error : String) (now : Moment) :
    q.unrecorded.nack id error now = (q.nack id error now).map forget := by
  simp only [nack, processing_unrecorded]
  cases q.processing id .nack with
  | error e => rfl
  | ok job =>
      have hqueued := q.update_unrecorded
        { job with status := .queued, lastError := some error, updatedAt := now }
      have hfailed := q.update_forget
        { job with status := .failed, lastError := some error, updatedAt := now }
      simp only [Except.map, bind, Except.bind, Job.unrecorded] at hqueued hfailed ⊢
      split
      · rw [hqueued]
        rfl
      · exact congrArg Except.ok hfailed

theorem cancel_unrecorded (id : JobId) (now : Moment) :
    q.unrecorded.cancel id now = (q.cancel id now).map forget := by
  simp only [cancel, get?_unrecorded]
  cases q.get? id with
  | none => rfl
  | some job =>
      simp only [Option.map_some, Job.unrecorded]
      split
      · rfl
      · exact congrArg Except.ok
          (q.update_forget { job with status := .cancelled, updatedAt := now })

end JobQueue

/-- The work on the job with a result that names no record. -/
def Work.unrecorded : Work → Work
  | .executing job execution => .executing job.unrecorded execution
  | .writing job call => .writing job.unrecorded call
  | .recording event => .recording event

/-- The progress of the work on the job with a result that names no record. -/
def WorkProgress.unrecorded : WorkProgress → WorkProgress
  | .waiting work => .waiting work.unrecorded
  | .done => .done
  | .broken => .broken

namespace Workshop

/-- The workshop with results that name no records. -/
def unrecorded (w : Workshop) : Workshop :=
  { w with queue := w.queue.unrecorded }

/-- What the work on a job came to, with results that name no records. -/
def forget (after : Workshop × WorkProgress) : Workshop × WorkProgress :=
  (after.1.unrecorded, after.2.unrecorded)

variable (w : Workshop) (limit : Nat) (stamp : Stamp) (job : Job)

theorem acknowledge_unrecorded (result : Json) :
    w.unrecorded.acknowledge limit stamp job.unrecorded result.unrecorded =
      forget (w.acknowledge limit stamp job result) := by
  have hack := w.queue.ack_unrecorded job.id result stamp.now
  have hsummary : summaryOf result.unrecorded limit = summaryOf result limit := by
    rw [summaryOf, summaryOf, Json.keys_unrecorded]
  simp only [acknowledge, unrecorded, Job.unrecorded, hsummary] at hack ⊢
  rw [hack]
  cases w.queue.ack job.id result stamp.now <;> rfl

theorem refuse_unrecorded (fault : Fault) :
    w.unrecorded.refuse stamp job.unrecorded fault = forget (w.refuse stamp job fault) := by
  have hnack := w.queue.nack_unrecorded job.id fault.text stamp.now
  simp only [refuse, unrecorded, Job.unrecorded] at hnack ⊢
  rw [hnack]
  cases w.queue.nack job.id fault.text stamp.now <;> rfl

theorem afterGateway_unrecorded (progress : Progress) :
    w.unrecorded.afterGateway limit stamp job.unrecorded progress.unrecorded =
      forget (w.afterGateway limit stamp job progress) := by
  cases progress with
  | answered outcome =>
      simp only [afterGateway, Progress.unrecorded, ← WriteOutcome.unrecorded_toJson]
      exact w.acknowledge_unrecorded limit stamp job outcome.toJson
  | waiting | broken => rfl

theorem start_unrecorded (env : Environment) :
    w.unrecorded.start env limit stamp job.unrecorded = forget (w.start env limit stamp job) := by
  have hpayload : job.unrecorded.payload = job.payload := rfl
  have hkind : job.unrecorded.kind = job.kind := rfl
  have hwrite : writeOf stamp job.unrecorded = writeOf stamp job := rfl
  have hrouter : w.unrecorded.router = w.router := rfl
  simp only [start, hpayload, hkind, hwrite, hrouter]
  cases job.kind with
  | agentExecute =>
      simp only
      split
      · exact w.refuse_unrecorded stamp job _
      · cases hexecute : w.router.execute env stamp job.payload with
        | mk router dispatch =>
            cases dispatch with
            | reported report =>
                have hacknowledge := acknowledge_unrecorded { w with router := router } limit stamp
                  job report.toJson
                rwa [report.unrecorded_toJson] at hacknowledge
            | running execution => rfl
  | writeExecute =>
      simp only
      split
      · exact w.refuse_unrecorded stamp job _
      next envelope henvelope =>
        have hafter :=
          w.afterGateway_unrecorded limit stamp job (Gateway.request stamp envelope true)
        rwa [Gateway.request_unrecorded] at hafter
  | other name => exact w.refuse_unrecorded stamp job _

theorem executed_unrecorded (execution : Execution) (answer : Except Fault Json) :
    w.unrecorded.executed limit stamp job.unrecorded execution answer =
      forget (w.executed limit stamp job execution answer) := by
  have hrouter : w.unrecorded.router = w.router := rfl
  simp only [executed, hrouter]
  cases hfinished : w.router.finished execution stamp.now answer with
  | mk router report =>
      cases report with
      | some report =>
          have hacknowledge := acknowledge_unrecorded { w with router := router } limit stamp job
            report.toJson
          rwa [report.unrecorded_toJson] at hacknowledge
      | none => rfl

end Workshop

namespace SubmitResponse

/-- The answer with a result that names no record. -/
def unrecorded (response : SubmitResponse) : SubmitResponse :=
  { response with result := response.result.map Json.unrecorded }

end SubmitResponse

namespace Waiting

/-- Somebody waits for a job with a result that names no record. -/
def unrecorded (waiting : Waiting) : Waiting :=
  { waiting with latest := waiting.latest.unrecorded }

end Waiting

namespace Look

/-- What a look brings, with a result that names no record. -/
def unrecorded : Look → Look
  | .answered response => .answered response.unrecorded
  | .again waiting wakeAt => .again waiting.unrecorded wakeAt

end Look

theorem Waiting.look_unrecorded (waiting : Waiting) (pollMillis : Nat) (q : JobQueue) (now : Nat) :
    waiting.unrecorded.look pollMillis q.unrecorded now =
      (waiting.look pollMillis q now).unrecorded := by
  have hlatest : (q.unrecorded.get? waiting.latest.id).getD waiting.latest.unrecorded =
      ((q.get? waiting.latest.id).getD waiting.latest).unrecorded := by
    rw [JobQueue.get?_unrecorded]
    cases q.get? waiting.latest.id <;> rfl
  have hid : waiting.unrecorded.latest.id = waiting.latest.id := rfl
  simp only [look, hid]
  rw [show waiting.unrecorded.latest = waiting.latest.unrecorded from rfl, hlatest]
  generalize (q.get? waiting.latest.id).getD waiting.latest = latest
  have hstatus : latest.unrecorded.status = latest.status := rfl
  have hdeadline : waiting.unrecorded.deadline = waiting.deadline := rfl
  simp only [hstatus, hdeadline]
  split
  · rfl
  · split <;> rfl

/-- What would have happened if the sink had refused everything. -/
def Happening.unrecorded : Happening → Happening
  | .seen event => .seen event.unrecorded
  | happening => happening

namespace Traffic

variable (s : Traffic)

theorem newEvents_unrecorded (action : Action) :
    s.unrecorded.newEvents action.unrecorded =
      (s.newEvents action).map GatewayEvent.unrecorded := by
  rw [newEvents, newEvents, ← step_unrecorded]
  simp [unrecorded, List.map_drop]

theorem standing_unrecorded (call : CallId) :
    s.unrecorded.standing call = (s.standing call).unrecorded := by
  have hcalls : s.unrecorded.calls = s.calls := rfl
  have hlast : s.unrecorded.lastSeen call = (s.lastSeen call).map GatewayEvent.unrecorded := by
    simp [lastSeen, trail, unrecorded, List.filter_map, Function.comp_def]
  simp only [standing, hcalls, hlast]
  cases s.calls.get? call with
  | some stage => rfl
  | none =>
      cases s.lastSeen call with
      | none => rfl
      | some event => cases event <;> rfl

end Traffic

namespace Governed

/-- The gateway and its log as they would have been if the sink had refused everything. -/
def unrecorded (s : Governed) : Governed where
  traffic := s.traffic.unrecorded
  book := s.book
  log := s.log.map Happening.unrecorded

/-- The action, but that the sink refuses everything. -/
def Action.unrecorded : Action → Action
  | .gateway action => .gateway action.unrecorded
  | action => action

theorem Action.stamp_unrecorded (action : Action) : action.unrecorded.stamp = action.stamp := by
  cases action with
  | gateway action => cases action <;> rfl
  | _ => rfl

variable (s : Governed)

theorem move_unrecorded (action : Traffic.Action) :
    (s.move action).unrecorded = s.unrecorded.move action.unrecorded := by
  simp only [move, unrecorded, Traffic.step_unrecorded, Traffic.newEvents_unrecorded,
    List.map_append, List.map_map, Governed.mk.injEq, true_and]
  rfl

theorem openApproval_unrecorded (opening : Stamp) :
    (s.openApproval opening).unrecorded = s.unrecorded.openApproval opening := by
  simp only [openApproval, unrecorded, List.map_append, List.map_cons, List.map_nil]
  rfl

theorem perform_unrecorded (regime : Regime) (action : Action) :
    (s.perform regime action).unrecorded = s.unrecorded.perform regime action.unrecorded := by
  have hcalls : s.unrecorded.traffic.calls = s.traffic.calls := rfl
  cases action with
  | gateway action => exact s.move_unrecorded action
  | rule call stamp =>
      simp only [perform, step, Action.unrecorded, hcalls]
      split
      · exact s.move_unrecorded _
      · rfl
  | openFor call opening stamp =>
      simp only [perform, step, Action.unrecorded, hcalls]
      split
      · split
        · rw [move_unrecorded, openApproval_unrecorded]
          rfl
        · rfl
      · rfl
  | openAside opening =>
      simp only [perform, step, Action.unrecorded]
      split
      · exact s.openApproval_unrecorded opening
      · rfl
  | approve id | reject id =>
      simp only [perform, step, Action.unrecorded, unrecorded, List.map_append, List.map_cons,
        List.map_nil]
      rfl

end Governed

/-- The worker with a job whose result names no record. -/
def Post.unrecorded : Post → Post
  | .handed job => .handed job.unrecorded
  | .writing job name => .writing job.unrecorded name
  | .executing job name => .executing job.unrecorded name
  | post => post

namespace House

/-- The house as it would have been if the sink had refused everything. -/
def unrecorded (h : House) : House where
  governed := h.governed.unrecorded
  deployment := h.deployment
  queue := h.queue.unrecorded
  settings := h.settings
  post := h.post.unrecorded
  waiting := h.waiting.mapValues fun _ => Waiting.unrecorded
  responses := h.responses.map (Prod.map id SubmitResponse.unrecorded)

/-- The action, but that the sink refuses everything. -/
def Action.unrecorded : Action → Action
  | .governance action => .governance action.unrecorded
  | .record _ => .record false
  | action => action

variable (h : House)

theorem goOn_unrecorded (name : Nat) (after : Workshop × WorkProgress) :
    (h.goOn name after).unrecorded = h.unrecorded.goOn name (Workshop.forget after) := by
  obtain ⟨workshop, progress⟩ := after
  rcases progress with (_ | _ | _) | _ | _ <;> rfl

theorem hear_unrecorded (stamp : Stamp) : (h.hear stamp).unrecorded = h.unrecorded.hear stamp := by
  cases hpost : h.post with
  | writing job name =>
      have hheard : h.unrecorded.post = .writing job.unrecorded name := by
        rw [unrecorded, hpost]
        rfl
      have hstanding := h.governed.traffic.standing_unrecorded ⟨name⟩
      have hafter := h.workshop.afterGateway_unrecorded h.settings.summaryKeys stamp job
        (h.governed.traffic.standing ⟨name⟩)
      simp only [hear, hpost, hheard]
      rw [goOn_unrecorded, ← hafter, ← hstanding]
      rfl
  | _ =>
      simp only [hear, unrecorded, hpost, Post.unrecorded]

theorem turnTo_unrecorded (name : Nat) (env : Environment) (stamp : Stamp) (job : Job) :
    (h.turnTo name env stamp job).unrecorded =
      h.unrecorded.turnTo name env stamp job.unrecorded := by
  have hpayload : job.unrecorded.payload = job.payload := rfl
  have hkind : job.unrecorded.kind = job.kind := rfl
  have hwrite : Workshop.writeOf stamp job.unrecorded = Workshop.writeOf stamp job := rfl
  simp only [turnTo, hpayload, hkind, hwrite]
  split
  · simp only [unrecorded, Governed.move_unrecorded]
    rfl
  · split <;> rfl
  · rfl

theorem see_unrecorded (waiter : WaiterId) (waiting : Waiting) (now : Nat) :
    (h.see waiter waiting now).unrecorded = h.unrecorded.see waiter waiting.unrecorded now := by
  have hlook := waiting.look_unrecorded h.settings.waitPollMillis h.queue now
  have hqueue : h.unrecorded.queue = h.queue.unrecorded := rfl
  have hsettings : h.unrecorded.settings = h.settings := rfl
  simp only [see, hqueue, hsettings, hlook]
  cases waiting.look h.settings.waitPollMillis h.queue now with
  | answered response =>
      simp [Look.unrecorded, unrecorded, Table.erase_mapValues]
  | again waiting wakeAt =>
      simp [Look.unrecorded, unrecorded, Table.put_mapValues]

@[simp] theorem awaits_unrecorded (post : Post) (ticket : Ticket) :
    post.unrecorded.awaits ticket = post.awaits ticket := by
  cases post <;> rfl

@[simp] theorem post_unrecorded : h.unrecorded.post = h.post.unrecorded := rfl

@[simp] theorem settings_unrecorded : h.unrecorded.settings = h.settings := rfl

@[simp] theorem deployment_unrecorded : h.unrecorded.deployment = h.deployment := rfl

@[simp] theorem queue_unrecorded : h.unrecorded.queue = h.queue.unrecorded := rfl

@[simp] theorem governed_unrecorded : h.unrecorded.governed = h.governed.unrecorded := rfl

@[simp] theorem get?_waiting_unrecorded (waiter : WaiterId) :
    h.unrecorded.waiting.get? waiter = (h.waiting.get? waiter).map Waiting.unrecorded :=
  h.waiting.get?_mapValues _ waiter

theorem submit_unrecorded (regime : Regime) (waiter : WaiterId) (stamp : Stamp)
    (submission : Submission) (now : Nat) :
    (h.step regime (.submit waiter stamp submission now)).unrecorded =
      h.unrecorded.step regime (.submit waiter stamp submission now) := by
  have henqueue := h.queue.enqueue_unrecorded stamp submission.kind submission.payload
    submission.execution (submission.maxAttempts.getD h.settings.defaultMaxAttempts)
  have hwaits : h.unrecorded.waiting.contains waiter = h.waiting.contains waiter := by
    simp [Table.contains]
  simp only [step, queue_unrecorded, JobQueue.get?_unrecorded, Option.isSome_map, hwaits,
    Submission.enqueue, settings_unrecorded, henqueue]
  split
  · rfl
  · split
    · rw [see_unrecorded]
      rfl
    · simp only [unrecorded, List.map_append, List.map_cons, List.map_nil]
      rfl

theorem claim_unrecorded (regime : Regime) (now : Moment) :
    (h.step regime (.claim now)).unrecorded = h.unrecorded.step regime (.claim now) := by
  cases hpost : h.post with
  | idle =>
      simp only [step, hpost, post_unrecorded, Post.unrecorded, queue_unrecorded,
        JobQueue.claim_unrecorded]
      rcases h.queue.claim now with ⟨_ | job, queue⟩
      · simp only [Option.map_none, unrecorded, Governed.move_unrecorded, hpost]
        rfl
      · rfl
  | _ => simp only [step, hpost, post_unrecorded, Post.unrecorded]

theorem begin_unrecorded (regime : Regime) (name : Nat) (env : Environment) (stamp : Stamp) :
    (h.step regime (.begin name env stamp)).unrecorded =
      h.unrecorded.step regime (.begin name env stamp) := by
  cases hpost : h.post with
  | handed job =>
      have hnew : h.unrecorded.governed.traffic.isNew ⟨name⟩ =
          h.governed.traffic.isNew ⟨name⟩ := h.governed.traffic.isNew_unrecorded ⟨name⟩
      have hstart := h.workshop.start_unrecorded h.settings.summaryKeys stamp job env
      simp only [step, hpost, post_unrecorded, Post.unrecorded, hnew, deployment_unrecorded]
      split
      · rw [goOn_unrecorded, turnTo_unrecorded, ← hstart]
        rfl
      · rfl
  | _ => simp only [step, hpost, post_unrecorded, Post.unrecorded]

theorem report_unrecorded (regime : Regime) (stamp : Stamp) (answer : Except Fault Json) :
    (h.step regime (.report stamp answer)).unrecorded =
      h.unrecorded.step regime (.report stamp answer) := by
  cases hpost : h.post with
  | executing job name =>
      simp only [step, hpost, post_unrecorded, Post.unrecorded, deployment_unrecorded]
      split
      next execution hexecution =>
        have hexecuted := h.workshop.executed_unrecorded h.settings.summaryKeys stamp job execution
          answer
        rw [goOn_unrecorded, ← hexecuted]
        rfl
      · rfl
  | _ => simp only [step, hpost, post_unrecorded, Post.unrecorded]

theorem dismiss_unrecorded (regime : Regime) (now : Moment) :
    (h.step regime (.dismiss now)).unrecorded = h.unrecorded.step regime (.dismiss now) := by
  cases hpost : h.post with
  | writing job name =>
      simp only [step, hpost, Post.unrecorded, unrecorded, Governed.move_unrecorded]
      rfl
  | _ =>
      simp only [step, hpost, Post.unrecorded, unrecorded]

/-- To forget what the sink accepted makes no difference to what happens next in the house. -/
theorem step_unrecorded (regime : Regime) (action : Action) :
    (h.step regime action).unrecorded = h.unrecorded.step regime action.unrecorded := by
  cases action with
  | governance action =>
      simp only [step, Action.unrecorded, Governed.Action.stamp_unrecorded]
      rw [hear_unrecorded]
      simp only [unrecorded, Governed.perform_unrecorded]
  | agents action =>
      cases action with
      | answer | drop =>
          simp only [step, Action.unrecorded, post_unrecorded, awaits_unrecorded]
          split <;> rfl
      | _ => rfl
  | submit waiter stamp submission now =>
      exact h.submit_unrecorded regime waiter stamp submission now
  | look waiter now =>
      simp only [step, Action.unrecorded, get?_waiting_unrecorded]
      cases h.waiting.get? waiter with
      | none => rfl
      | some waiting => exact h.see_unrecorded waiter waiting now
  | leave waiter =>
      simp only [step, Action.unrecorded, unrecorded, Table.erase_mapValues]
  | cancel id now =>
      simp only [step, Action.unrecorded, queue_unrecorded, JobQueue.cancel_unrecorded]
      cases h.queue.cancel id now <;> rfl
  | engage | record =>
      cases hpost : h.post <;>
        simp only [step, Action.unrecorded, hpost, Post.unrecorded, unrecorded]
  | dismiss now => exact h.dismiss_unrecorded regime now
  | claim now => exact h.claim_unrecorded regime now
  | begin name env stamp => exact h.begin_unrecorded regime name env stamp
  | report stamp answer => exact h.report_unrecorded regime stamp answer

theorem run_unrecorded (regime : Regime) (actions : List Action) :
    (h.run regime actions).unrecorded =
      h.unrecorded.run regime (actions.map Action.unrecorded) := by
  induction actions generalizing h with
  | nil => rfl
  | cons action rest ih =>
      exact (ih (h.step regime action)).trans (by rw [step_unrecorded]; rfl)

end House

end Gatehouse
