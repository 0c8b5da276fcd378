import Gatehouse.Proofs.Gateway.Tally
import Gatehouse.Proofs.Orchestrator.Records

/-! # How the end of an attempt is told

An attempt at a job that comes to its end is told by one event. The event is made
of the copy of the job that the worker was given, and what becomes of the job is
written into its record. `ComesTo` lists what the work on a job can come to: as
far as the copy is the record, every event tells the record that the attempt
leaves behind.
-/

namespace Gatehouse

namespace AuditEvent

/-- The event tells how an attempt at the job ended. -/
def isOf (event : AuditEvent) (id : JobId) : Bool :=
  decide (event.jobId = some id.text ∧
    (event.type = "orchestrator.job.succeeded" ∨ event.type = "orchestrator.job.failed"))

/-- The event tells that an attempt brought this result, or failed, and left the job like this. -/
inductive Settles (limit : Nat) (event : AuditEvent) (record : Job) : Prop where
  | acknowledged (result : Json) (hjob : event.jobId = some record.id.text)
      (hstatus : record.status = .succeeded) (hresult : record.result = some result)
      (htype : event.type = "orchestrator.job.succeeded") (houtcome : event.outcome = .success)
      (hkeys : event.data.lookup "result_keys" =
        some (.arr ((summaryOf result limit).map .str)))
  | refused (error : String) (hjob : event.jobId = some record.id.text)
      (hstatus : record.status = .queued ∨ record.status = .failed)
      (herror : record.lastError = some error)
      (htype : event.type = "orchestrator.job.failed") (houtcome : event.outcome = .failed)
      (hattempt : event.data.lookup "attempt" = some (.ofNat record.attempts))
      (htext : event.data.lookup "error" = some (.str error))
      (hretrying : event.data.lookup "retrying" = some (.bool (record.status = .queued)))

variable {limit : Nat} {event : AuditEvent} {record : Job}

theorem Settles.isOf_eq (hsettles : event.Settles limit record) (id : JobId) :
    event.isOf id = decide (id = record.id) := by
  have hnames : record.id.text = id.text ↔ id = record.id := by
    cases id
    rw [JobId.mk.injEq, eq_comm]
  cases hsettles with
  | acknowledged result hjob hstatus hresult htype => simp [isOf, hjob, htype, hnames]
  | refused error hjob hstatus herror htype => simp [isOf, hjob, htype, hnames]

theorem Settles.ended (hsettles : event.Settles limit record) :
    record.status = .succeeded ∨ record.status = .failed ∨ record.status = .queued := by
  cases hsettles with
  | acknowledged result hjob hstatus => exact .inl hstatus
  | refused error hjob hstatus => exact .inr hstatus.symm

end AuditEvent

/-- What the sink is asked to record of a write does not tell how an attempt at a job ended. -/
theorem Call.Offers.isOf_eq {call : Call} {event : AuditEvent} (hoffers : call.Offers)
    (hsink : call.awaits = .sink event) (id : JobId) : event.isOf id = false := by
  have htype : event.type ≠ "orchestrator.job.succeeded" ∧
      event.type ≠ "orchestrator.job.failed" := by
    cases call with
    | evaluating | opening | applying => contradiction
    | receiving request offered =>
        cases hsink
        rw [show event.type = _ from hoffers]
        decide
    | judged request decision offered =>
        cases hsink
        rw [show event.type = _ from hoffers]
        decide
    | accepting outcome token thenCommit offered =>
        cases hsink
        rw [hoffers.1]
        decide
    | closing outcome offered =>
        cases hsink
        have htold := hoffers.2.1
        generalize event.type = type at htold
        cases hstatus : outcome.status with
        | invalidToken => simp [hstatus, WriteStatus.eventType?] at htold
        | _ =>
            rw [hstatus] at htold
            rw [← Option.some.inj htold]
            decide
  simp [AuditEvent.isOf, htype]

theorem Progress.Offers.due {past : List String} {progress : Progress}
    (hoffers : progress.Offers past) (call : Call) (hcall : progress = .waiting call) :
    call.Offers := by
  rw [hcall] at hoffers
  exact hoffers.1

/-- A call that goes on offers the event that is due next. -/
theorem Call.Offers.resume {call : Call} (hoffers : call.Offers) (g : Gateway) (stamp : Stamp)
    {reply : Reply} (hexpects : call.awaits.expects reply) (next : Call)
    (hnext : (g.resume stamp call reply).2 = .waiting next) : next.Offers := by
  rcases g.resume_offers stamp hoffers hexpects with
    ⟨outcome, event, accepted, _, _, hafter, _⟩ | ⟨_, hafter⟩
  · rw [hnext] at hafter
    contradiction
  · exact hafter.due next hnext

/-- A write that the work waits for offers the event that is due. -/
def Work.Due : Work → Prop
  | .writing _ call => call.Offers
  | .executing .. | .recording _ => True

namespace Workshop

/-- What the work on a job comes to: it goes on, an attempt is brought to its end and told, or there
is nobody any more who waits for its end. -/
inductive ComesTo (w : Workshop) (limit : Nat) (job : Job) : Workshop × WorkProgress → Prop where
  | waits (next : Workshop) (work : Work) (hqueue : next.queue = w.queue)
      (hjob : work.job? = some job) (hdue : work.Due) :
      ComesTo w limit job (next, .waiting work)
  | settled (next : Workshop) (event : AuditEvent) (before after : Job)
      (hbefore : w.queue.get? job.id = some before) (hstatus : before.status = .processing)
      (hid : after.id = before.id) (hjobs : next.queue.jobs = (w.queue.update after).jobs)
      (hsettles : before = job → event.Settles limit after) :
      ComesTo w limit job (next, .waiting (.recording event))
  | gone (next : Workshop) (progress : WorkProgress) (hqueue : next.queue = w.queue)
      (hprogress : progress = .done ∨ progress = .broken) : ComesTo w limit job (next, progress)

variable {w next : Workshop}

theorem comesTo_acknowledge (hqueue : next.queue = w.queue) (limit : Nat) (stamp : Stamp)
    (job : Job) (result : Json) :
    w.ComesTo limit job (next.acknowledge limit stamp job result) := by
  unfold acknowledge
  rcases next.queue.ack_cases job.id result stamp.now with
    ⟨error, hack, _⟩ | ⟨before, hbefore, hstatus, hack⟩
  · rw [hack]
    exact .gone next .done hqueue (.inl rfl)
  · rw [hack]
    let after : Job := { before with
      status := .succeeded, result := some result, lastError := none, updatedAt := stamp.now }
    refine .settled _ _ before after (hqueue ▸ hbefore) hstatus rfl (by rw [hqueue]) ?_
    rintro rfl
    refine .acknowledged result rfl rfl rfl rfl rfl ?_
    rw [AuditEvent.lookup_withData, if_pos rfl]

theorem comesTo_refuse (hqueue : next.queue = w.queue) (limit : Nat) (stamp : Stamp) (job : Job)
    (fault : Fault) : w.ComesTo limit job (next.refuse stamp job fault) := by
  -- The attempt is numbered by the copy, and the record says whether it was the last one.
  have hevent : ∀ after : Job, after.id = job.id → after.attempts = job.attempts →
      after.lastError = some fault.text → after.status = .queued ∨ after.status = .failed →
      AuditEvent.Settles limit
        (((((AuditEvent.forJob stamp job "orchestrator.job.failed" .failed).withData
          "success" (.bool false)).withData
          "error" (.str fault.text)).withData
          "attempt" (.ofNat job.attempts)).withData
          "retrying" (.bool (after.status = .queued))) after := by
    intro after hid hattempts herror hstatus
    refine .refused fault.text ?_ hstatus herror rfl rfl ?_ ?_ ?_
    · rw [hid]
      rfl
    · rw [AuditEvent.lookup_withData, if_neg (by decide), AuditEvent.lookup_withData, if_pos rfl,
        hattempts]
    · rw [AuditEvent.lookup_withData, if_neg (by decide), AuditEvent.lookup_withData,
        if_neg (by decide), AuditEvent.lookup_withData, if_pos rfl]
    · rw [AuditEvent.lookup_withData, if_pos rfl]
  unfold refuse
  rcases next.queue.nack_cases job.id fault.text stamp.now with
    ⟨error, hnack, _⟩ | ⟨before, hbefore, hstatus, ⟨_, hnack⟩ | ⟨_, hnack⟩⟩
  · rw [hnack]
    exact .gone next .done hqueue (.inl rfl)
  · rw [hnack]
    let after : Job := { before with
      status := .queued, lastError := some fault.text, updatedAt := stamp.now }
    refine .settled _ _ before after (hqueue ▸ hbefore) hstatus rfl (by rw [hqueue]) ?_
    rintro rfl
    exact hevent after rfl rfl rfl (.inl rfl)
  · rw [hnack]
    let after : Job := { before with
      status := .failed, lastError := some fault.text, updatedAt := stamp.now }
    refine .settled _ _ before after (hqueue ▸ hbefore) hstatus rfl (by rw [hqueue]) ?_
    rintro rfl
    exact hevent after rfl rfl rfl (.inr rfl)

theorem comesTo_afterGateway (hqueue : next.queue = w.queue) (limit : Nat) (stamp : Stamp)
    (job : Job) {progress : Progress} (hoffers : ∀ call, progress = .waiting call → call.Offers) :
    w.ComesTo limit job (next.afterGateway limit stamp job progress) := by
  cases progress with
  | waiting call => exact .waits next _ hqueue rfl (hoffers call rfl)
  | answered outcome => exact comesTo_acknowledge hqueue limit stamp job outcome.toJson
  | broken => exact .gone next .broken hqueue (.inr rfl)

theorem comesTo_start (w : Workshop) (env : Environment) (limit : Nat) (stamp : Stamp) (job : Job) :
    w.ComesTo limit job (w.start env limit stamp job) := by
  unfold start
  split
  next =>
    split
    next => exact comesTo_refuse rfl limit stamp job _
    next =>
      rcases w.router.execute env stamp job.payload with ⟨router, dispatch⟩
      cases dispatch with
      | reported report => exact comesTo_acknowledge (by rfl) limit stamp job _
      | running execution => exact .waits _ _ rfl rfl trivial
  next =>
    split
    next => exact comesTo_refuse rfl limit stamp job _
    next envelope _ =>
      exact comesTo_afterGateway (by rfl) limit stamp job
        (Gateway.request_offers stamp envelope true).due
  next => exact comesTo_refuse rfl limit stamp job _

theorem comesTo_executed (w : Workshop) (limit : Nat) (stamp : Stamp) (job : Job)
    (execution : Execution) (answer : Except Fault Json) :
    w.ComesTo limit job (w.executed limit stamp job execution answer) := by
  unfold executed
  rcases w.router.finished execution stamp.now answer with ⟨router, report?⟩
  cases report? with
  | some report => exact comesTo_acknowledge (by rfl) limit stamp job _
  | none => exact .gone _ .broken rfl (.inr rfl)

theorem comesTo_replied (w : Workshop) (limit : Nat) (stamp : Stamp) (job : Job) {call : Call}
    (hoffers : call.Offers) {reply : Reply} (hexpects : call.awaits.expects reply) :
    w.ComesTo limit job (w.replied limit stamp job call reply) :=
  comesTo_afterGateway (by rfl) limit stamp job (hoffers.resume w.gateway stamp hexpects)

end Workshop

end Gatehouse
