import Gatehouse.Proofs.Gateway.Audited
import Gatehouse.Proofs.Orchestrator.Fate
import Gatehouse.Proofs.Orchestrator.HouseResults
import Gatehouse.Proofs.Orchestrator.Unrecorded
import Gatehouse.Proofs.Policy.Unlocking

/-! # The audit trail sways nothing

Run the house twice, with everybody doing the same but the sink, which may
accept other events. What is done by handlers and adapters, what is kept, and
what is answered is the same in both runs, but for the names of records. And a
name is there exactly where the sink of that run accepted the event that tells
the answer.
-/

namespace Gatehouse

/-- What handlers were asked to do, by which calls, in order. -/
def Traffic.handlings (s : Traffic) : List (CallId × HandlerId × Envelope) :=
  s.history.filterMap fun
    | .asked call (.handler handler envelope) => some (call, handler, envelope)
    | _ => none

theorem Traffic.handlings_unrecorded (s : Traffic) : s.unrecorded.handlings = s.handlings := by
  simp only [handlings, unrecorded, List.filterMap_map]
  congr 1
  funext event
  cases event <;> rfl

namespace House

open Governed (stampNamed)

variable {h : House}

/-- Two houses are the same but for what their sinks accepted and how the records are named. -/
structure SameButRecords (h other : House) : Prop where
  /-- Handlers were asked for the same writes in the same order. -/
  handlings : h.governed.traffic.handlings = other.governed.traffic.handlings
  /-- Adapters were asked to do the same, and agents are what they are. -/
  deployment : h.deployment = other.deployment
  /-- The accepted writes, the ledger of keys and the handlers are the same. -/
  gateway : h.governed.traffic.gateway = other.governed.traffic.gateway
  calls : h.governed.traffic.calls = other.governed.traffic.calls
  book : h.governed.book = other.governed.book
  /-- All that was seen of the gateway is the same, its answers but for the names of records. -/
  history : h.history.map GatewayEvent.unrecorded = other.history.map GatewayEvent.unrecorded
  /-- The queue is the same but for names of records in results. -/
  queue : h.queue.unrecorded = other.queue.unrecorded
  post : h.post.unrecorded = other.post.unrecorded
  waiting : (h.waiting.mapValues fun _ => Waiting.unrecorded) =
    other.waiting.mapValues fun _ => Waiting.unrecorded
  responses : h.responses.map (Prod.map id SubmitResponse.unrecorded) =
    other.responses.map (Prod.map id SubmitResponse.unrecorded)

theorem sameButRecords_of_unrecorded {other : House} (hsame : h.unrecorded = other.unrecorded) :
    h.SameButRecords other where
  handlings := by
    rw [← Traffic.handlings_unrecorded, ← Traffic.handlings_unrecorded other.governed.traffic]
    exact congrArg (fun house => house.governed.traffic.handlings) hsame
  deployment := (congrArg House.deployment hsame :)
  gateway := congrArg (fun house => house.governed.traffic.gateway) hsame
  calls := congrArg (fun house => house.governed.traffic.calls) hsame
  book := congrArg (fun house => house.governed.book) hsame
  history := congrArg House.history hsame
  queue := congrArg House.queue hsame
  post := congrArg House.post hsame
  waiting := congrArg House.waiting hsame
  responses := congrArg House.responses hsame

/-- Where names of records come from. -/
structure Attested (h : House) : Prop where
  /-- An answer names a record exactly where the sink accepted an event that tells it. -/
  answers : ∀ {call outcome}, .answered call outcome ∈ h.history →
    h.governed.traffic.NamesRecord call outcome
  /-- A result is what an agent reported, which names no record, or is the answer to a call. -/
  results : ∀ {id job result}, h.queue.get? id = some job → job.result = some result →
    (job.kind = .agentExecute ∧ ∃ report : ExecutionReport, result = report.toJson) ∨
      job.kind = .writeExecute ∧ job.AnsweredWith h.history result
  /-- A result that was given away is that of a job. -/
  responses : ∀ {waiter response result}, (waiter, response) ∈ h.responses →
    response.result = some result →
    ∃ job, h.queue.get? response.jobId = some job ∧ job.result = some result

/-- There is nothing to forget about the job of an agent. -/
theorem Attested.unrecorded_of_agent (hattested : h.Attested) {id : JobId} {job : Job}
    (hjob : h.queue.get? id = some job) (hkind : job.kind = .agentExecute) :
    job.unrecorded = job := by
  have hresult : job.result.map Json.unrecorded = job.result := by
    cases hresult : job.result with
    | none => rfl
    | some result =>
        rcases hattested.results hjob hresult with ⟨_, report, rfl⟩ | ⟨hwrite, _⟩
        · rw [Option.map_some, report.unrecorded_toJson]
        · rw [hkind] at hwrite
          contradiction
  rw [Job.unrecorded, hresult]

theorem traffic_run (regime : Regime) (h : House) (actions : List Action) :
    ∃ moves, (h.run regime actions).governed.traffic = h.governed.traffic.run moves := by
  induction actions generalizing h with
  | nil => exact ⟨[], rfl⟩
  | cons action rest ih =>
      obtain ⟨moves, hmoves⟩ := ih (h.step regime action)
      have hrest : (h.run regime (action :: rest)).governed.traffic =
          (h.step regime action).governed.traffic.run moves := hmoves
      rcases governed_step regime h action with hsame | ⟨act, hact, _⟩
      · exact ⟨moves, by rw [hrest, hsame]⟩
      · rw [hact, Governed.traffic_perform] at hrest
        split at hrest
        next moved _ => exact ⟨moved :: moves, hrest⟩
        next => exact ⟨moves, hrest⟩

theorem attested_run (regime : Regime) (ttl : Span) (router : Router)
    (settings : OrchestratorSettings) (actions : List Action) :
    ((start regime ttl router settings).run regime actions).Attested := by
  have hkeeps : ∀ {h : House} (action : Action), h.Kept →
      h.shift.Destined ∧ h.Traced ∧ h.Informed →
      (h.step regime action).shift.Destined ∧ (h.step regime action).Traced ∧
        (h.step regime action).Informed := by
    intro h action hkept ⟨hdestined, htraced, hinformed⟩
    exact ⟨(hkept.step regime action).destined hkept.working hdestined,
      traced_step hkept htraced regime action, informed_step hkept hinformed regime action⟩
  have hdestined : (start regime ttl router settings).shift.Destined :=
    fun id job hjob => by contradiction
  obtain ⟨hkept, hdestined, htraced, hinformed⟩ := run_keeps hkeeps
    (kept_start regime ttl router settings)
    ⟨hdestined, traced_start regime ttl router settings,
      informed_start regime ttl router settings⟩ actions
  constructor
  case answers =>
    intro call outcome hanswered
    obtain ⟨moves, hmoves⟩ := traffic_run regime (start regime ttl router settings) actions
    rw [history] at hanswered
    rw [hmoves] at hanswered ⊢
    exact (Traffic.audited_run _ ttl moves).answered call outcome hanswered
  case results =>
    intro id job result hjob hresult
    have hsucceeded := (hkept.working.orderly.sound hjob).result (by simp [hresult])
    obtain ⟨haccepts, _, reported, hreported, hreports⟩ :=
      (hdestined id job hjob).succeeded hsucceeded
    obtain rfl := Option.some.inj (hresult.symm.trans hreported)
    cases hkind : job.kind with
    | agentExecute =>
        obtain ⟨report, hreport, _⟩ := hreports.1 hkind
        exact .inl ⟨rfl, report, hreport⟩
    | writeExecute => exact .inr ⟨rfl, htraced.results hjob hkind hresult⟩
    | other name =>
        rw [hkind] at haccepts
        contradiction
  case responses => exact hinformed.responses

/-- What two runs have in common in which the sinks alone may differ. -/
structure Unswayed (h other : House) : Prop where
  same : h.SameButRecords other
  attested : h.Attested
  othersAttested : other.Attested
  /-- What agents reported names no record, so it is entirely the same. -/
  agents : ∀ {id job twin}, h.queue.get? id = some job → other.queue.get? id = some twin →
    job.kind = .agentExecute → twin = job

theorem run_unswayed (regime : Regime) (ttl : Span) (router : Router)
    (settings : OrchestratorSettings) {actions others : List Action}
    (hsame : actions.map Action.unrecorded = others.map Action.unrecorded) :
    Unswayed ((start regime ttl router settings).run regime actions)
      ((start regime ttl router settings).run regime others) := by
  have hunrecorded : ((start regime ttl router settings).run regime actions).unrecorded =
      ((start regime ttl router settings).run regime others).unrecorded := by
    rw [run_unrecorded, run_unrecorded, hsame]
  have hattested := attested_run regime ttl router settings
  constructor
  case same => exact sameButRecords_of_unrecorded hunrecorded
  case attested => exact hattested actions
  case othersAttested => exact hattested others
  case agents =>
    intro id job twin hjob htwin hkind
    have hqueue := congrArg (fun house => house.queue.get? id) hunrecorded
    simp only [queue_unrecorded, JobQueue.get?_unrecorded, hjob, htwin, Option.map_some] at hqueue
    have halike := Option.some.inj hqueue
    have htwinKind : twin.kind = .agentExecute :=
      (congrArg Job.kind halike).symm.trans hkind
    rw [(hattested actions).unrecorded_of_agent hjob hkind,
      (hattested others).unrecorded_of_agent htwin htwinKind] at halike
    exact halike.symm

/-- The payload of a job that asks for a note to be written. -/
def notePayload : Json :=
  .ofFields [("command", .str "append_note"), ("actor_id", .str "editor"),
    ("resource", .str "site:page"), ("idempotency_key", .str "first")]

/-- A note is written by the worker while the sink accepts everything or nothing. -/
def noteWritten (accepted : Bool) : List Action := [
  .governance (.gateway (.register "append_note" ⟨0⟩)),
  .engage,
  .submit ⟨0⟩ (stampNamed "job") ⟨.writeExecute, notePayload, some "first", none, true, none⟩ 0,
  .claim (.ofNanos 0),
  .begin 0 ⟨.empty⟩ (stampNamed "a"),
  .governance (.gateway (.reply ⟨0⟩ (stampNamed "b") (.recorded accepted))),
  .governance (.rule ⟨0⟩ (stampNamed "c")),
  .governance (.gateway (.reply ⟨0⟩ (stampNamed "d") (.recorded accepted))),
  .governance (.gateway (.reply ⟨0⟩ (stampNamed "e") (.recorded accepted))),
  .governance (.gateway (.reply ⟨0⟩ (stampNamed "f") (.applied (.ok .null)))),
  .governance (.gateway (.reply ⟨0⟩ (stampNamed "g") (.recorded accepted))),
  .record accepted,
  .look ⟨0⟩ 0]

/-- The house in which that happened. -/
def noteHouse (accepted : Bool) : House :=
  (start ⟨.allowAll, .book, false⟩ (.ofSeconds 120) (.new .standard) .standard).run
    ⟨.allowAll, .book, false⟩ (noteWritten accepted)

/-- The statuses of jobs that were answered, with the names of records in their results. -/
def namedRecords (h : House) : List (JobStatus × Option Json) :=
  h.responses.map fun entry => (entry.2.status, entry.2.result.bind fun result =>
    result.get? "audit_id")

theorem noteHouse_unswayed :
    (noteWritten true).map Action.unrecorded = (noteWritten false).map Action.unrecorded ∧
      (noteHouse true).namedRecords = [(.succeeded, some (.str "f"))] ∧
      (noteHouse false).namedRecords = [(.succeeded, some .null)] ∧
      Unswayed (noteHouse true) (noteHouse false) := by
  refine ⟨rfl, ?_, ?_, run_unswayed _ _ _ _ rfl⟩
  · decide +kernel
  · decide +kernel

end House

end Gatehouse
