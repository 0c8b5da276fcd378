import Gatehouse.Proofs.Orchestrator.HouseCourse
import Gatehouse.Proofs.Policy.Fulfilment
import Gatehouse.Proofs.Write.Renewal

/-! # Handing in a write that was parked

A write that was parked under an approval can be handed in once more with it as
soon as the operator has granted it. Under the execution of the parked job there
is nothing to be gained by that: who hands in a job of a known execution is given
the record that there is, and a record with a result is over. Under an execution
of its own the write is a new job, and if nobody comes between its call and the
write, the worker carries it out.
-/

namespace Gatehouse

theorem WriteStatus.text_injective : Function.Injective WriteStatus.text := by
  intro status other htext
  cases status <;> cases other <;> first | rfl | exact absurd htext (by decide)

theorem WriteOutcome.status_of_toJson {outcome other : WriteOutcome}
    (hsame : outcome.toJson = other.toJson) : outcome.status = other.status := by
  have hstatus : ∀ given : WriteOutcome,
      given.toJson.get? "status" = some (.str given.status.text) := fun _ => rfl
  have htext := (hstatus outcome).symm.trans (hsame ▸ hstatus other)
  exact WriteStatus.text_injective (Json.str.inj (Option.some.inj htext))

theorem Workshop.writeOf_eq_ok {stamp : Stamp} {job : Job} {envelope : Envelope}
    (hwrite : writeOf stamp job = .ok envelope) : ∃ write,
      Envelope.decode stamp job.payload = .ok write ∧
        envelope = { write with execution := write.execution <|> job.execution } := by
  unfold writeOf at hwrite
  split at hwrite
  · contradiction
  next write hdecode => exact ⟨write, hdecode, (Except.ok.inj hwrite).symm⟩

namespace Job

/-- Whatever stamp it is tried under, a job asks for a write once more, with an approval. -/
def Renews (job : Job) (write : Envelope) (approval : String) : Prop :=
  ∀ stamp, ∃ again, Workshop.writeOf stamp job = .ok again ∧ again.Renews write approval

variable {job : Job} {write : Envelope} {approval : String}

theorem renews_of_payload {payload : Json} (hrenews : job.payload.Renews payload approval)
    {stamp : Stamp} (hdecode : Envelope.decode stamp payload = .ok write) :
    job.Renews { write with execution := write.execution <|> job.execution } approval := by
  intro later
  obtain ⟨again, hagain, hsame⟩ := hrenews hdecode later
  exact ⟨_, by rw [Workshop.writeOf, hagain], hsame.filled job.execution⟩

theorem Renews.of_writeOf (hrenews : job.Renews write approval) {stamp : Stamp}
    {envelope : Envelope} (hwrite : Workshop.writeOf stamp job = .ok envelope) :
    envelope.Renews write approval := by
  obtain ⟨again, hagain, hsame⟩ := hrenews stamp
  rwa [Except.ok.inj (hwrite.symm.trans hagain)]

end Job

namespace House

/-- The worker makes a move by an action. -/
def moves (regime : Regime) (h : House) (action : Action) : Bool :=
  h.shift.moves (h.shadow regime action)

/-- A job asked for a write that was parked, and the operator has granted its approval since. -/
structure Approved (h : House) (id : JobId) (job : Job) (approval : String) : Prop where
  record : h.queue.get? id = some job
  kind : job.kind = .writeExecute
  parked : ∃ outcome : WriteOutcome, job.result = some outcome.toJson ∧
    outcome.status = .requiresApproval ∧ outcome.approval = some approval
  granted : h.governed.book.state? approval = some .approved

/-- What it takes for the write of a job to be carried out with its approval. -/
structure Unhindered (regime : Regime) (ttl : Span) (h : House) (id : JobId) (write : Envelope)
    (approval : String) (later : Nat → Action) : Prop where
  /-- The guardrails alone rule on writes, and the book alone opens approvals. -/
  lawful : ∀ n, (later n).lawful regime
  /-- As long as the worker is not through with the job, it is at its post, -/
  present : ∀ n, ¬ (h.course regime later n).shift.Over id →
    (h.course regime later n).post ≠ .absent
  /-- it comes to move again, -/
  moves : ∀ n, ¬ (h.course regime later n).shift.Over id →
    ∃ m, n ≤ m ∧ (h.course regime later m).moves regime (later m)
  /-- and nobody cancels the job. -/
  wanted : ∀ n now, ¬ (h.course regime later n).shift.Over id → later n ≠ .cancel id now
  /-- The approval is not taken back. -/
  kept : ∀ n, GrantKept (h.course regime later n).governed.log h.governed.log.length approval
  /-- A handler is there for the command. -/
  registered : boundTo h.history write.command ≠ none
  /-- Nobody comes between a call that the worker makes for the job and the write. -/
  unimpeded : ∀ {n call}, h.CallsAt regime later id n call → ∀ m,
    Unimpeded (h.course regime later m).history ttl call write.resolvedKey

/-- The result of a job is that its write was applied, and a handler was called for it just once. -/
def CarriedOut (h : House) (id : JobId) (write : Envelope) : Prop :=
  ∃ (job : Job) (outcome : WriteOutcome), h.queue.get? id = some job ∧
    job.result = some outcome.toJson ∧ outcome.status = .applied ∧
      ∃! place, HandledAt h.history write.resolvedKey place

/-- Somebody can hand in a job: the name for it is new, and they do not wait for another. -/
def Admits (h : House) (waiter : WaiterId) (stamp : Stamp) : Prop :=
  h.queue.get? ⟨stamp.id⟩ = none ∧ h.waiting.contains waiter = false

/-- A submission asks for the write of a job once more, with an approval and under an execution that
no job has. -/
structure AsksAgain (h : House) (job : Job) (approval : String) (again : Submission) : Prop where
  kind : again.kind = .writeExecute
  payload : again.payload.Renews job.payload approval
  execution : again.execution ≠ none
  unknown : h.queue.known? again.execution = none

/-- What becomes of a write that was parked when it is handed in once more. -/
structure Resumes (regime : Regime) (ttl : Span) (h : House) : Prop where
  /-- Under the execution of its job nothing happens but an answer with the result that there is,
  and that is the result for good. -/
  known : ∀ {id job approval waiter stamp}, h.Approved id job approval → job.execution ≠ none →
    h.Admits waiter stamp → ∀ (again : Submission) (now : Nat), again.execution = job.execution →
    (∃ waiting response, h.step regime (.submit waiter stamp again now) =
        { h with waiting := waiting, responses := h.responses ++ [(waiter, response)] } ∧
      response.jobId = id ∧ response.result = job.result) ∧
    ∀ later n, ∃ after,
      ((h.step regime (.submit waiter stamp again now)).course regime later n).queue.get? id =
        some after ∧ after.result = job.result
  /-- Under another one it is a new job, whose write comes with the approval. -/
  asked : ∀ {id job approval waiter stamp} {again : Submission}, h.Approved id job approval →
    h.AsksAgain job approval again → h.Admits waiter stamp → ∀ now : Nat,
    ∃ fresh, (h.step regime (.submit waiter stamp again now)).queue.get? ⟨stamp.id⟩ = some fresh ∧
      ∀ given, ∃ write, Workshop.writeOf given fresh = .ok write ∧ write.approval = some approval
  /-- This write is carried out unless it is hindered. -/
  carriedOut : ∀ {id job approval waiter stamp} {again : Submission} {now fresh given write later},
    h.Approved id job approval → h.AsksAgain job approval again → h.Admits waiter stamp →
    (h.step regime (.submit waiter stamp again now)).queue.get? ⟨stamp.id⟩ = some fresh →
    Workshop.writeOf given fresh = .ok write →
    (h.step regime (.submit waiter stamp again now)).Unhindered regime ttl ⟨stamp.id⟩ write approval
      later →
    ∃ n, ∀ m, n ≤ m → ((h.step regime (.submit waiter stamp again now)).course regime later
      m).CarriedOut ⟨stamp.id⟩ write

section Resumes

variable {regime : Regime} {ttl : Span} {h : House} {id : JobId} {job : Job} {approval : String}

/-- The guardrails do not deny the write of a job that was parked. -/
theorem Approved.free (happroved : h.Approved id job approval) (htraced : h.Traced)
    (hrecorded : h.governed.Recorded regime ttl) (hbookkept : h.governed.Bookkept)
    (hopener : regime.opener = .book) :
    ∃ stamp write, Envelope.decode stamp job.payload = .ok write ∧
      write.command ∉ regime.guardrails.denied := by
  obtain ⟨outcome, hresult, hstatus, _⟩ := happroved.parked
  obtain ⟨call, given, ⟨stamp, envelope, hwrite, hrequested⟩, hanswered, hsame⟩ :=
    htraced.results happroved.record happroved.kind hresult
  rw [WriteOutcome.status_of_toJson hsame] at hstatus
  rw [history, ← hrecorded.history, mem_seen_iff] at hrequested hanswered
  obtain ⟨place, hplace⟩ := List.mem_iff_getElem?.mp hanswered
  obtain ⟨⟨_, _, _, _, hruled⟩, _⟩ := hrecorded.parking hbookkept hopener hplace hstatus
  obtain ⟨_, hfree, _⟩ := hrecorded.of_parked hrequested hruled
  obtain ⟨write, hdecode, rfl⟩ := Workshop.writeOf_eq_ok hwrite
  exact ⟨stamp, write, hdecode, hfree⟩

/-- Handing in a job of a known execution brings an answer with that job, and nothing else. -/
theorem step_submit_known (htidy : h.queue.Tidy) (hjob : h.queue.get? id = some job)
    (hover : job.status.isTerminal) {again : Submission}
    (hknown : h.queue.known? again.execution = some job) {waiter : WaiterId} {stamp : Stamp}
    (hadmits : h.Admits waiter stamp) (regime : Regime) (now : Nat) :
    ∃ waiting response, h.step regime (.submit waiter stamp again now) =
        { h with waiting := waiting, responses := h.responses ++ [(waiter, response)] } ∧
      response.jobId = id ∧ response.result = job.result := by
  obtain ⟨hname, hwaiter⟩ := hadmits
  have henqueue : again.enqueue h.settings h.queue stamp = (job, h.queue) :=
    JobQueue.enqueue_of_known hknown _ _ _ _
  have hid : job.id = id := htidy.id_eq hjob
  have hown : h.queue.get? job.id = some job := by rw [hid, hjob]
  simp only [step, hname, hwaiter, henqueue]
  split
  next hbusy => simp at hbusy
  next =>
    split
    · refine ⟨h.waiting.erase waiter, .ofJob job, ?_, hid, rfl⟩
      simp only [see, Waiting.look, hown, Option.getD_some, hover, if_true]
    · exact ⟨_, .unawaited job, rfl, hid, rfl⟩

/-- Handing in a job of an execution that is not known adds it to the queue. -/
theorem step_submit_unknown {again : Submission} (hunknown : h.queue.known? again.execution = none)
    {waiter : WaiterId} {stamp : Stamp} (hadmits : h.Admits waiter stamp) (regime : Regime)
    (now : Nat) :
    ∃ maxAttempts waiting responses, h.step regime (.submit waiter stamp again now) =
      { h with
        queue := h.queue.add (.new stamp again.kind again.payload again.execution maxAttempts)
        waiting := waiting
        responses := responses } := by
  obtain ⟨hname, hwaiter⟩ := hadmits
  have henqueue : again.enqueue h.settings h.queue stamp =
      (.new stamp again.kind again.payload again.execution
        (again.maxAttempts.getD h.settings.defaultMaxAttempts),
      h.queue.add (.new stamp again.kind again.payload again.execution
        (again.maxAttempts.getD h.settings.defaultMaxAttempts))) := by
    simp only [Submission.enqueue, JobQueue.enqueue, hunknown]
  simp only [step, hname, hwaiter, henqueue]
  split
  next hbusy => simp at hbusy
  next =>
    split
    · obtain ⟨waiting, responses, hsee⟩ := see_eq ..
      exact ⟨_, waiting, responses, hsee⟩
    · exact ⟨_, h.waiting, _, rfl⟩

/-- A job that asks for a write which the guardrails do not deny, with an approval that is granted,
and the worker has not turned to it yet. -/
structure Awaits (regime : Regime) (ttl : Span) (h : House) (id : JobId) (job : Job)
    (approval : String) : Prop where
  kept : h.Kept
  traced : h.Traced
  destined : h.shift.Destined
  recorded : ∀ actions, (h.governed.run regime actions).Recorded regime ttl
  record : h.queue.get? id = some job
  kind : job.kind = .writeExecute
  queued : job.status = .queued
  unpursued : ∀ made, h.Pursued made h.governed.log.length id
  granted : h.governed.book.state? approval = some .approved
  asks : ∃ write, job.Renews write approval ∧ write.execution ≠ none ∧
    write.command ∉ regime.guardrails.denied

section Awaits

variable {write : Envelope} {later : Nat → Action}

theorem Awaits.accepts (hawaits : h.Awaits regime ttl id job approval) :
    job.kind.Accepts job.payload := by
  obtain ⟨_, hrenews, _⟩ := hawaits.asks
  rw [hawaits.kind]
  refine .write _ fun stamp => ?_
  obtain ⟨_, hwrite, _⟩ := hrenews stamp
  obtain ⟨envelope, hdecode, _⟩ := Workshop.writeOf_eq_ok hwrite
  exact ⟨envelope, hdecode⟩

/-- The worker gets to the end of the job. -/
theorem Unhindered.over (hunhindered : h.Unhindered regime ttl id write approval later)
    (hawaits : h.Awaits regime ttl id job approval) :
    ∃ n, (h.course regime later n).shift.Over id := by
  by_contra hover
  have hnever : ∀ n, ¬ (h.course regime later n).shift.Over id := fun n hn => hover ⟨n, hn⟩
  have hshift := shift_course hawaits.kept regime later
  have hdrives : h.shift.Drives (h.shadows regime later) id := by
    constructor
    case present =>
      intro n
      rw [← hshift]
      exact (kept_course hawaits.kept regime later n).manned.present
        (hunhindered.present n (hnever n))
    case moves =>
      intro n
      obtain ⟨m, hle, hmoves⟩ := hunhindered.moves n (hnever n)
      rw [House.moves, hshift] at hmoves
      exact ⟨m, hle, hmoves⟩
    case wanted =>
      exact fun n now hcancel => hunhindered.wanted n now (hnever n) (of_shadow_cancel hcancel)
  obtain ⟨n, hend⟩ := hdrives.over hawaits.kept.working ⟨hawaits.record, .inl hawaits.queued⟩
  exact hnever n (by rw [hshift]; exact hend)

/-- From some time on the job has a result. -/
theorem Unhindered.result (hunhindered : h.Unhindered regime ttl id write approval later)
    (hawaits : h.Awaits regime ttl id job approval) :
    ∃ n, ∀ m, n ≤ m → ∃ record result, (h.course regime later m).queue.get? id = some record ∧
      job.Alike record ∧ record.result = some result := by
  obtain ⟨n, record, hrecord, hstatus⟩ := hunhindered.over hawaits
  obtain ⟨found, hfound, halike⟩ := alike_course hawaits.kept hawaits.record regime later n
  obtain rfl : found = record := Option.some.inj (hfound.symm.trans hrecord)
  have hfated : found.Fated := by
    have hdestined := hawaits.destined.course hawaits.kept.working (h.shadows regime later) n
    rw [← shift_course hawaits.kept] at hdestined
    exact hdestined id found hfound
  rcases hstatus with hsucceeded | hfailed
  · obtain ⟨_, _, result, hresult, _⟩ := hfated.succeeded hsucceeded
    refine ⟨n, fun m hle => ?_⟩
    obtain ⟨after, hafter, hkept⟩ := result_course hawaits.kept hle hfound hresult
    obtain ⟨same, hsame, halike⟩ := alike_course hawaits.kept hawaits.record regime later m
    obtain rfl := Option.some.inj (hsame.symm.trans hafter)
    exact ⟨same, result, hsame, halike, hkept⟩
  · -- Somebody is there whom the job can be handed to.
    obtain ⟨⟨fault, hrejects, _⟩, _⟩ := hfated.failed hfailed
    rw [halike.kind, halike.payload] at hrejects
    exact absurd hawaits.accepts hrejects.not_accepts

/-- A call that brought the job its result was to carry out the write, and nothing kept it from
that. -/
theorem Unhindered.fulfilling (hunhindered : h.Unhindered regime ttl id write approval later)
    (hawaits : h.Awaits regime ttl id job approval) {given : Stamp}
    (hwrite : Workshop.writeOf given job = .ok write) {m : Nat} {call : CallId}
    (hmade : ∃ n, h.CallsAt regime later id n call)
    (hpursued : job.PursuedBy h.governed.log.length (h.course regime later m).governed call) :
    ∃ envelope, envelope.resolvedKey = write.resolvedKey ∧
      (h.course regime later m).governed.Fulfilling regime ttl h.governed.log.length call envelope
        approval := by
  obtain ⟨original, hrenews, hexecution, hfree⟩ := hawaits.asks
  obtain ⟨stamp, envelope, hasked, hrequested⟩ := hpursued.requested
  have hsame := hrenews.of_writeOf hasked
  have hgiven := hrenews.of_writeOf hwrite
  have hkey : envelope.resolvedKey = write.resolvedKey :=
    hsame.resolvedKey_eq.trans hgiven.resolvedKey_eq.symm
  obtain ⟨n, hcalls⟩ := hmade
  have hrecorded : h.governed.Recorded regime ttl := hawaits.recorded []
  obtain ⟨acts, hacts⟩ := governed_course (h := h) hunhindered.lawful m
  have htake : (h.course regime later m).governed.log.take h.governed.log.length =
      h.governed.log := by
    obtain ⟨added, hadded⟩ := Governed.log_run regime h.governed acts
    rw [hacts, ← hadded, List.take_left]
  refine ⟨envelope, hkey, ?_⟩
  constructor
  case requested => exact hrequested
  case meant => exact hpursued.meant
  case execution => rwa [hsame.execution_eq]
  case free => rwa [hsame.command_eq]
  case approval => exact hsame.approval_eq
  case granted =>
    rw [htake, ← hrecorded.book]
    exact hawaits.granted
  case kept => exact hunhindered.kept m
  case fresh => exact hpursued.fresh
  case registered =>
    rw [htake, hrecorded.history, hsame.command_eq, ← hgiven.command_eq]
    exact hunhindered.registered
  case unimpeded =>
    rw [hkey]
    exact hunhindered.unimpeded hcalls m

theorem Unhindered.carriedOut (hunhindered : h.Unhindered regime ttl id write approval later)
    (hawaits : h.Awaits regime ttl id job approval) {given : Stamp}
    (hwrite : Workshop.writeOf given job = .ok write) :
    ∃ n, ∀ m, n ≤ m → (h.course regime later m).CarriedOut id write := by
  obtain ⟨n, hresult⟩ := hunhindered.result hawaits
  refine ⟨n, fun m hle => ?_⟩
  obtain ⟨record, result, hrecord, halike, hgiven⟩ := hresult m hle
  have hpursued := pursued_course hawaits.kept hawaits.traced hawaits.recorded hunhindered.lawful
    (Nat.le_refl _) (fun {n call} hcalls => ⟨n, hcalls⟩)
    (hawaits.unpursued fun call => ∃ n, h.CallsAt regime later id n call) m
  obtain ⟨call, outcome, hmade, hbelongs, hanswered, rfl⟩ :=
    hpursued.result hrecord (halike.kind.trans hawaits.kind) hgiven
  obtain ⟨envelope, hkey, hfulfilling⟩ :=
    hunhindered.fulfilling hawaits hwrite hmade (hbelongs.alike halike.symm)
  obtain ⟨acts, hacts⟩ := governed_course (h := h) hunhindered.lawful m
  have hrecorded : (h.course regime later m).governed.Recorded regime ttl :=
    hacts ▸ hawaits.recorded acts
  have honce := hfulfilling.once hrecorded hanswered
  rw [hkey] at honce
  exact ⟨record, outcome, hrecord, hgiven, (hfulfilling.carriedOut hrecorded hanswered).1, honce⟩

end Awaits

/-- Everything that is known of a lawful house in which anything may have happened before. -/
structure Sound (regime : Regime) (ttl : Span) (h : House) : Prop where
  kept : h.Kept
  traced : h.Traced
  destined : h.shift.Destined
  indexed : h.queue.Indexed
  bookkept : h.governed.Bookkept
  recorded : ∀ actions, (h.governed.run regime actions).Recorded regime ttl

theorem sound_run (hopener : regime.opener = .book) (ttl : Span) (router : Router)
    (settings : OrchestratorSettings) {before : List Action}
    (hlawful : ∀ action ∈ before, action.lawful regime) :
    ((start regime ttl router settings).run regime before).Sound regime ttl := by
  have hkeeps : ∀ {h : House} (action : Action), h.Kept →
      h.Traced ∧ h.shift.Destined ∧ h.queue.Indexed →
      (h.step regime action).Traced ∧ (h.step regime action).shift.Destined ∧
        (h.step regime action).queue.Indexed := by
    rintro h action hkept ⟨htraced, hdestined, hindexed⟩
    exact ⟨traced_step hkept htraced regime action,
      (hkept.step regime action).destined hkept.working hdestined,
      (hkept.step regime action).flows.indexed hkept.working.orderly hindexed⟩
  have hdestined : (start regime ttl router settings).shift.Destined :=
    fun id job hjob => by contradiction
  have hindexed : (start regime ttl router settings).queue.Indexed := by
    intro execution id
    simp [start, JobQueue.get?, JobQueue.empty]
  obtain ⟨hkept, htraced, hdestined, hindexed⟩ := run_keeps hkeeps
    (kept_start regime ttl router settings)
    ⟨traced_start regime ttl router settings, hdestined, hindexed⟩ before
  obtain ⟨acts, hacts⟩ := governed_run (h := start regime ttl router settings) hlawful
  refine ⟨hkept, htraced, hdestined, hindexed, ?_, fun actions => ?_⟩
  · rw [hacts]
    exact Governed.bookkept_run regime ttl hopener acts
  · rw [hacts, ← Governed.run_append]
    exact Governed.recorded_run regime ttl (acts ++ actions)

/-- What is handed in anew the worker has not turned to yet. -/
theorem Sound.unpursued (hsound : h.Sound regime ttl) (hnew : h.queue.get? id = none)
    {next : House} (hpost : next.post = h.post) (hjob : next.queue.get? id = some job)
    (hresult : job.result = none) (made : CallId → Prop) (since : Nat) :
    next.Pursued made since id where
  writing := by
    intro found name hwriting hid
    rw [hpost] at hwriting
    obtain ⟨_, _, hstation⟩ := hsound.kept.manned.station_writing hwriting
    have hinHand : h.station.job? = some found := by rw [hstation]; rfl
    obtain ⟨record, hrecord, _⟩ := hsound.traced.inHand hinHand
    rw [hid, hnew] at hrecord
    contradiction
  result := by
    intro found result hfound _ hgiven
    obtain rfl := Option.some.inj (hjob.symm.trans hfound)
    rw [hresult] at hgiven
    contradiction

/-- A parked write that is handed in once more under an execution of its own awaits the worker. -/
theorem Sound.awaits (hsound : h.Sound regime ttl) (hopener : regime.opener = .book)
    (happroved : h.Approved id job approval) {again : Submission}
    (hasks : h.AsksAgain job approval again) {waiter : WaiterId} {stamp : Stamp}
    (hadmits : h.Admits waiter stamp) (now : Nat) :
    ∃ fresh, (h.step regime (.submit waiter stamp again now)).Awaits regime ttl ⟨stamp.id⟩ fresh
      approval := by
  obtain ⟨maxAttempts, waiting, responses, hstep⟩ :=
    step_submit_unknown hasks.unknown hadmits regime now
  have hkept := kept_step hsound.kept regime (.submit waiter stamp again now)
  have htraced := traced_step hsound.kept hsound.traced regime (.submit waiter stamp again now)
  have hdestined := (hsound.kept.step regime (.submit waiter stamp again now)).destined
    hsound.kept.working hsound.destined
  rw [hstep] at hkept htraced hdestined ⊢
  have hrecord : (h.queue.add (.new stamp again.kind again.payload again.execution
      maxAttempts)).get? ⟨stamp.id⟩ =
        some (.new stamp again.kind again.payload again.execution maxAttempts) := by
    rw [JobQueue.get?_add]
    exact if_pos rfl
  obtain ⟨given, write, hdecode, hfree⟩ :=
    happroved.free hsound.traced (hsound.recorded []) hsound.bookkept hopener
  refine ⟨_, hkept, htraced, hdestined, hsound.recorded, hrecord, hasks.kind, rfl,
    fun made => ?_, happroved.granted, ?_⟩
  · refine hsound.unpursued hadmits.1 ?_ hrecord rfl made _
    rfl
  · refine ⟨_, Job.renews_of_payload hasks.payload hdecode, ?_, hfree⟩
    -- The job has an execution even if its write names none.
    obtain ⟨execution, hexecution⟩ := Option.ne_none_iff_exists'.mp hasks.execution
    cases write.execution <;> simp [Job.new, hexecution]

theorem Sound.resumes (hsound : h.Sound regime ttl) (hopener : regime.opener = .book) :
    h.Resumes regime ttl where
  known := by
    intro id job approval waiter stamp happroved hexecution hadmits again now hsame
    obtain ⟨outcome, hresult, _⟩ := happroved.parked
    have horderly := hsound.kept.working.orderly
    have hsucceeded := (horderly.sound happroved.record).result (by simp [hresult])
    obtain ⟨execution, hexecution⟩ := Option.ne_none_iff_exists'.mp hexecution
    have hknown : h.queue.known? again.execution = some job := by
      rw [hsame, hexecution]
      exact hsound.indexed.known?_eq_some_iff.mpr ⟨id, happroved.record, hexecution⟩
    refine ⟨step_submit_known horderly.tidy happroved.record (by rw [hsucceeded]; rfl) hknown
      hadmits regime now, fun later n => ?_⟩
    obtain ⟨after, hafter, hgiven⟩ := (hsound.kept.step regime
      (.submit waiter stamp again now)).flows.result_kept horderly happroved.record hresult
    have hkept := kept_step hsound.kept regime (.submit waiter stamp again now)
    rw [hresult]
    exact result_course hkept (Nat.zero_le n) hafter hgiven
  asked := by
    intro id job approval waiter stamp again happroved hasks hadmits now
    obtain ⟨fresh, hawaits⟩ := hsound.awaits hopener happroved hasks hadmits now
    refine ⟨fresh, hawaits.record, fun given => ?_⟩
    obtain ⟨write, hrenews, _⟩ := hawaits.asks
    obtain ⟨again, hagain, hsame⟩ := hrenews given
    exact ⟨again, hagain, hsame.approval_eq⟩
  carriedOut := by
    intro id job approval waiter stamp again now fresh given write later happroved hasks hadmits
      hfresh hwrite hunhindered
    obtain ⟨found, hawaits⟩ := hsound.awaits hopener happroved hasks hadmits now
    obtain rfl := Option.some.inj (hawaits.record.symm.trans hfresh)
    exact hunhindered.carriedOut hawaits hwrite

/-- In every lawful run of the application a write that was parked is carried out when it is handed
in once more with its approval, but only under an execution of its own. -/
theorem run_resumes {c : Config} {now : Moment} {app : Application}
    (happ : Application.ofConfig c now = .ok app) {before : List Action}
    (hlawful : ∀ action ∈ before, action.lawful app.regime) :
    (app.house.run app.regime before).Resumes app.regime
      app.governed.traffic.gateway.tokens.ttl := by
  obtain rfl := Application.eq_wire_of_ofConfig happ
  have hopener : (Application.wire c now).regime.opener = .book := rfl
  rw [Application.house_wire, Application.governed_wire]
  exact (sound_run hopener _ _ _ hlawful).resumes hopener

end Resumes

section Page

open Governed (stampNamed twoGuarded twoGuardedApp)

/-- The fields of a payload that asks for a page to be published. -/
def pageFields : List (String × Json) := [
  ("actor_id", .str "editor"), ("command", .str "publish_page"), ("idempotency_key", .str "page"),
  ("resource", .str "site:page")]

/-- The worker hands a page in to be published, which is parked, and the operator approves of it. -/
def pageParked : List Action := [
  .governance (.gateway (.register "publish_page" ⟨0⟩)),
  .engage,
  .submit ⟨0⟩ (stampNamed "job")
    ⟨.writeExecute, .obj pageFields, some "first", none, false, none⟩ 0,
  .claim (.ofNanos 0),
  .begin 0 ⟨.empty⟩ (stampNamed "a"),
  .governance (.gateway (.reply ⟨0⟩ (stampNamed "b") (.recorded true))),
  .governance (.rule ⟨0⟩ (stampNamed "c")),
  .governance (.gateway (.reply ⟨0⟩ (stampNamed "d") (.recorded true))),
  .governance (.openFor ⟨0⟩ (stampNamed "page") (stampNamed "e")),
  .governance (.gateway (.reply ⟨0⟩ (stampNamed "f") (.recorded true))),
  .record true,
  .governance (.approve "apr_page")]

/-- The house in which that happened. -/
def parkedHouse : House :=
  twoGuardedApp.house.run twoGuardedApp.regime pageParked

/-- What the write was answered. -/
def parkedOutcome : WriteOutcome :=
  { WriteOutcome.new .requiresApproval ⟨"a"⟩ with
    reason := some "approval_required", auditId := some "e", key := some ⟨"page"⟩,
    approval := some "apr_page" }

/-- The page is handed in once more with its approval, under an execution. -/
def pageAgain (execution : String) : Submission :=
  ⟨.writeExecute, .obj (Json.insertField "approval_id" (.str "apr_page") pageFields),
    some execution, none, false, none⟩

/-- The house in which it is. -/
def againHouse (execution : String) : House :=
  parkedHouse.step twoGuardedApp.regime
    (.submit ⟨1⟩ (stampNamed "again") (pageAgain execution) 0)

theorem parkedHouse_approved : ∃ job, parkedHouse.Approved ⟨"job"⟩ job "apr_page" ∧
    job.execution = some "first" ∧ job.payload = .obj pageFields ∧
    job.result = some parkedOutcome.toJson := by
  have hjob : (parkedHouse.queue.get? ⟨"job"⟩).map
      (fun job => (job.kind, job.execution, job.payload, job.result)) =
        some (.writeExecute, some "first", .obj pageFields, some parkedOutcome.toJson) := by
    decide +kernel
  obtain ⟨job, hrecord, hfields⟩ := Option.map_eq_some_iff.mp hjob
  simp only [Prod.mk.injEq] at hfields
  obtain ⟨hkind, hexecution, hpayload, hresult⟩ := hfields
  exact ⟨job, ⟨hrecord, hkind, ⟨parkedOutcome, hresult, rfl, rfl⟩, by decide +kernel⟩, hexecution,
    hpayload, hresult⟩

/-- A handler is bound, the worker is idle and the approval is granted, but whatever happens after
the page is handed in under its execution once more, its result is that it was parked. -/
theorem againHouse_first_parked :
    Application.ofConfig twoGuarded (.ofNanos 0) = .ok twoGuardedApp ∧
    (∀ action ∈ pageParked, action.lawful twoGuardedApp.regime) ∧
    boundTo parkedHouse.history "publish_page" = some ⟨0⟩ ∧ parkedHouse.post = .idle ∧
    (∃ job, parkedHouse.Approved ⟨"job"⟩ job "apr_page" ∧
      job.execution = (pageAgain "first").execution ∧
      (pageAgain "first").payload.Renews job.payload "apr_page") ∧
    parkedHouse.Admits ⟨1⟩ (stampNamed "again") ∧
    (againHouse "first").queue = parkedHouse.queue ∧
    ∀ later n, ∃ job,
      ((againHouse "first").course twoGuardedApp.regime later n).queue.get? ⟨"job"⟩ = some job ∧
      ∀ outcome : WriteOutcome, job.result = some outcome.toJson →
        outcome.status = .requiresApproval := by
  have hlawful : ∀ action ∈ pageParked, action.lawful twoGuardedApp.regime := by decide
  have hadmits : parkedHouse.Admits ⟨1⟩ (stampNamed "again") := by
    constructor <;> decide +kernel
  obtain ⟨job, happroved, hexecution, hpayload, hresult⟩ := parkedHouse_approved
  have hresumes : parkedHouse.Resumes twoGuardedApp.regime
      twoGuardedApp.governed.traffic.gateway.tokens.ttl :=
    (sound_run rfl _ _ _ hlawful).resumes rfl
  obtain ⟨⟨_, _, hstep, _⟩, hkept⟩ := hresumes.known happroved (by simp [hexecution]) hadmits
    (pageAgain "first") 0 hexecution.symm
  refine ⟨by decide +kernel, hlawful, by decide +kernel, by decide +kernel,
    ⟨job, happroved, hexecution, ?_⟩, hadmits, ?_, fun later n => ?_⟩
  · rw [hpayload]
    exact Json.renews_insertField "apr_page" pageFields
  · exact (congrArg House.queue hstep :)
  · obtain ⟨after, hafter, hsame⟩ := hkept later n
    refine ⟨after, hafter, fun outcome hgiven => ?_⟩
    have hjson := Option.some.inj (hgiven.symm.trans (hsame.trans hresult))
    exact WriteOutcome.status_of_toJson hjson

/-- The worker carries out the page that is handed in under an execution of its own, and then nobody
does anything any more. -/
def pageLater (n : Nat) : Action :=
  [.claim (.ofNanos 0),
    .begin 1 ⟨.empty⟩ (stampNamed "g"),
    .governance (.gateway (.reply ⟨1⟩ (stampNamed "h") (.recorded true))),
    .governance (.rule ⟨1⟩ (stampNamed "i")),
    .governance (.gateway (.reply ⟨1⟩ (stampNamed "j") (.recorded true))),
    .governance (.gateway (.reply ⟨1⟩ (stampNamed "k") (.recorded true))),
    .governance (.gateway (.reply ⟨1⟩ (stampNamed "l") (.applied (.ok .null)))),
    .governance (.gateway (.reply ⟨1⟩ (stampNamed "m") (.recorded true)))].getD n (.record true)

/-- How it goes on then. -/
def pageCourse (n : Nat) : House :=
  (againHouse "second").course twoGuardedApp.regime pageLater n

/-- The write that is carried out. -/
def pageWrite : Envelope :=
  { Envelope.new (stampNamed "again") "publish_page" "editor" "site:page" .null with
    execution := some "second", key := some ⟨"page"⟩, approval := some "apr_page" }

theorem pageLater_eq {n : Nat} (hle : 8 ≤ n) : pageLater n = .record true :=
  List.getD_eq_default _ _ hle

/-- Nine steps are all that there is to it. -/
theorem pageCourse_eq (n : Nat) : pageCourse n = pageCourse (min n 9) := by
  rcases Nat.le_total n 9 with hle | hle
  · rw [Nat.min_eq_left hle]
  · rw [Nat.min_eq_right hle]
    induction n, hle using Nat.le_induction with
    | base => rfl
    | succ n hle ih =>
        have hidle : (pageCourse 9).post = .idle := by decide +kernel
        have hstep : pageCourse (n + 1) = (pageCourse n).step twoGuardedApp.regime (pageLater n) :=
          rfl
        rw [hstep, ih, pageLater_eq (by omega)]
        simp only [step, hidle]

theorem pageCourse_keeps (holds : House → Prop) (hfirst : ∀ n < 10, holds (pageCourse n))
    (n : Nat) :
    holds (pageCourse n) := by
  rw [pageCourse_eq]
  exact hfirst _ (by omega)

theorem pageCourse_unhindered : (againHouse "second").Unhindered twoGuardedApp.regime
    twoGuardedApp.governed.traffic.gateway.tokens.ttl ⟨"again"⟩ pageWrite "apr_page" pageLater where
  lawful := by
    intro n
    rcases Nat.lt_or_ge n 8 with hlt | hle
    · revert n
      decide
    · rw [pageLater_eq hle]
      rfl
  present n _ := pageCourse_keeps (fun house => house.post ≠ .absent) (by decide +kernel) n
  moves := by
    intro n hover
    rcases Nat.lt_or_ge n 9 with hlt | hle
    · exact ⟨8, Nat.le_of_lt_succ hlt, by decide +kernel⟩
    · have hstatus : ((pageCourse n).queue.get? ⟨"again"⟩).map Job.status = some .succeeded := by
        rw [pageCourse_eq, Nat.min_eq_right hle]
        decide +kernel
      obtain ⟨record, hrecord, hsucceeded⟩ := Option.map_eq_some_iff.mp hstatus
      exact absurd ⟨record, hrecord, .inl hsucceeded⟩ hover
  wanted := by
    intro n now _ hcancel
    rcases Nat.lt_or_ge n 8 with hlt | hle
    · interval_cases n <;> cases hcancel
    · rw [pageLater_eq hle] at hcancel
      contradiction
  kept n := grantKept_of_silent (pageCourse_keeps (fun house => ∀ happening ∈
    house.governed.log.drop (againHouse "second").governed.log.length,
      happening.approval? ≠ some "apr_page") (by decide +kernel) n)
  registered := by decide +kernel
  unimpeded := by
    intro _ call _ n
    have hgrown : (pageCourse n).history <+: (pageCourse 9).history := by
      rw [pageCourse_eq]
      exact history_course _ _ _ (Nat.min_le_right n 9)
    have hlone : ((pageCourse 9).history.zipIdx.filter fun entry => entry.1.handlesTokens) =
        [(.minted ⟨1⟩ "j" (.ofNanos 0), 20), (.redeemed ⟨1⟩ "j" (.ofNanos 0)
          (.valid { pageWrite with id := ⟨"g"⟩ }), 23)] := by
      decide +kernel
    have hfails : ∀ event ∈ (pageCourse 9).history, event.fails = false := by decide +kernel
    refine .of_grown hgrown (.of_lone hlone ?_ hfails)
    decide +kernel

/-- A page that was parked is handed in with its approval under an execution of its own, and is
published. -/
theorem againHouse_second_carriedOut :
    Application.ofConfig twoGuarded (.ofNanos 0) = .ok twoGuardedApp ∧
    (∀ action ∈ pageParked, action.lawful twoGuardedApp.regime) ∧
    (∃ job, parkedHouse.Approved ⟨"job"⟩ job "apr_page" ∧
      parkedHouse.AsksAgain job "apr_page" (pageAgain "second")) ∧
    parkedHouse.Admits ⟨1⟩ (stampNamed "again") ∧
    (againHouse "second").Unhindered twoGuardedApp.regime
      twoGuardedApp.governed.traffic.gateway.tokens.ttl ⟨"again"⟩ pageWrite "apr_page" pageLater ∧
    ∃ n, ∀ m, n ≤ m → (pageCourse m).CarriedOut ⟨"again"⟩ pageWrite := by
  have happ : Application.ofConfig twoGuarded (.ofNanos 0) = .ok twoGuardedApp := by
    decide +kernel
  have hlawful : ∀ action ∈ pageParked, action.lawful twoGuardedApp.regime := by decide
  obtain ⟨job, happroved, hexecution, hpayload, _⟩ := parkedHouse_approved
  have hasks : parkedHouse.AsksAgain job "apr_page" (pageAgain "second") := by
    refine ⟨rfl, ?_, by decide, by decide +kernel⟩
    rw [hpayload]
    exact Json.renews_insertField "apr_page" pageFields
  have hadmits : parkedHouse.Admits ⟨1⟩ (stampNamed "again") := by
    constructor <;> decide +kernel
  refine ⟨happ, hlawful, ⟨job, happroved, hasks⟩, hadmits, pageCourse_unhindered, ?_⟩
  have hfresh : (againHouse "second").queue.get? ⟨"again"⟩ = some (.new (stampNamed "again")
      .writeExecute (pageAgain "second").payload (some "second") 1) := by
    decide +kernel
  have hwrite : Workshop.writeOf (stampNamed "again") (.new (stampNamed "again") .writeExecute
      (pageAgain "second").payload (some "second") 1) = .ok pageWrite := by
    decide +kernel
  exact (run_resumes happ hlawful).carriedOut happroved hasks hadmits hfresh hwrite
    pageCourse_unhindered

end Page

end House

end Gatehouse
