import Gatehouse.Proofs.Orchestrator.Drive

/-! # The fate of a job

A job is tried again only where its kind and payload leave nobody to hand it to,
and then every attempt ends with the same error; all others are done at the first
attempt, whatever was answered. So what becomes of a job can be told when it is
handed in: `run_fateful` says it of every moment, and of every job that the worker
drives to its end.
-/

namespace Gatehouse

namespace Job

/-- Nobody can be handed the job, and its error says why. -/
def Troubled (job : Job) : Prop :=
  ∃ fault, job.kind.Rejects job.payload fault ∧ job.lastError = some fault.text

/-- How a job stands has to do with its kind and its payload only. -/
structure Fated (job : Job) : Prop where
  queued : job.status = .queued → 1 ≤ job.attempts → job.Troubled
  processing : job.status = .processing → 2 ≤ job.attempts → job.Troubled
  succeeded : job.status = .succeeded → job.kind.Accepts job.payload ∧
    job.attempts = 1 ∧ ∃ result, job.result = some result ∧ job.Reports result
  failed : job.status = .failed → job.Troubled ∧ job.attempts = job.maxAttempts

/-- How a job ends: done at its first attempt, or failed after all it is allowed, always with the
same error. -/
def EndsAs (job record : Job) : Prop :=
  job.kind.Accepts job.payload ∧ record.status = .succeeded ∧ record.attempts = 1 ∨
    ∃ fault, job.kind.Rejects job.payload fault ∧ record.status = .failed ∧
      record.attempts = job.maxAttempts ∧ record.lastError = some fault.text

theorem fated_new (stamp : Stamp) (kind : JobKind) (payload : Json) (execution : Option String)
    (maxAttempts : Nat) : (new stamp kind payload execution maxAttempts).Fated := by
  constructor <;> simp [new]

theorem Fated.started {job : Job} (hfated : job.Fated) (hstatus : job.status = .queued)
    (now : Moment) :
    Fated { job with status := .processing, attempts := job.attempts + 1, updatedAt := now } where
  queued hqueued := by contradiction
  processing := by
    intro _ hattempts
    exact hfated.queued hstatus (Nat.le_of_succ_le_succ hattempts)
  succeeded hsucceeded := by contradiction
  failed hfailed := by contradiction

theorem Fated.succeeded_now {job : Job} (hfated : job.Fated) (hsound : job.Sound)
    (hstatus : job.status = .processing) (haccepts : job.kind.Accepts job.payload)
    {result : Json} (hreports : job.Reports result) (now : Moment) :
    Fated { job with
      status := .succeeded, result := some result, lastError := none, updatedAt := now } where
  queued hqueued := by contradiction
  processing hprocessing := by contradiction
  succeeded := by
    intro _
    refine ⟨haccepts, ?_, result, rfl, hreports⟩
    -- A second attempt would have been one at a job that nobody can be handed.
    have hfirst : ¬ 2 ≤ job.attempts := by
      intro hsecond
      obtain ⟨fault, hrejects, _⟩ := hfated.processing hstatus hsecond
      exact hrejects.not_accepts haccepts
    have hclaimed := (hsound.processing hstatus).1
    change job.attempts = 1
    omega
  failed hfailed := by contradiction

end Job

namespace Shift

variable {s next : Shift} {action : Action} {id : JobId}

/-- How every job stands has to do with its kind and its payload only. -/
def Destined (s : Shift) : Prop :=
  ∀ id job, s.queue.get? id = some job → job.Fated

theorem Writes.fated {found : Job} (hwrites : s.Writes id found) (hworking : s.Working)
    (hdestined : s.Destined) : found.Fated := by
  cases hwrites with
  | added => exact Job.fated_new ..
  | cancelled => constructor <;> simp
  | started now record hrecord hstatus => exact (hdestined id record hrecord).started hstatus now
  | requeued now record fault hrecord hstatus htrouble =>
      constructor
      case queued => exact fun _ _ => ⟨fault, JobKind.rejects_of_trouble htrouble, rfl⟩
      all_goals simp
  | failed now record fault hrecord hstatus hattempts htrouble =>
      have hbounded := (hworking.orderly.sound hrecord).bounded
      constructor
      case failed =>
        exact fun _ => ⟨⟨fault, JobKind.rejects_of_trouble htrouble, rfl⟩, by simp only; omega⟩
      all_goals simp
  | succeeded now record result hrecord hstatus htrouble hreports =>
      have hsound := hworking.orderly.sound hrecord
      exact (hdestined id record hrecord).succeeded_now hsound hstatus
        (JobKind.accepts_of_trouble htrouble) hreports now

theorem Step.destined (hstep : s.Step action next) (hworking : s.Working)
    (hdestined : s.Destined) : next.Destined := by
  intro id found hfound
  rcases hstep.writes hworking hfound with hbefore | hwrites
  · exact hdestined id found hbefore
  · exact hwrites.fated hworking hdestined

theorem Destined.course (hdestined : s.Destined) (hworking : s.Working) (later : Nat → Action)
    (n : Nat) : (s.course later n).Destined := by
  induction n with
  | zero => exact hdestined
  | succ n ih =>
      have hcourse := hworking.course later n
      exact (step_cases hcourse.fitting (later n)).destined hcourse ih

/-- What a job is and how often it may be tried is never changed. -/
theorem Working.course_kept (hworking : s.Working) {job : Job} (hjob : s.queue.get? id = some job)
    (later : Nat → Action) (n : Nat) : ∃ after, (s.course later n).queue.get? id = some after ∧
      after.kind = job.kind ∧ after.payload = job.payload ∧
      after.maxAttempts = job.maxAttempts := by
  induction n with
  | zero => exact ⟨job, hjob, rfl, rfl, rfl⟩
  | succ n ih =>
      obtain ⟨before, hbefore, hkind, hpayload, hmax⟩ := ih
      have hcourse := hworking.course later n
      have hflows := (step_cases hcourse.fitting (later n)).flows
      obtain ⟨after, hafter, rfl | hpasses⟩ := hflows.kept hcourse.orderly hbefore
      · exact ⟨after, hafter, hkind, hpayload, hmax⟩
      · exact ⟨after, hafter, hpasses.kind_eq.trans hkind, hpasses.payload_eq.trans hpayload,
          hpasses.maxAttempts_eq.trans hmax⟩

/-- What it takes for the fate of every job to depend on its kind and its payload only. -/
structure Fateful (s : Shift) : Prop where
  /-- No job is tried again, fails or succeeds but for what its kind and payload say. -/
  fated : ∀ {id job}, s.queue.get? id = some job → job.Fated
  /-- The router is never asked to find an agent for a payload without a command. -/
  commanded : ∀ {job env stamp}, s.station = .handed job → job.kind = .agentExecute →
    (∃ fault, job.kind.Rejects job.payload fault ∧
      s.workshop.start env s.limit stamp job = s.workshop.refuse stamp job fault) ∨
    ∀ report, (s.workshop.router.execute env stamp job.payload).2 = .reported report →
      report.reason ≠ some "missing_command"
  /-- A job that the worker drives comes to its end. -/
  settled : ∀ {id job later}, s.Attends id job → s.Drives later id →
    ∃ n record, (s.course later n).queue.get? id = some record ∧ job.EndsAs record

theorem Destined.settled (hdestined : s.Destined) (hworking : s.Working) {job : Job}
    {later : Nat → Action} (hattends : s.Attends id job) (hdrives : s.Drives later id) :
    ∃ n record, (s.course later n).queue.get? id = some record ∧ job.EndsAs record := by
  obtain ⟨n, record, hrecord, hstatus⟩ := hdrives.over hworking hattends
  refine ⟨n, record, hrecord, ?_⟩
  obtain ⟨after, hafter, hkind, hpayload, hmax⟩ := hworking.course_kept hattends.1 later n
  obtain rfl := Option.some.inj (hrecord.symm.trans hafter)
  have hfated := hdestined.course hworking later n id record hrecord
  rw [Job.EndsAs, ← hkind, ← hpayload, ← hmax]
  rcases hstatus with hsucceeded | hfailed
  · obtain ⟨haccepts, hattempts, _⟩ := hfated.succeeded hsucceeded
    exact .inl ⟨haccepts, hsucceeded, hattempts⟩
  · obtain ⟨⟨fault, hrejects, herror⟩, hattempts⟩ := hfated.failed hfailed
    exact .inr ⟨fault, hrejects, hfailed, hattempts, herror⟩

/-- In every run, whatever anybody answers, the fate of a job depends on its kind and its payload
only. -/
theorem run_fateful (gateway : Gateway) (router : Router) (limit : Nat) (actions : List Action) :
    ((start gateway router limit).run actions).Fateful := by
  have hstart : (start gateway router limit).Destined := by
    intro id job hjob
    contradiction
  obtain ⟨hworking, hdestined⟩ := run_keeps Step.destined (working_start ..) hstart actions
  constructor
  case fated => exact hdestined _ _
  case commanded => exact fun _ hkind => Workshop.start_or_commanded _ _ _ _ hkind
  case settled => exact hdestined.settled hworking

end Shift

end Gatehouse
