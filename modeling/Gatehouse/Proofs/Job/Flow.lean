import Gatehouse.Job.Queue
import Mathlib

/-! # The flow of jobs through a queue

A run of a queue is any list of calls with any arguments; a call that fails
changes nothing. Beside the queue a run keeps what went through it: the names
that jobs were given, and the names that went into the channel, came out of it
and were handed out as jobs, each in order. `Move` lists every way in which a
call can change all this together with what must have been the case before, and
`move_cases` says that there are no others.
-/

namespace Gatehouse

/-- A queue together with what went through it. -/
structure JobFlow where
  queue : JobQueue
  /-- The names that new jobs were given. -/
  created : List JobId
  /-- The names that were sent into the channel. -/
  dispatched : List JobId
  /-- The names that came out of the channel. -/
  taken : List JobId
  /-- The names of the jobs that were handed out. -/
  claimed : List JobId

theorem JobQueue.processing_cases (q : JobQueue) (id : JobId) (action : JobAction) :
    (∃ error, q.processing id action = .error error ∧
      ∀ job, q.get? id = some job → job.status ≠ .processing) ∨
    ∃ job, q.processing id action = .ok job ∧ q.get? id = some job ∧ job.status = .processing := by
  unfold processing
  cases hjob : q.get? id with
  | none => exact .inl ⟨_, rfl, by simp⟩
  | some job =>
      by_cases hstatus : job.status = .processing
      · exact .inr ⟨job, by simp [hstatus], rfl, hstatus⟩
      · exact .inl ⟨.invalidTransition id job.status action, by simp [hstatus], by simpa⟩

theorem JobQueue.processing_eq {q : JobQueue} {id : JobId} {job : Job}
    (hjob : q.get? id = some job) (hstatus : job.status = .processing) (action : JobAction) :
    q.processing id action = .ok job := by
  simp [processing, hjob, hstatus]

/-- A job is acknowledged exactly where an attempt at it is running. -/
theorem JobQueue.ack_cases (q : JobQueue) (id : JobId) (result : Json) (now : Moment) :
    (∃ error, q.ack id result now = .error error ∧
      ∀ job, q.get? id = some job → job.status ≠ .processing) ∨
    ∃ job, q.get? id = some job ∧ job.status = .processing ∧
      let after : Job := { job with
        status := .succeeded, result := some result, lastError := none, updatedAt := now }
      q.ack id result now = .ok (after, q.update after) := by
  unfold ack
  rcases q.processing_cases id .ack with ⟨error, herror, hgone⟩ | ⟨job, hok, hjob, hstatus⟩
  · rw [herror]
    exact .inl ⟨error, rfl, hgone⟩
  · rw [hok]
    exact .inr ⟨job, hjob, hstatus, rfl⟩

/-- So it is with a job that is given back, which waits again if it may be tried again. -/
theorem JobQueue.nack_cases (q : JobQueue) (id : JobId) (error : String) (now : Moment) :
    (∃ failure, q.nack id error now = .error failure ∧
      ∀ job, q.get? id = some job → job.status ≠ .processing) ∨
    ∃ job, q.get? id = some job ∧ job.status = .processing ∧
      (job.attempts < job.maxAttempts ∧
        (let after : Job := { job with
          status := .queued, lastError := some error, updatedAt := now }
        q.nack id error now =
          .ok (after, { q.update after with channel := q.channel ++ [id] })) ∨
      ¬ job.attempts < job.maxAttempts ∧
        (let after : Job := { job with
          status := .failed, lastError := some error, updatedAt := now }
        q.nack id error now = .ok (after, q.update after))) := by
  unfold nack
  rcases q.processing_cases id .nack with ⟨failure, hfailure, hgone⟩ | ⟨job, hok, hjob, hstatus⟩
  · rw [hfailure]
    exact .inl ⟨failure, rfl, hgone⟩
  · rw [hok]
    refine .inr ⟨job, hjob, hstatus, ?_⟩
    by_cases hattempts : job.attempts < job.maxAttempts
    · exact .inl ⟨hattempts, if_pos hattempts⟩
    · exact .inr ⟨hattempts, if_neg hattempts⟩

namespace JobFlow

/-- What can be asked of a queue. -/
inductive Action where
  | enqueue (stamp : Stamp) (kind : JobKind) (payload : Json) (execution : Option String)
      (maxAttempts : Nat)
  | claim (now : Moment)
  | ack (id : JobId) (result : Json) (now : Moment)
  | nack (id : JobId) (error : String) (now : Moment)
  | cancel (id : JobId) (now : Moment)

/-- A queue without jobs. -/
def start : JobFlow := ⟨.empty, [], [], [], []⟩

/-- What a call makes of the flow. -/
def step (f : JobFlow) : Action → JobFlow
  | .enqueue stamp kind payload execution maxAttempts =>
    let (job, queue) := f.queue.enqueue stamp kind payload execution maxAttempts
    match f.queue.known? execution with
    | some _ => { f with queue := queue }
    | none =>
      { f with
        queue := queue
        created := f.created ++ [job.id]
        dispatched := f.dispatched ++ [job.id] }
  | .claim now =>
    let (job, queue) := f.queue.claim now
    { f with
      queue := queue
      taken := f.taken ++ f.queue.channel.take 1
      claimed := f.claimed ++ (job.map Job.id).toList }
  | .ack id result now =>
    match f.queue.ack id result now with
    | .ok (_, queue) => { f with queue := queue }
    | .error _ => f
  | .nack id error now =>
    match f.queue.nack id error now with
    | .ok (job, queue) =>
      { f with
        queue := queue
        dispatched := if job.status = .queued then f.dispatched ++ [id] else f.dispatched }
    | .error _ => f
  | .cancel id now =>
    match f.queue.cancel id now with
    | .ok (_, queue) => { f with queue := queue }
    | .error _ => f

/-- What a list of calls makes of the flow. -/
def run (f : JobFlow) (actions : List Action) : JobFlow :=
  actions.foldl step f

/-- The flow after the record of a job was replaced. -/
def record (f : JobFlow) (job : Job) : JobFlow :=
  { f with queue := f.queue.update job }

/-- Every way in which a call can change the flow. -/
inductive Move (f : JobFlow) : JobFlow → Prop where
  | still : Move f f
  | added (stamp : Stamp) (kind : JobKind) (payload : Json) (execution : Option String)
      (maxAttempts : Nat) (job : Job) (hunknown : f.queue.known? execution = none)
      (hjob : job = Job.new stamp kind payload execution maxAttempts) :
      Move f { f with
        queue := f.queue.add job
        created := f.created ++ [job.id]
        dispatched := f.dispatched ++ [job.id] }
  | started (now : Moment) (id : JobId) (rest : List JobId) (job after : Job)
      (hchannel : f.queue.channel = id :: rest) (hjob : f.queue.get? id = some job)
      (hstatus : job.status = .queued)
      (hafter : after =
        { job with status := .processing, attempts := job.attempts + 1, updatedAt := now }) :
      Move f { f with
        queue := { f.queue with channel := rest }.update after
        taken := f.taken ++ [id]
        claimed := f.claimed ++ [after.id] }
  | passed (id : JobId) (rest : List JobId) (hchannel : f.queue.channel = id :: rest)
      (hjob : ∀ job, f.queue.get? id = some job → job.status ≠ .queued) :
      Move f { f with queue := { f.queue with channel := rest }, taken := f.taken ++ [id] }
  | succeeded (now : Moment) (id : JobId) (result : Json) (job : Job)
      (hjob : f.queue.get? id = some job) (hstatus : job.status = .processing) :
      Move f (f.record
        { job with
          status := .succeeded, result := some result, lastError := none, updatedAt := now })
  | requeued (now : Moment) (id : JobId) (error : String) (job after : Job)
      (hjob : f.queue.get? id = some job) (hstatus : job.status = .processing)
      (hattempts : job.attempts < job.maxAttempts)
      (hafter : after = { job with status := .queued, lastError := some error, updatedAt := now }) :
      Move f { f with
        queue := { f.queue.update after with channel := f.queue.channel ++ [id] }
        dispatched := f.dispatched ++ [id] }
  | failed (now : Moment) (id : JobId) (error : String) (job : Job)
      (hjob : f.queue.get? id = some job) (hstatus : job.status = .processing)
      (hattempts : ¬ job.attempts < job.maxAttempts) :
      Move f (f.record { job with status := .failed, lastError := some error, updatedAt := now })
  | cancelled (now : Moment) (id : JobId) (job : Job) (hjob : f.queue.get? id = some job)
      (hstatus : job.status.isTerminal = false) :
      Move f (f.record { job with status := .cancelled, updatedAt := now })

theorem move_enqueue (f : JobFlow) (stamp : Stamp) (kind : JobKind) (payload : Json)
    (execution : Option String) (maxAttempts : Nat) :
    Move f (f.step (.enqueue stamp kind payload execution maxAttempts)) := by
  simp only [step, JobQueue.enqueue]
  cases hknown : f.queue.known? execution with
  | some job => exact .still
  | none => exact .added stamp kind payload execution maxAttempts _ hknown rfl

theorem move_claim (f : JobFlow) (now : Moment) : Move f (f.step (.claim now)) := by
  simp only [step, JobQueue.claim]
  cases hchannel : f.queue.channel with
  | nil => simpa using Move.still
  | cons id rest =>
      have hget : JobQueue.get? { f.queue with channel := rest } id = f.queue.get? id := rfl
      cases hjob : f.queue.get? id with
      | none => simpa [hget, hjob] using Move.passed id rest hchannel (by simp [hjob])
      | some job =>
          by_cases hstatus : job.status = .queued
          · simpa [hget, hjob, hstatus] using
              Move.started now id rest job _ hchannel hjob hstatus rfl
          · simpa [hget, hjob, hstatus] using
              Move.passed id rest hchannel (by simpa [hjob] using hstatus)

theorem move_ack (f : JobFlow) (id : JobId) (result : Json) (now : Moment) :
    Move f (f.step (.ack id result now)) := by
  simp only [step]
  rcases f.queue.ack_cases id result now with ⟨error, hack, _⟩ | ⟨job, hjob, hstatus, hack⟩
  · rw [hack]
    exact .still
  · rw [hack]
    exact .succeeded now id result job hjob hstatus

theorem move_nack (f : JobFlow) (id : JobId) (error : String) (now : Moment) :
    Move f (f.step (.nack id error now)) := by
  simp only [step]
  rcases f.queue.nack_cases id error now with
    ⟨failure, hnack, _⟩ | ⟨job, hjob, hstatus, ⟨hattempts, hnack⟩ | ⟨hattempts, hnack⟩⟩
  · rw [hnack]
    exact .still
  · rw [hnack]
    exact .requeued now id error job _ hjob hstatus hattempts rfl
  · rw [hnack]
    exact .failed now id error job hjob hstatus hattempts

theorem move_cancel (f : JobFlow) (id : JobId) (now : Moment) :
    Move f (f.step (.cancel id now)) := by
  simp only [step, JobQueue.cancel]
  cases hjob : f.queue.get? id with
  | none => exact .still
  | some job =>
      cases hstatus : job.status.isTerminal with
      | true =>
          simp only [hstatus, if_true]
          exact .still
      | false =>
          simp only [hstatus, Bool.false_eq_true, if_false]
          exact .cancelled now id job hjob hstatus

theorem move_cases (f : JobFlow) (action : Action) : Move f (f.step action) := by
  cases action with
  | enqueue stamp kind payload execution maxAttempts =>
      exact f.move_enqueue stamp kind payload execution maxAttempts
  | claim now => exact f.move_claim now
  | ack id result now => exact f.move_ack id result now
  | nack id error now => exact f.move_nack id error now
  | cancel id now => exact f.move_cancel id now

/-- What every move keeps holds throughout a run. -/
theorem run_keeps {holds : JobFlow → Prop}
    (hkeeps : ∀ {f next : JobFlow}, Move f next → holds f → holds next)
    {f : JobFlow} (hstart : holds f) (actions : List Action) : holds (f.run actions) := by
  induction actions generalizing f with
  | nil => exact hstart
  | cons action rest ih => exact ih (hkeeps (f.move_cases action) hstart)

end JobFlow

end Gatehouse
