import Gatehouse.Proofs.Job.Life
import Gatehouse.Proofs.Orchestrator.Handling

/-! # A worker at its jobs

A shift is the worker together with all it works with. Jobs are submitted and
cancelled by others, who also use the gateway and the router for themselves;
the worker is started and stopped, and it breaks down together with whom it
waits for. A run is any list of such actions, so it is left open who answers
what and when. An action that does not fit the state changes nothing.

The worker moves when it claims, begins and goes on. `Onward` lists what its
moves come to and `Aside` everything else that can happen.
-/

namespace Gatehouse

/-- Where the worker is. -/
inductive Station where
  | absent
  | idle
  /-- It has just been given a job. -/
  | handed (job : Job)
  | busy (work : Work)
  deriving DecidableEq

/-- What those answer whom the work on a job waits for. -/
inductive WorkReply where
  | executed (answer : Except Fault Json)
  | forwarded (reply : Reply)
  | recorded (accepted : Bool)

namespace Work

/-- Whether an answer is one that the work waits for. -/
def expects : Work → WorkReply → Bool
  | .executing .., .executed _ => true
  | .writing _ call, .forwarded reply => call.awaits.expects reply
  | .recording _, .recorded _ => true
  | _, _ => false

/-- The job that the work is about. -/
def job? : Work → Option Job
  | .executing job _ | .writing job _ => some job
  | .recording _ => none

theorem IsAbout.job?_eq {work : Work} {job : Job} (habout : work.IsAbout job) :
    work.job? = some job := by
  cases work with
  | executing | writing => exact congrArg some habout.1
  | recording => contradiction

end Work

namespace Station

/-- The job that the worker has in hand. -/
def job? : Station → Option Job
  | .handed job => some job
  | .busy work => work.job?
  | .absent | .idle => none

/-- How many moves the worker can need until it is idle. -/
def rank : Station → Nat
  | .handed _ => 9
  | .busy work => work.rank
  | .absent | .idle => 0

theorem two_le_rank {station : Station} {job : Job} (hjob : station.job? = some job) :
    2 ≤ station.rank := by
  cases station with
  | absent | idle => contradiction
  | handed => simp [rank]
  | busy work =>
      cases work with
      | executing => simp [rank, Work.rank]
      | writing _ call => cases call <;> simp [rank, Work.rank, Call.rank]
      | recording => contradiction

end Station

/-- Goes on with the work on a job by an answer. -/
def Workshop.answered (w : Workshop) (limit : Nat) (stamp : Stamp) :
    Work → WorkReply → Workshop × WorkProgress
  | .executing job execution, .executed answer => w.executed limit stamp job execution answer
  | .writing job call, .forwarded reply => w.replied limit stamp job call reply
  | _, _ => (w, .done)

/-- The worker, what it works with, and how many keys of a result it has recorded. -/
structure Shift where
  workshop : Workshop
  limit : Nat
  station : Station

/-- A claim takes the front of the channel away, and starts an attempt at its job if that waits. -/
theorem JobQueue.claim_cases (q : JobQueue) (now : Moment) :
    (q.claim now = (none, { q with channel := q.channel.tail }) ∧
      ∀ id rest job, q.channel = id :: rest → q.get? id = some job → job.status ≠ .queued) ∨
    ∃ id rest before, q.channel = id :: rest ∧ q.get? id = some before ∧
      before.status = .queued ∧
      let after : Job := { before with
        status := .processing, attempts := before.attempts + 1, updatedAt := now }
      q.claim now = (some after, { q with channel := rest }.update after) := by
  unfold claim
  cases hchannel : q.channel with
  | nil =>
      obtain ⟨jobs, byExecution, channel⟩ := q
      cases hchannel
      exact .inl ⟨rfl, by simp⟩
  | cons id rest =>
      have hget : get? { q with channel := rest } id = q.get? id := rfl
      by_cases hqueued : ∃ before, q.get? id = some before ∧ before.status = .queued
      · obtain ⟨before, hbefore, hstatus⟩ := hqueued
        exact .inr ⟨id, rest, before, rfl, hbefore, hstatus, by simp [hget, hbefore, hstatus]⟩
      · refine .inl ⟨?_, ?_⟩
        · cases hjob : q.get? id with
          | none => simp [hget, hjob]
          | some job =>
              have hstatus : job.status ≠ .queued := fun hstatus => hqueued ⟨job, hjob, hstatus⟩
              simp [hget, hjob, hstatus]
        · intro other others job hfront hjob hstatus
          cases hfront
          exact hqueued ⟨job, hjob, hstatus⟩

namespace Shift

/-- What can happen to a worker and around it. -/
inductive Action where
  | submit (stamp : Stamp) (kind : JobKind) (payload : Json) (execution : Option String)
      (maxAttempts : Nat)
  | cancel (id : JobId) (now : Moment)
  /-- Others have used the gateway and the router. -/
  | elsewhere (gateway : Gateway) (router : Router)
  | start
  | stop (now : Moment)
  /-- Somebody whom the worker waits for breaks down. -/
  | breakDown (now : Moment)
  | claim (now : Moment)
  | begin (env : Environment) (stamp : Stamp)
  | reply (stamp : Stamp) (reply : WorkReply)

namespace Action

/-- The worker does not outlive the action. -/
def harms : Action → Bool
  | .stop _ | .breakDown _ => true
  | _ => false

/-- What the clock shows when the worker is to move. -/
def movesAt? : Action → Option Moment
  | .claim now => some now
  | .begin _ stamp | .reply stamp _ => some stamp.now
  | _ => none

end Action

/-- No jobs and no worker yet. -/
def start (gateway : Gateway) (router : Router) (limit : Nat) : Shift where
  workshop := ⟨gateway, router, .empty⟩
  limit := limit
  station := .absent

def queue (s : Shift) : JobQueue := s.workshop.queue

def withQueue (s : Shift) (queue : JobQueue) : Shift :=
  { s with workshop := { s.workshop with queue := queue } }

/-- Where the worker is after it got so far. -/
def stationAfter : WorkProgress → Station
  | .waiting work => .busy work
  | .done => .idle
  | .broken => .absent

def goOn (s : Shift) (after : Workshop × WorkProgress) : Shift :=
  { s with workshop := after.1, station := stationAfter after.2 }

/-- The worker is gone, and the job it had in hand stays as it is. -/
def leave (s : Shift) (now : Moment) : Shift where
  workshop := match s.station with
    | .busy work => s.workshop.abandon now work
    | .absent | .idle | .handed _ => s.workshop
  limit := s.limit
  station := .absent

/-- What an action makes of the shift. -/
def step (s : Shift) : Action → Shift
  | .submit stamp kind payload execution maxAttempts =>
    -- The name of a new job is one that no job has.
    if (s.queue.get? ⟨stamp.id⟩).isSome then s
    else s.withQueue (s.queue.enqueue stamp kind payload execution maxAttempts).2
  | .cancel id now =>
    match s.queue.cancel id now with
    | .ok (_, queue) => s.withQueue queue
    | .error _ => s
  | .elsewhere gateway router =>
    -- How long tokens last and how agents are left alone is settled once and for all.
    let workshop := { s.workshop with gateway := gateway, router := router }
    if workshop.terms = s.workshop.terms then { s with workshop := workshop } else s
  | .start =>
    match s.station with
    | .absent => { s with station := .idle }
    | _ => s
  | .stop now => s.leave now
  | .breakDown now =>
    match s.station with
    | .busy _ => s.leave now
    | _ => s
  | .claim now =>
    match s.station with
    | .idle =>
      match s.queue.claim now with
      | (some job, queue) => { s.withQueue queue with station := .handed job }
      | (none, queue) =>
        { s with workshop :=
          { s.workshop with queue := queue, gateway := s.workshop.gateway.purge now } }
    | _ => s
  | .begin env stamp =>
    match s.station with
    | .handed job => s.goOn (s.workshop.start env s.limit stamp job)
    | _ => s
  | .reply stamp reply =>
    match s.station with
    | .busy work =>
      if work.expects reply then s.goOn (s.workshop.answered s.limit stamp work reply) else s
    | _ => s

/-- What a list of actions makes of the shift. -/
def run (s : Shift) (actions : List Action) : Shift :=
  actions.foldl step s

/-- The worker is where it can do what the action says. -/
def moves (s : Shift) : Action → Bool
  | .claim _ => match s.station with
    | .idle => true
    | _ => false
  | .begin .. => match s.station with
    | .handed _ => true
    | _ => false
  | .reply _ reply => match s.station with
    | .busy work => work.expects reply
    | _ => false
  | _ => false

/-- What happens without a move of the worker. -/
inductive Aside (s : Shift) (action : Action) : Shift → Prop where
  | still (workshop : Workshop) (hqueue : workshop.queue = s.queue)
      (hterms : workshop.terms = s.workshop.terms) :
      Aside s action { s with workshop := workshop }
  | added (stamp : Stamp) (kind : JobKind) (payload : Json) (execution : Option String)
      (maxAttempts : Nat) (hunknown : s.queue.known? execution = none)
      (hnew : s.queue.get? ⟨stamp.id⟩ = none) :
      Aside s action
        (s.withQueue (s.queue.add (Job.new stamp kind payload execution maxAttempts)))
  | cancelled (id : JobId) (record : Job) (now : Moment) (haction : action = .cancel id now)
      (hrecord : s.queue.get? id = some record) (hstatus : record.status.isTerminal = false) :
      Aside s action
        (s.withQueue (s.queue.update { record with status := .cancelled, updatedAt := now }))
  | engaged (hstation : s.station = .absent) : Aside s action { s with station := .idle }
  | left (workshop : Workshop) (hqueue : workshop.queue = s.queue)
      (hterms : workshop.terms = s.workshop.terms) (hharms : action.harms) :
      Aside s action { s with workshop := workshop, station := .absent }

/-- What a move of the worker comes to at a moment. -/
inductive Onward (s : Shift) (now : Moment) : Shift → Prop where
  /-- There is no job to be claimed, or none any more under the name that came first. -/
  | passed (workshop : Workshop) (hstation : s.station = .idle)
      (hqueue : workshop.queue = { s.queue with channel := s.queue.channel.tail })
      (hterms : workshop.terms = s.workshop.terms)
      (hfront : ∀ id rest job, s.queue.channel = id :: rest → s.queue.get? id = some job →
        job.status ≠ .queued) :
      Onward s now { s with workshop := workshop }
  | handed (id : JobId) (rest : List JobId) (before after : Job) (hstation : s.station = .idle)
      (hchannel : s.queue.channel = id :: rest) (hbefore : s.queue.get? id = some before)
      (hqueued : before.status = .queued)
      (hafter : after = { before with
        status := .processing, attempts := before.attempts + 1, updatedAt := now }) :
      Onward s now { s.withQueue ({ s.queue with channel := rest }.update after) with
        station := .handed after }
  | refused (job : Job) (fault : Fault) (after : Workshop × WorkProgress)
      (hstation : s.station = .handed job)
      (htrouble : job.kind.trouble? job.payload = some fault)
      (hrefused : s.workshop.Refused job now fault after) : Onward s now (s.goOn after)
  | handled (job : Job) (after : Workshop × WorkProgress) (hjob : s.station.job? = some job)
      (htrouble : job.kind.trouble? job.payload = none)
      (hhandled : s.workshop.Handled job now s.station.rank after) : Onward s now (s.goOn after)
  | recorded (event : AuditEvent) (hstation : s.station = .busy (.recording event)) :
      Onward s now { s with station := .idle }

/-- Everything that an action can come to. -/
inductive Step (s : Shift) (action : Action) (next : Shift) : Prop where
  | aside (hmoves : s.moves action = false) (haside : s.Aside action next)
  | onward (now : Moment) (hmoves : s.moves action) (hnow : action.movesAt? = some now)
      (honward : s.Onward now next)

/-- The work in hand is of the kind of its job, and nothing is wrong with that. -/
def Fitting (s : Shift) : Prop :=
  ∀ work job, s.station = .busy work → work.job? = some job →
    work.IsAbout job ∧ job.kind.trouble? job.payload = none

theorem Aside.same (s : Shift) (action : Action) : s.Aside action s :=
  .still s.workshop rfl rfl

theorem aside_submit (s : Shift) (stamp : Stamp) (kind : JobKind) (payload : Json)
    (execution : Option String) (maxAttempts : Nat) :
    s.Aside (.submit stamp kind payload execution maxAttempts)
      (s.step (.submit stamp kind payload execution maxAttempts)) := by
  simp only [step, JobQueue.enqueue]
  split
  next => exact .same ..
  next hnew =>
    cases hknown : s.queue.known? execution with
    | some job => exact .same ..
    | none => exact .added stamp kind payload execution maxAttempts hknown (by simpa using hnew)

theorem aside_cancel (s : Shift) (id : JobId) (now : Moment) :
    s.Aside (.cancel id now) (s.step (.cancel id now)) := by
  simp only [step, JobQueue.cancel]
  cases hrecord : s.queue.get? id with
  | none => exact .same ..
  | some record =>
      cases hstatus : record.status.isTerminal with
      | true =>
          simp only [hstatus, if_true]
          exact .same ..
      | false =>
          simp only [hstatus, Bool.false_eq_true, if_false]
          exact .cancelled id record now rfl hrecord hstatus

theorem aside_leave {s : Shift} {action : Action} (hharms : action.harms) (now : Moment) :
    s.Aside action (s.leave now) := by
  unfold leave
  split
  next work hstation =>
    refine .left _ ?_ ?_ hharms
    · cases work <;> rfl
    · cases work with
      | writing job call => cases call <;> rfl
      | _ => rfl
  next => exact .left _ rfl rfl hharms
  next => exact .left _ rfl rfl hharms
  next => exact .left _ rfl rfl hharms

theorem onward_claim {s : Shift} (hstation : s.station = .idle) (now : Moment) :
    s.Onward now (s.step (.claim now)) := by
  simp only [step, hstation]
  rcases s.queue.claim_cases now with ⟨hclaim, hfront⟩ |
    ⟨id, rest, before, hchannel, hbefore, hqueued, hclaim⟩
  · rw [hclaim]
    have hpassed : s.Onward now _ := .passed { s.workshop with
      queue := { s.queue with channel := s.queue.channel.tail }
      gateway := s.workshop.gateway.purge now } hstation rfl rfl hfront
    rwa [hstation] at hpassed
  · rw [hclaim]
    exact .handed id rest before _ hstation hchannel hbefore hqueued rfl

theorem onward_begin {s : Shift} {job : Job} (hstation : s.station = .handed job)
    (env : Environment) (stamp : Stamp) :
    s.Onward stamp.now (s.step (.begin env stamp)) := by
  simp only [step, hstation]
  cases htrouble : job.kind.trouble? job.payload with
  | some fault =>
      rw [s.workshop.start_of_trouble env s.limit stamp htrouble]
      exact .refused job fault _ hstation htrouble (s.workshop.refused_refuse stamp job fault)
  | none =>
      refine .handled job _ (by rw [hstation]; rfl) htrouble ?_
      rw [hstation]
      exact s.workshop.handled_start env s.limit stamp htrouble

theorem onward_reply {s : Shift} (hfitting : s.Fitting) {work : Work}
    (hstation : s.station = .busy work) (stamp : Stamp) {reply : WorkReply}
    (hexpects : work.expects reply) : s.Onward stamp.now (s.step (.reply stamp reply)) := by
  simp only [step, hstation, hexpects, if_true]
  cases work with
  | recording event => exact .recorded event hstation
  | executing job execution =>
      obtain ⟨⟨_, hkind⟩, htrouble⟩ := hfitting _ job hstation rfl
      refine .handled job _ (by rw [hstation]; rfl) htrouble ?_
      cases reply with
      | executed answer => exact s.workshop.handled_executed s.limit stamp hkind execution answer
      | _ => contradiction
  | writing job call =>
      obtain ⟨⟨_, hkind⟩, htrouble⟩ := hfitting _ job hstation rfl
      refine .handled job _ (by rw [hstation]; rfl) htrouble ?_
      cases reply with
      | forwarded reply =>
          rw [hstation]
          exact s.workshop.handled_replied s.limit stamp hkind hexpects
      | _ => contradiction

/-- A worker that is not where it could do something does nothing. -/
theorem step_eq_self {s : Shift} {action : Action} {now : Moment}
    (hnow : action.movesAt? = some now) (hmoves : s.moves action = false) : s.step action = s := by
  cases action with
  | claim now =>
      simp only [step]
      split
      next hstation => simp [moves, hstation] at hmoves
      next => rfl
  | begin env stamp =>
      simp only [step]
      split
      next job hstation => simp [moves, hstation] at hmoves
      next => rfl
  | reply stamp reply =>
      simp only [step]
      split
      next work hstation =>
        simp only [moves, hstation] at hmoves
        simp [hmoves]
      next => rfl
  | _ => contradiction

theorem onward_step {s : Shift} (hfitting : s.Fitting) {action : Action} (hmoves : s.moves action) :
    ∃ now, action.movesAt? = some now ∧ s.Onward now (s.step action) := by
  cases action with
  | claim now =>
      simp only [moves] at hmoves
      split at hmoves
      next hstation => exact ⟨now, rfl, onward_claim hstation now⟩
      next => contradiction
  | begin env stamp =>
      simp only [moves] at hmoves
      split at hmoves
      next job hstation => exact ⟨stamp.now, rfl, onward_begin hstation env stamp⟩
      next => contradiction
  | reply stamp reply =>
      simp only [moves] at hmoves
      split at hmoves
      next work hstation => exact ⟨stamp.now, rfl, onward_reply hfitting hstation stamp hmoves⟩
      next => contradiction
  | _ => contradiction

theorem aside_step {s : Shift} {action : Action} (hmoves : s.moves action = false) :
    s.Aside action (s.step action) := by
  cases action with
  | submit stamp kind payload execution maxAttempts =>
      exact s.aside_submit stamp kind payload execution maxAttempts
  | cancel id now => exact s.aside_cancel id now
  | elsewhere gateway router =>
      simp only [step]
      split
      next hterms => exact .still _ rfl hterms
      next => exact .same ..
  | start =>
      simp only [step]
      split
      next hstation => exact .engaged hstation
      next => exact .same ..
  | stop now => exact aside_leave rfl now
  | breakDown now =>
      simp only [step]
      split
      next => exact aside_leave rfl now
      next => exact .same ..
  | claim now | begin env stamp | reply stamp reply =>
      rw [step_eq_self rfl hmoves]
      exact .same ..

theorem step_cases {s : Shift} (hfitting : s.Fitting) (action : Action) :
    s.Step action (s.step action) := by
  cases hmoves : s.moves action with
  | true =>
      obtain ⟨now, hnow, honward⟩ := onward_step hfitting hmoves
      exact .onward now hmoves hnow honward
  | false => exact .aside hmoves (aside_step hmoves)

end Shift

end Gatehouse
