import Gatehouse.Proofs.Job.Life
import Gatehouse.Proofs.Orchestrator.HouseResults

/-! # Waiting for a job

Who waits for a job looks at the queue again and again, a poll apart, and for
the last time at the deadline. Meanwhile anything may be asked of the queue. With
timers that go off on time a wait has an end, and `Ends` lists the two ways in
which it can end: the first look that finds the job over answers its record, and
if no look does, the one at the deadline answers where the job stands. A job that
is over stays as it is, so the looks miss nothing.
-/

namespace Gatehouse

namespace Waiting

variable {poll now wakeAt : Nat} {q : JobQueue} {w after : Waiting} {response : SubmitResponse}

/-- After a look that is not the last one the next comes a poll later, but not after the
deadline. -/
theorem of_look_again (hlook : w.look poll q now = .again after wakeAt) :
    after.deadline = w.deadline ∧ now < w.deadline ∧ wakeAt = min (now + poll) w.deadline ∧
      after.latest = (q.get? w.latest.id).getD w.latest ∧
      after.latest.status.isTerminal = false := by
  simp only [look] at hlook
  split at hlook
  · contradiction
  next hpending =>
    split at hlook
    · contradiction
    next hearly =>
      cases hlook
      refine ⟨rfl, Nat.lt_of_not_le hearly, by omega, rfl, ?_⟩
      simpa using hpending

/-- What somebody who waits is answered, and when, if every timer goes off on time and a look finds
the queue as it is in its course at that time. -/
def await (poll : Nat) (hpoll : 0 < poll) (course : Nat → JobQueue) (w : Waiting) (now : Nat) :
    SubmitResponse × Nat :=
  match _hlook : w.look poll (course now) now with
  | .answered response => (response, now)
  | .again after wakeAt => await poll hpoll course after wakeAt
termination_by w.deadline - now
decreasing_by
  have hagain := of_look_again _hlook
  omega

/-- The times of the looks of somebody who waits from a time on. -/
def lookTime (poll since deadline n : Nat) : Nat :=
  min (since + n * poll) deadline

/-- The two ways in which a wait for a job can end. -/
inductive Ends (course : Nat → JobQueue) (id : JobId) (poll since deadline : Nat) :
    SubmitResponse × Nat → Prop where
  | finished (n : Nat) (job : Job)
      (hjob : (course (lookTime poll since deadline n)).get? id = some job)
      (hover : job.status.isTerminal = true)
      (hfirst : ∀ m < n, ∀ earlier,
        (course (lookTime poll since deadline m)).get? id = some earlier →
        earlier.status.isTerminal = false) :
      Ends course id poll since deadline (.ofJob job, lookTime poll since deadline n)
  | outOfTime (job : Job) (hjob : (course deadline).get? id = some job)
      (hpending : job.status.isTerminal = false) :
      Ends course id poll since deadline (.timedOut job, deadline)

theorem lookTime_again (hwake : wakeAt = min (now + poll) w.deadline) (n : Nat) :
    lookTime poll wakeAt w.deadline n = lookTime poll now w.deadline (n + 1) := by
  rw [lookTime, lookTime, hwake, Nat.succ_mul]
  omega

/-- A wait goes on like one that starts at the next look. -/
theorem Ends.again {course : Nat → JobQueue} {id : JobId} {answer : SubmitResponse × Nat}
    (hends : Ends course id poll wakeAt w.deadline answer)
    (hwake : wakeAt = min (now + poll) w.deadline) (hnow : now < w.deadline) {job : Job}
    (hjob : (course now).get? id = some job) (hpending : job.status.isTerminal = false) :
    Ends course id poll now w.deadline answer := by
  cases hends with
  | outOfTime last hlast hunfinished => exact .outOfTime last hlast hunfinished
  | finished n last hlast hover hfirst =>
      simp only [lookTime_again hwake] at hlast hfirst ⊢
      refine .finished (n + 1) last hlast hover ?_
      intro m hm earlier hearlier
      cases m with
      | zero =>
          rw [lookTime, Nat.zero_mul, Nat.add_zero, Nat.min_eq_left hnow.le, hjob] at hearlier
          rwa [← Option.some.inj hearlier]
      | succ m => exact hfirst m (Nat.lt_of_succ_lt_succ hm) earlier hearlier

/-- A wait for a job that is not lost from the queue comes to an end. -/
theorem ends_await (hpoll : 0 < poll) {course : Nat → JobQueue} {id : JobId}
    (hkept : ∀ t, now ≤ t → t ≤ w.deadline → ∃ job, (course t).get? id = some job ∧ job.id = id)
    (hid : w.latest.id = id) (hnow : now ≤ w.deadline) :
    Ends course id poll now w.deadline (w.await poll hpoll course now) := by
  fun_induction await poll hpoll course w now with
  | case1 w now response hlook =>
      obtain ⟨job, hjob, -⟩ := hkept now le_rfl hnow
      simp only [look, hid, hjob, Option.getD_some] at hlook
      split at hlook
      next hover =>
        cases hlook
        have htime : lookTime poll now w.deadline 0 = now := by
          rw [lookTime, Nat.zero_mul, Nat.add_zero, Nat.min_eq_left hnow]
        have hfinished : Ends course id poll now w.deadline
            (.ofJob job, lookTime poll now w.deadline 0) :=
          .finished 0 job (by rw [htime, hjob]) hover (by simp)
        rwa [htime] at hfinished
      next hpending =>
        split at hlook
        next hlate =>
          obtain rfl : now = w.deadline := Nat.le_antisymm hnow hlate
          cases hlook
          exact .outOfTime job hjob (by simpa using hpending)
        · contradiction
  | case2 w now after wakeAt hlook ih =>
      obtain ⟨hdeadline, hearly, hwake, hlatest, hpending⟩ := of_look_again hlook
      obtain ⟨job, hjob, hown⟩ := hkept now le_rfl hnow
      rw [hid, hjob, Option.getD_some] at hlatest
      rw [hlatest] at hpending
      rw [hdeadline] at ih
      refine (ih ?_ (by rw [hlatest, hown]) (by omega)).again hwake hearly hjob hpending
      intro t ht
      exact hkept t (by omega)

end Waiting

namespace JobFlow

/-- The flow at a time, if so much is asked of the queue at each time, from one time on. -/
def course (f : JobFlow) (later : Nat → List Action) (since t : Nat) : JobFlow :=
  f.run ((List.range' since (t + 1 - since)).flatMap later)

theorem exists_run_course (f : JobFlow) (later : Nat → List Action) {since s t : Nat}
    (hsince : since ≤ s) (hle : s ≤ t) :
    ∃ actions, f.course later since t = (f.course later since s).run actions := by
  refine ⟨(List.range' (s + 1) (t - s)).flatMap later, ?_⟩
  have hsplit : List.range' since (t + 1 - since) =
      List.range' since (s + 1 - since) ++ List.range' (s + 1) (t - s) := by
    rw [List.range'_eq_append_iff]
    exact ⟨s + 1 - since, by omega, rfl, by congr 1 <;> omega⟩
  simp only [course, run, hsplit, List.flatMap_append, List.foldl_append]

section Course

variable {before : List Action} {action : Action} {later : Nat → List Action}
  {since t deadline : Nat}

/-- In a course of which the names are distinct in the end all is in turn at every time. -/
theorem inTurn_course (hsince : since ≤ t) (hle : t ≤ deadline)
    (hdistinct : (((start.run before).step action).course later since deadline).created.Nodup) :
    (((start.run before).step action).course later since t).InTurn := by
  obtain ⟨actions, hrun⟩ := exists_run_course ((start.run before).step action) later hsince hle
  have hstart : ((start.run before).step action).course later since t =
      start.run (before ++ action :: (List.range' since (t + 1 - since)).flatMap later) := by
    simp [course, run, List.foldl_append]
  rw [hrun] at hdistinct
  have hnodup := (created_prefix_run _ actions).sublist.nodup hdistinct
  rw [hstart] at hnodup ⊢
  exact inTurn_run _ hnodup

/-- A job that is over at some time is so in the end. -/
theorem get?_course_of_terminal (hsince : since ≤ t) (hle : t ≤ deadline)
    (hdistinct : (((start.run before).step action).course later since deadline).created.Nodup)
    {id : JobId} {job : Job}
    (hjob : (((start.run before).step action).course later since t).queue.get? id = some job)
    (hover : job.status.isTerminal = true) :
    (((start.run before).step action).course later since deadline).queue.get? id = some job := by
  have hinTurn := inTurn_course hsince hle hdistinct
  obtain ⟨actions, hrun⟩ := exists_run_course ((start.run before).step action) later hsince hle
  rw [hrun] at hdistinct ⊢
  exact get?_run_of_terminal hinTurn hjob hover actions hdistinct

end Course

/-- No job is lost from a queue. -/
theorem get?_run_isSome {f : JobFlow} {id : JobId} {job : Job}
    (hjob : f.queue.get? id = some job) (actions : List Action) :
    ∃ found, (f.run actions).queue.get? id = some found := by
  have hkeeps : ∀ {g next : JobFlow}, Move g next → (∃ found, g.queue.get? id = some found) →
      ∃ found, next.queue.get? id = some found :=
    fun hmove ⟨_, hfound⟩ => get?_isSome_move hmove hfound
  exact run_keeps hkeeps ⟨job, hjob⟩ actions

end JobFlow

namespace Submission

open JobFlow (start)

/-- The call by which the job comes into the queue. -/
def action (s : Submission) (settings : OrchestratorSettings) (stamp : Stamp) : JobFlow.Action :=
  .enqueue stamp s.kind s.payload s.execution (s.maxAttempts.getD settings.defaultMaxAttempts)

/-- Somebody who has just handed in a job and waits for it. -/
def waiting (s : Submission) (settings : OrchestratorSettings) (q : JobQueue) (stamp : Stamp)
    (now : Nat) : Waiting :=
  ⟨(s.enqueue settings q stamp).1, now + s.patience settings⟩

/-- What somebody who waits is answered is the truth about the job. -/
structure Truthful (course : Nat → JobQueue) (id : JobId) (poll since deadline : Nat)
    (answer : SubmitResponse × Nat) : Prop where
  kept : ∀ t, since ≤ t → t ≤ deadline → ∃ job, (course t).get? id = some job
  punctual : since ≤ answer.2 ∧ answer.2 ≤ deadline
  timedOut_iff : answer.1.reason = some "timeout_waiting_for_result" ↔
    ∃ job, (course deadline).get? id = some job ∧
      (job.status = .queued ∨ job.status = .processing)
  /-- Out of time, the answer is where the job stands at the deadline. -/
  outOfTime : ∀ job, (course deadline).get? id = some job →
    job.status = .queued ∨ job.status = .processing →
    answer = (⟨id, job.execution, job.status, true, job.result, job.lastError,
      some "timeout_waiting_for_result"⟩, deadline)
  /-- Otherwise the first look that finds the job over answers how it ended. -/
  finished : ∀ job, (course deadline).get? id = some job → job.status.isTerminal = true →
    ∃ n, answer = (⟨id, job.execution, job.status, false, job.result, job.lastError, none⟩,
        Waiting.lookTime poll since deadline n) ∧
      (course (Waiting.lookTime poll since deadline n)).get? id = some job ∧
      ∀ m < n, ∃ earlier,
        (course (Waiting.lookTime poll since deadline m)).get? id = some earlier ∧
        (earlier.status = .queued ∨ earlier.status = .processing)
  /-- A job that is over in time, however shortly before the deadline, is not reported late. -/
  inTime : ∀ t job, since ≤ t → t ≤ deadline → (course t).get? id = some job →
    job.status.isTerminal = true → answer.1.reason = none

section Truth

variable {course : Nat → JobQueue} {id : JobId} {poll since deadline : Nat}
  {answer : SubmitResponse × Nat} {job : Job}

theorem pending_iff {status : JobStatus} :
    status.isTerminal = false ↔ status = .queued ∨ status = .processing := by
  cases status <;> simp [JobStatus.isTerminal]

theorem timedOut_eq (hid : job.id = id) (hpending : job.status.isTerminal = false) :
    SubmitResponse.timedOut job = ⟨id, job.execution, job.status, true, job.result, job.lastError,
      some "timeout_waiting_for_result"⟩ := by
  simp [SubmitResponse.timedOut, SubmitResponse.ofJob, hid, hpending]

theorem ofJob_eq (hid : job.id = id) (hover : job.status.isTerminal = true) :
    SubmitResponse.ofJob job =
      ⟨id, job.execution, job.status, false, job.result, job.lastError, none⟩ := by
  simp [SubmitResponse.ofJob, hid, hover]

/-- Where no job is lost and what is over stays as it is, the end of a wait is the truth. -/
theorem truthful_of_ends (hends : Waiting.Ends course id poll since deadline answer)
    (hle : since ≤ deadline)
    (hkept : ∀ t, since ≤ t → t ≤ deadline → ∃ job, (course t).get? id = some job ∧ job.id = id)
    (hfinal : ∀ t job, since ≤ t → t ≤ deadline → (course t).get? id = some job →
      job.status.isTerminal = true → (course deadline).get? id = some job) :
    Truthful course id poll since deadline answer := by
  have hthere : ∀ t, since ≤ t → t ≤ deadline → ∃ job, (course t).get? id = some job :=
    fun t hsince hdeadline => (hkept t hsince hdeadline).imp fun _ => And.left
  have htime : ∀ n, since ≤ Waiting.lookTime poll since deadline n ∧
      Waiting.lookTime poll since deadline n ≤ deadline :=
    fun n => ⟨Nat.le_min.mpr ⟨Nat.le_add_right .., hle⟩, Nat.min_le_right ..⟩
  obtain ⟨last, hlast, hid⟩ := hkept deadline hle le_rfl
  cases hends with
  | finished n job hjob hover hfirst =>
      have hsame := hfinal _ job (htime n).1 (htime n).2 hjob hover
      obtain rfl := Option.some.inj (hlast.symm.trans hsame)
      have hnever : ∀ job, (course deadline).get? id = some job →
          ¬ (job.status = .queued ∨ job.status = .processing) := by
        intro job hjob hpending
        obtain rfl := Option.some.inj (hlast.symm.trans hjob)
        rw [← pending_iff, hover] at hpending
        contradiction
      constructor
      case kept => exact hthere
      case punctual => exact htime n
      case timedOut_iff =>
        refine iff_of_false (by simp [SubmitResponse.ofJob]) ?_
        rintro ⟨job, hjob, hpending⟩
        exact hnever job hjob hpending
      case outOfTime => exact fun job hjob hpending => absurd hpending (hnever job hjob)
      case finished =>
        intro job hjob _
        obtain rfl := Option.some.inj (hlast.symm.trans hjob)
        refine ⟨n, by rw [ofJob_eq hid hover], by assumption, ?_⟩
        intro m hm
        obtain ⟨earlier, hearlier⟩ := hthere _ (htime m).1 (htime m).2
        exact ⟨earlier, hearlier, pending_iff.mp (hfirst m hm earlier hearlier)⟩
      case inTime => exact fun _ _ _ _ _ _ => rfl
  | outOfTime job hjob hpending =>
      obtain rfl := Option.some.inj (hlast.symm.trans hjob)
      constructor
      case kept => exact hthere
      case punctual => exact ⟨hle, le_rfl⟩
      case timedOut_iff => exact iff_of_true rfl ⟨last, hlast, pending_iff.mp hpending⟩
      case outOfTime =>
        intro job hjob _
        obtain rfl := Option.some.inj (hlast.symm.trans hjob)
        rw [timedOut_eq hid hpending]
      case finished =>
        intro job hjob hover
        obtain rfl := Option.some.inj (hlast.symm.trans hjob)
        rw [hpending] at hover
        contradiction
      case inTime =>
        intro t job hsince hdeadline hjob hover
        have hsame := hfinal t job hsince hdeadline hjob hover
        obtain rfl := Option.some.inj (hlast.symm.trans hsame)
        rw [hpending] at hover
        contradiction

end Truth

theorem queue_action (s : Submission) (settings : OrchestratorSettings) (stamp : Stamp)
    (f : JobFlow) :
    (f.step (s.action settings stamp)).queue = (s.enqueue settings f.queue stamp).2 := by
  simp only [action, JobFlow.step, enqueue]
  split <;> rfl

/-- Whatever was asked of the queue before a job is handed in, and whatever is asked of it while
somebody waits, the answer comes in time and is the truth about the job; and waiting changes nothing
in the queue of any house. -/
theorem await_truthful (before : List JobFlow.Action) (s : Submission)
    (settings : OrchestratorSettings) (stamp : Stamp) (later : Nat → List JobFlow.Action)
    (since : Nat) (hpoll : 0 < settings.waitPollMillis)
    (hdistinct : (((start.run before).step (s.action settings stamp)).course later since
      (since + s.patience settings)).created.Nodup) :
    let course t := (((start.run before).step (s.action settings stamp)).course later since t).queue
    let w := s.waiting settings (start.run before).queue stamp since
    Truthful course w.latest.id settings.waitPollMillis since w.deadline
        (w.await settings.waitPollMillis hpoll course since) ∧
      (∀ regime (h : House) waiter now, (h.step regime (.look waiter now)).queue = h.queue) ∧
      ∀ regime (h : House) waiter stamp now,
        (h.step regime (.submit waiter stamp { s with wait := true } now)).queue =
          (h.step regime (.submit waiter stamp { s with wait := false } now)).queue := by
  intro course w
  have hle : since ≤ w.deadline := Nat.le_add_right ..
  have hbefore : (start.run before).created.Nodup :=
    (JobFlow.created_prefix_run _ (s.action settings stamp :: _)).sublist.nodup hdistinct
  have hhanded : ((start.run before).step (s.action settings stamp)).queue.get? w.latest.id =
      some w.latest := by
    rw [queue_action]
    exact JobQueue.get?_enqueue (JobFlow.inTurn_run before hbefore).tidy ..
  have hkept : ∀ t, since ≤ t → t ≤ w.deadline →
      ∃ job, (course t).get? w.latest.id = some job ∧ job.id = w.latest.id := by
    intro t hsince hdeadline
    obtain ⟨job, hjob⟩ := JobFlow.get?_run_isSome hhanded _
    have hinTurn := JobFlow.inTurn_course hsince hdeadline hdistinct
    exact ⟨job, hjob, hinTurn.tidy.id_eq hjob⟩
  refine ⟨truthful_of_ends (Waiting.ends_await hpoll hkept rfl hle) hle hkept ?_, ?_, ?_⟩
  · intro t job hsince hdeadline hjob hover
    exact JobFlow.get?_course_of_terminal hsince hdeadline hdistinct hjob hover
  · intro regime h waiter now
    simp only [House.step]
    split
    · exact h.see_queue ..
    · rfl
  · intro regime h waiter stamp now
    simp only [House.step]
    split
    · rfl
    · exact House.see_queue ..

/-- Somebody who waits for 25 milliseconds and looks every ten. -/
def impatient : Submission := ⟨.agentExecute, .null, none, none, true, some 25⟩

def everyTenMillis : OrchestratorSettings := ⟨500, 10, 30000, 16, 1⟩

/-- The job is claimed early and succeeds at the last moment. -/
def doneAtLast : Nat → List JobFlow.Action
  | 3 => [.claim (.ofNanos 3000000)]
  | 25 => [.ack ⟨"page"⟩ (.str "done") (.ofNanos 25000000)]
  | _ => []

def pageFlow (t : Nat) : JobFlow :=
  (start.step (impatient.action everyTenMillis ⟨.ofNanos 0, "page", "", ""⟩)).course doneAtLast 0 t

def pageAnswer : SubmitResponse × Nat :=
  (impatient.waiting everyTenMillis .empty ⟨.ofNanos 0, "page", "", ""⟩ 0).await 10 (by decide)
    (fun t => (pageFlow t).queue) 0

theorem doneAtLast_truthful :
    0 < everyTenMillis.waitPollMillis ∧ (pageFlow 25).created.Nodup ∧
    pageAnswer = (⟨⟨"page"⟩, none, .succeeded, false, some (.str "done"), none, none⟩, 25) ∧
    Truthful (fun t => (pageFlow t).queue) ⟨"page"⟩ 10 0 25 pageAnswer :=
  ⟨by decide, by decide +kernel, by decide +kernel,
    (await_truthful [] impatient everyTenMillis ⟨.ofNanos 0, "page", "", ""⟩ doneAtLast 0
      (by decide) (by decide +kernel)).1⟩

end Submission

end Gatehouse
