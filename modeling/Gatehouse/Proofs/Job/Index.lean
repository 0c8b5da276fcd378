import Gatehouse.Proofs.Job.Life

/-! # Executions name jobs one to one

The queue keeps two tables, the jobs under their names and the names under the
executions that the jobs belong to. Nothing but taking in a new job touches the
second one, and no transition of a record changes its execution, so the second
table is at any time what can be read off the first. Whoever hands in a job of a
known execution is therefore given the one job of this execution, wherever it
stands, and leaves the queue as it was.
-/

namespace Gatehouse

theorem Job.Passes.execution_eq {job after : Job} (hpasses : job.Passes after) :
    after.execution = job.execution := by
  cases hpasses <;> rfl

namespace JobQueue

/-- The name under an execution is the name of the one job that belongs to it. -/
def Indexed (q : JobQueue) : Prop :=
  ∀ (execution : String) (id : JobId), q.byExecution.get? execution = some id ↔
    ∃ job, q.get? id = some job ∧ job.execution = some execution

namespace Indexed

theorem id_unique {q : JobQueue} (hindexed : q.Indexed) {id other : JobId} {job rival : Job}
    {execution : String} (hjob : q.get? id = some job) (hrival : q.get? other = some rival)
    (hexecution : job.execution = some execution) (hsame : rival.execution = some execution) :
    other = id := by
  have hid := (hindexed execution id).mpr ⟨job, hjob, hexecution⟩
  have hother := (hindexed execution other).mpr ⟨rival, hrival, hsame⟩
  exact Option.some.inj (hother.symm.trans hid)

theorem known?_eq_some_iff {q : JobQueue} (hindexed : q.Indexed) {execution : String} {job : Job} :
    q.known? (some execution) = some job ↔
      ∃ id, q.get? id = some job ∧ job.execution = some execution := by
  simp only [known?, getByExecution?, Option.bind_some, Option.bind_eq_some_iff]
  constructor
  · rintro ⟨id, hid, hjob⟩
    obtain ⟨found, hfound, hexecution⟩ := (hindexed execution id).mp hid
    obtain rfl : found = job := Option.some.inj (hfound.symm.trans hjob)
    exact ⟨id, hjob, hexecution⟩
  · rintro ⟨id, hjob, hexecution⟩
    exact ⟨id, (hindexed execution id).mpr ⟨job, hjob, hexecution⟩, hjob⟩

/-- Of an execution that is not known there is no job. -/
theorem ne_of_unknown {q : JobQueue} (hindexed : q.Indexed) {execution : String}
    (hunknown : q.known? (some execution) = none) {id : JobId} {job : Job}
    (hjob : q.get? id = some job) : job.execution ≠ some execution := by
  intro hexecution
  have hknown := hindexed.known?_eq_some_iff.mpr ⟨id, hjob, hexecution⟩
  rw [hunknown] at hknown
  contradiction

/-- The index is right still when one record was replaced by another of the same execution. -/
theorem replace {q next : JobQueue} (hindexed : q.Indexed) {id : JobId} {job after : Job}
    (hjob : q.get? id = some job) (hindex : next.byExecution = q.byExecution)
    (hget : ∀ other, next.get? other = if other = id then some after else q.get? other)
    (hexecution : after.execution = job.execution) : next.Indexed := by
  intro execution other
  rw [hindex, hindexed execution other, hget]
  by_cases heq : other = id
  · rw [if_pos heq, heq]
    constructor
    · rintro ⟨found, hfound, hsame⟩
      obtain rfl : found = job := Option.some.inj (hfound.symm.trans hjob)
      exact ⟨after, rfl, hexecution.trans hsame⟩
    · rintro ⟨found, hfound, hsame⟩
      obtain rfl := Option.some.inj hfound
      exact ⟨job, hjob, hexecution.symm.trans hsame⟩
  · rw [if_neg heq]

/-- The index is right still when a job of an unknown execution was taken in under a new name. -/
theorem add {q : JobQueue} (hindexed : q.Indexed) {job : Job} (hnew : q.get? job.id = none)
    (hunknown : q.known? job.execution = none) : (q.add job).Indexed := by
  intro execution other
  rw [get?_add]
  by_cases hown : job.execution = some execution
  · rw [hown] at hunknown
    have hindex : (q.add job).byExecution.get? execution = some job.id := by
      simp [JobQueue.add, hown, Table.get?_put]
    rw [hindex]
    constructor
    · rintro ⟨⟩
      exact ⟨job, by simp, hown⟩
    · rintro ⟨found, hfound, hsame⟩
      split at hfound
      next heq => rw [heq]
      next => exact absurd hsame (hindexed.ne_of_unknown hunknown hfound)
  · have hindex : (q.add job).byExecution.get? execution = q.byExecution.get? execution := by
      cases hexecution : job.execution with
      | none => simp [JobQueue.add, hexecution]
      | some named =>
          have hne : execution ≠ named := fun heq => hown (by rw [hexecution, heq])
          simp [JobQueue.add, hexecution, Table.get?_put, hne]
    rw [hindex, hindexed execution other]
    by_cases heq : other = job.id
    · simp [heq, hnew, hown]
    · rw [if_neg heq]

end Indexed

/-- Who hands in a job of a known execution is given the job that there is, and nothing changes. -/
theorem enqueue_of_known {q : JobQueue} {execution : Option String} {job : Job}
    (hknown : q.known? execution = some job) (stamp : Stamp) (kind : JobKind) (payload : Json)
    (maxAttempts : Nat) : q.enqueue stamp kind payload execution maxAttempts = (job, q) := by
  simp only [enqueue, hknown]

end JobQueue

namespace JobFlow

theorem indexed_move {f next : JobFlow} (hmove : Move f next) (hdistinct : next.created.Nodup)
    (hinTurn : f.InTurn) (hindexed : f.queue.Indexed) : next.queue.Indexed := by
  have hrecord : ∀ {id job after}, f.queue.get? id = some job → after.id = job.id →
      after.execution = job.execution → (f.queue.update after).Indexed := by
    intro id job after hjob hid hexecution
    have hget : ∀ other, (f.queue.update after).get? other =
        if other = id then some after else f.queue.get? other := by
      intro other
      rw [JobQueue.get?_update, hid, hinTurn.tidy.id_eq hjob]
    exact hindexed.replace hjob rfl hget hexecution
  cases hmove with
  | still | passed => exact hindexed
  | added stamp kind payload execution maxAttempts job hunknown hjob =>
      subst hjob
      refine hindexed.add ?_ hunknown
      rw [Option.eq_none_iff_forall_not_mem]
      intro found hfound
      exact (List.nodup_append.mp hdistinct).2.2 _ (hinTurn.named hfound) _
        (List.mem_singleton_self _) rfl
  | started now id rest job after hchannel hjob hstatus hafter =>
      exact hrecord hjob (by rw [hafter]) (by rw [hafter])
  | requeued now id error job after hjob hstatus hattempts hafter =>
      exact hrecord hjob (by rw [hafter]) (by rw [hafter])
  | succeeded now id result job hjob | failed now id error job hjob | cancelled now id job hjob =>
      exact hrecord hjob rfl rfl

theorem indexed_run (actions : List Action) (hdistinct : (start.run actions).created.Nodup) :
    (start.run actions).queue.Indexed := by
  have hkeeps : ∀ {f next : JobFlow}, Move f next →
      (f.created.Nodup → f.InTurn ∧ f.queue.Indexed) →
      next.created.Nodup → next.InTurn ∧ next.queue.Indexed := by
    intro f next hmove hbefore hnodup
    obtain ⟨hinTurn, hindexed⟩ := hbefore ((created_grows hmove).sublist.nodup hnodup)
    exact ⟨inTurn_move hmove hnodup hinTurn, indexed_move hmove hnodup hinTurn hindexed⟩
  have hstart : start.created.Nodup → start.InTurn ∧ start.queue.Indexed := by
    refine fun _ => ⟨inTurn_start, fun execution id => ?_⟩
    simp [start, JobQueue.get?, JobQueue.empty]
  let holds (f : JobFlow) : Prop := f.created.Nodup → f.InTurn ∧ f.queue.Indexed
  have hrun : holds (start.run actions) := run_keeps hkeeps hstart actions
  exact (hrun hdistinct).2

/-- A job is found under its name for good, with the execution that it was handed in for. -/
theorem execution_run {f : JobFlow} (hinTurn : f.InTurn) {id : JobId} {job : Job}
    (hjob : f.queue.get? id = some job) (actions : List Action)
    (hdistinct : (f.run actions).created.Nodup) :
    ∃ found, (f.run actions).queue.get? id = some found ∧ found.execution = job.execution := by
  induction actions generalizing f job with
  | nil => exact ⟨job, hjob, rfl⟩
  | cons action rest ih =>
      have hmove := f.move_cases action
      have hnodup : (f.step action).created.Nodup :=
        ((f.step action).created_prefix_run rest).sublist.nodup hdistinct
      obtain ⟨found, hfound⟩ := get?_isSome_move hmove hjob
      have hkept : found.execution = job.execution := by
        rcases record_move hmove hinTurn hnodup hfound with
          ⟨hnew, _⟩ | ⟨before, hbefore, hpassed, _⟩
        · exact absurd (hinTurn.named hjob) hnew
        · obtain rfl := Option.some.inj (hbefore.symm.trans hjob)
          rcases hpassed with rfl | hpasses
          · rfl
          · exact hpasses.execution_eq
      obtain ⟨last, hlast, hexecution⟩ := ih (inTurn_move hmove hnodup hinTurn) hfound hdistinct
      exact ⟨last, hlast, hexecution.trans hkept⟩

/-- After a job was handed in for an execution, the one that was answered is there and belongs to
it. -/
theorem get?_enqueued {f : JobFlow} (hindexed : f.queue.Indexed) (stamp : Stamp) (kind : JobKind)
    (payload : Json) (execution : String) (maxAttempts : Nat) :
    ∃ id job, f.queue.enqueue stamp kind payload (some execution) maxAttempts =
        (job, (f.step (.enqueue stamp kind payload (some execution) maxAttempts)).queue) ∧
      (f.step (.enqueue stamp kind payload (some execution) maxAttempts)).queue.get? id = some job ∧
      job.execution = some execution := by
  cases hknown : f.queue.known? (some execution) with
  | some job =>
      obtain ⟨id, hjob, hexecution⟩ := hindexed.known?_eq_some_iff.mp hknown
      exact ⟨id, job, by simp [step, JobQueue.enqueue, hknown],
        by simpa [step, JobQueue.enqueue, hknown] using hjob, hexecution⟩
  | none =>
      exact ⟨⟨stamp.id⟩, .new stamp kind payload (some execution) maxAttempts,
        by simp [step, JobQueue.enqueue, hknown],
        by simp [step, JobQueue.enqueue, hknown, JobQueue.get?_add, Job.new], rfl⟩

/-- What it takes for executions and jobs to belong together one to one after a list of calls. -/
structure Indexes (actions : List Action) : Prop where
  /-- No two jobs are of one execution. -/
  unique : ∀ {id other job rival execution},
    (start.run actions).queue.get? id = some job →
    (start.run actions).queue.get? other = some rival →
    job.execution = some execution → rival.execution = some execution → other = id
  /-- The index has an execution when there is a job of it, and the name of that job under it. -/
  indexed : ∀ {execution id},
    (start.run actions).queue.byExecution.get? execution = some id ↔
      ∃ job, (start.run actions).queue.get? id = some job ∧ job.id = id ∧
        job.execution = some execution
  /-- Who hands in a job of an execution that there is a job of is given this job as it stands, and
  neither the tables nor the channel change. -/
  known : ∀ {id job execution}, (start.run actions).queue.get? id = some job →
    job.execution = some execution → ∀ stamp kind payload maxAttempts,
      (start.run actions).queue.enqueue stamp kind payload (some execution) maxAttempts =
        (job, (start.run actions).queue)
  /-- However often and wherever among other calls jobs were handed in for an execution, there is
  one job of it, and each time the answer was this job. -/
  once : ∀ {before later stamp kind payload execution maxAttempts},
    actions = before ++ .enqueue stamp kind payload (some execution) maxAttempts :: later →
    ∀ id, (∃ job, (start.run actions).queue.get? id = some job ∧ job.execution = some execution) ↔
      id = ((start.run before).queue.enqueue stamp kind payload (some execution) maxAttempts).1.id

/-- In every run that gives new jobs distinct names executions and jobs belong together one to
one. -/
theorem run_indexes (actions : List Action) (hdistinct : (start.run actions).created.Nodup) :
    Indexes actions := by
  have hinTurn := inTurn_run actions hdistinct
  have hindexed := indexed_run actions hdistinct
  constructor
  case unique => exact hindexed.id_unique
  case indexed =>
    intro execution id
    rw [hindexed execution id]
    constructor
    · rintro ⟨job, hjob, hexecution⟩
      exact ⟨job, hjob, hinTurn.tidy.id_eq hjob, hexecution⟩
    · rintro ⟨job, hjob, _, hexecution⟩
      exact ⟨job, hjob, hexecution⟩
  case known =>
    intro id job execution hjob hexecution stamp kind payload maxAttempts
    have hknown := hindexed.known?_eq_some_iff.mpr ⟨id, hjob, hexecution⟩
    exact JobQueue.enqueue_of_known hknown stamp kind payload maxAttempts
  case once =>
    intro before later stamp kind payload execution maxAttempts hactions
    let asked := Action.enqueue stamp kind payload (some execution) maxAttempts
    let f := (start.run before).step asked
    have hrun : start.run actions = f.run later := by
      rw [hactions]
      exact List.foldl_append
    -- The names that were given by then are among those that were given in the end.
    have hlater : f.created.Nodup := by
      rw [hrun] at hdistinct
      exact (f.created_prefix_run later).sublist.nodup hdistinct
    have hearlier : (start.run before).created.Nodup :=
      (created_grows ((start.run before).move_cases asked)).sublist.nodup hlater
    have hturn : f.InTurn :=
      inTurn_move ((start.run before).move_cases asked) hlater (inTurn_run before hearlier)
    obtain ⟨given, job, hanswer, hjob, hexecution⟩ :=
      get?_enqueued (indexed_run before hearlier) stamp kind payload execution maxAttempts
    obtain ⟨found, hfound, hkept⟩ :=
      execution_run hturn hjob later (by rw [← hrun]; exact hdistinct)
    rw [← hrun] at hfound
    have hgiven : job.id = given := hturn.tidy.id_eq hjob
    intro id
    rw [hanswer, hgiven]
    constructor
    · rintro ⟨other, hother, hsame⟩
      exact hindexed.id_unique hfound hother (hkept.trans hexecution) hsame
    · rintro rfl
      exact ⟨found, hfound, hkept.trans hexecution⟩

/-- Calls that hand in an execution anew while its job waits, is worked on and is over. -/
def handedInAgain : List Action := [
  .enqueue ⟨.ofNanos 0, "first", "", ""⟩ .agentExecute .null (some "run") 2,
  .enqueue ⟨.ofNanos 1, "second", "", ""⟩ .writeExecute (.str "other") (some "run") 5,
  .enqueue ⟨.ofNanos 2, "third", "", ""⟩ .agentExecute .null none 1,
  .claim (.ofNanos 3),
  .enqueue ⟨.ofNanos 4, "fourth", "", ""⟩ .agentExecute .null (some "run") 1,
  .ack ⟨"first"⟩ (.str "done") (.ofNanos 5),
  .enqueue ⟨.ofNanos 6, "fifth", "", ""⟩ .agentExecute .null (some "run") 1]

theorem handedInAgain_indexes :
    (start.run handedInAgain).created.Nodup ∧ Indexes handedInAgain :=
  ⟨by decide, run_indexes handedInAgain (by decide)⟩

end JobFlow

end Gatehouse
