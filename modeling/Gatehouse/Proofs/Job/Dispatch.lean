import Gatehouse.Proofs.Job.Flow

/-! # No job is lost or handed out twice

The channel is never searched, so it may carry the name of a job that is no
longer queued. How often it carries a name is fixed by where the job stands:
once while it is queued, not at all while it is worked on and after that, and
at most once when it was cancelled, since the cancelled job may have been
waiting. This holds however calls follow each other, as long as new jobs are
given new names, and with it the channel is the list of dispatches still to be
dealt with, each queued job standing at the latest of its own.
-/

namespace Gatehouse

/-- How often the channel may carry the name of a job that stands there. -/
def JobStatus.Admits : JobStatus → Nat → Prop
  | .queued, count => count = 1
  | .processing, count | .succeeded, count | .failed, count => count = 0
  | .cancelled, count => count ≤ 1

theorem JobStatus.Admits.le_one {status : JobStatus} {count : Nat} (hadmits : status.Admits count) :
    count ≤ 1 := by
  cases status <;> simp only [Admits] at hadmits <;> omega

/-- Of the jobs that are not queued the channel may carry cancelled ones only. -/
theorem JobStatus.Admits.cancelled {status : JobStatus} {count : Nat}
    (hadmits : status.Admits count) (hcount : 0 < count) (hstatus : status ≠ .queued) :
    status = .cancelled := by
  cases status with
  | queued => contradiction
  | cancelled => rfl
  | _ =>
      simp only [Admits] at hadmits
      omega

namespace JobQueue

/-- Jobs stand under their own names, the channel carries each name as often as the job admits, and
it carries no other names. -/
structure Tidy (q : JobQueue) : Prop where
  id_eq : ∀ {id job}, q.get? id = some job → job.id = id
  counts : ∀ {id job}, q.get? id = some job → job.status.Admits (q.channel.count id)
  known : ∀ {id}, id ∈ q.channel → ∃ job, q.get? id = some job

theorem get?_update (q : JobQueue) (job : Job) (id : JobId) :
    (q.update job).get? id = if id = job.id then some job else q.get? id :=
  Table.get?_put ..

theorem get?_add (q : JobQueue) (job : Job) (id : JobId) :
    (q.add job).get? id = if id = job.id then some job else q.get? id :=
  Table.get?_put ..

/-- A queue stays tidy when one record is replaced and the channel changes for that name alone, to
what the new record admits. -/
theorem Tidy.replace {q next : JobQueue} (htidy : q.Tidy) (job : Job)
    (hget : ∀ id, next.get? id = if id = job.id then some job else q.get? id)
    (hown : job.status.Admits (next.channel.count job.id))
    (hothers : ∀ id, id ≠ job.id → next.channel.count id = q.channel.count id) : next.Tidy where
  id_eq := by
    intro id found hfound
    rw [hget] at hfound
    split at hfound
    next heq => rw [heq, Option.some.inj hfound]
    next => exact htidy.id_eq hfound
  counts := by
    intro id found hfound
    rw [hget] at hfound
    split at hfound
    next heq =>
      obtain rfl := Option.some.inj hfound
      rw [heq]
      exact hown
    next hne =>
      rw [hothers id hne]
      exact htidy.counts hfound
  known := by
    intro id hmem
    rw [hget]
    split
    next => exact ⟨job, rfl⟩
    next hne =>
      have hcount := List.count_pos_iff.mpr hmem
      rw [hothers id hne] at hcount
      exact htidy.known (List.count_pos_iff.mp hcount)

theorem Tidy.update {q : JobQueue} (htidy : q.Tidy) (job : Job)
    (hown : job.status.Admits (q.channel.count job.id)) : (q.update job).Tidy :=
  htidy.replace job (q.get?_update job) hown fun _ _ => rfl

theorem Tidy.count_rest {q : JobQueue} (htidy : q.Tidy) {id : JobId} {rest : List JobId} {job : Job}
    (hchannel : q.channel = id :: rest) (hjob : q.get? id = some job) : rest.count id = 0 := by
  have hle := (htidy.counts hjob).le_one
  rw [hchannel, List.count_cons_self] at hle
  omega

/-- A job that is handed out stood at the front of the channel and was queued. -/
theorem claim_some {q : JobQueue} {now : Moment} {job : Job} (hclaim : (q.claim now).1 = some job) :
    ∃ id rest before, q.channel = id :: rest ∧ q.get? id = some before ∧ before.status = .queued ∧
      job = { before with
        status := .processing, attempts := before.attempts + 1, updatedAt := now } := by
  unfold claim at hclaim
  cases hchannel : q.channel with
  | nil => simp [hchannel] at hclaim
  | cons id rest =>
      have hget : get? { q with channel := rest } id = q.get? id := rfl
      cases hjob : q.get? id with
      | none => simp [hchannel, hget, hjob] at hclaim
      | some before =>
          by_cases hstatus : before.status = .queued
          · refine ⟨id, rest, before, rfl, hjob, hstatus, ?_⟩
            simpa [hchannel, hget, hjob, hstatus, eq_comm] using hclaim
          · simp [hchannel, hget, hjob, hstatus] at hclaim

/-- When no job is handed out there was none, or the job at the front was not queued; then its name
is gone from the channel and nothing else has changed. -/
theorem claim_none {q : JobQueue} {now : Moment} (hclaim : (q.claim now).1 = none) :
    q.channel = [] ∨ ∃ id rest, q.channel = id :: rest ∧
      (∀ job, q.get? id = some job → job.status ≠ .queued) ∧
      (q.claim now).2 = { q with channel := rest } := by
  unfold claim at hclaim ⊢
  cases hchannel : q.channel with
  | nil => exact .inl rfl
  | cons id rest =>
      have hget : get? { q with channel := rest } id = q.get? id := rfl
      refine .inr ⟨id, rest, rfl, ?_⟩
      cases hjob : q.get? id with
      | none => simp [hget, hjob]
      | some before =>
          by_cases hstatus : before.status = .queued
          · simp [hchannel, hget, hjob, hstatus] at hclaim
          · simp [hget, hjob, hstatus]

end JobQueue

/-- At this place the name was dispatched for the last time so far. -/
def LatestAt (log : List JobId) (id : JobId) (place : Nat) : Prop :=
  log[place]? = some id ∧ ∀ later, place < later → log[later]? ≠ some id

theorem LatestAt.append_left {log : List JobId} {id : JobId} {place : Nat}
    (hlatest : LatestAt log id place) (before : List JobId) :
    LatestAt (before ++ log) id (before.length + place) := by
  refine ⟨?_, ?_⟩
  · rw [List.getElem?_append_right (Nat.le_add_right _ _), Nat.add_sub_cancel_left]
    exact hlatest.1
  · intro later hlater
    rw [List.getElem?_append_right (by omega)]
    exact hlatest.2 _ (by omega)

theorem exists_latestAt {log : List JobId} {id : JobId} (hmem : id ∈ log) :
    ∃ place, LatestAt log id place := by
  induction log with
  | nil => contradiction
  | cons head rest ih =>
      by_cases hrest : id ∈ rest
      · obtain ⟨place, hlatest⟩ := ih hrest
        exact ⟨_, hlatest.append_left [head]⟩
      · obtain rfl : id = head := (List.mem_cons.mp hmem).resolve_right hrest
        refine ⟨0, rfl, ?_⟩
        intro later hlater hfound
        obtain ⟨n, rfl⟩ := Nat.exists_eq_succ_of_ne_zero (Nat.ne_of_gt hlater)
        exact hrest (List.mem_of_getElem? hfound)

/-- A name that comes no more was dispatched last where it stands. -/
theorem latestAt_of_count {before rest : List JobId} {id : JobId} (hcount : rest.count id = 0) :
    LatestAt (before ++ id :: rest) id before.length := by
  have hlatest : LatestAt (id :: rest) id 0 := by
    refine ⟨rfl, ?_⟩
    intro later hlater hfound
    obtain ⟨n, rfl⟩ := Nat.exists_eq_succ_of_ne_zero (Nat.ne_of_gt hlater)
    exact List.count_eq_zero.mp hcount (List.mem_of_getElem? hfound)
  exact hlatest.append_left before

namespace JobFlow

/-- The queue is tidy, all its jobs were given their names, and the dispatches are those that came
out of the channel followed by those that are still in it. -/
structure InTurn (f : JobFlow) : Prop where
  tidy : f.queue.Tidy
  named : ∀ {id job}, f.queue.get? id = some job → id ∈ f.created
  log : f.dispatched = f.taken ++ f.queue.channel

theorem inTurn_start : start.InTurn where
  tidy := ⟨by simp [start, JobQueue.get?, JobQueue.empty],
    by simp [start, JobQueue.get?, JobQueue.empty], by simp [start, JobQueue.empty]⟩
  named := by simp [start, JobQueue.get?, JobQueue.empty]
  log := rfl

theorem created_grows {f next : JobFlow} (hmove : Move f next) : f.created <+: next.created := by
  cases hmove with
  | added => exact List.prefix_append _ _
  | _ => exact List.prefix_rfl

theorem InTurn.named_update {f : JobFlow} (hinTurn : f.InTurn) {id other : JobId}
    {job after found : Job} (hjob : f.queue.get? id = some job) (hid : after.id = job.id)
    (hfound : (f.queue.update after).get? other = some found) : other ∈ f.created := by
  rw [JobQueue.get?_update] at hfound
  split at hfound
  next heq =>
    rw [heq, hid, hinTurn.tidy.id_eq hjob]
    exact hinTurn.named hjob
  next => exact hinTurn.named hfound

/-- Replacing the record of a job that is there changes neither names nor dispatches. -/
theorem InTurn.record {f : JobFlow} (hinTurn : f.InTurn) {id : JobId} {job after : Job}
    (hjob : f.queue.get? id = some job) (hid : after.id = job.id)
    (hadmits : after.status.Admits (f.queue.channel.count id)) : (f.record after).InTurn where
  tidy := hinTurn.tidy.update after (by rwa [hid, hinTurn.tidy.id_eq hjob])
  named hfound := hinTurn.named_update hjob hid hfound
  log := hinTurn.log

theorem InTurn.added {f : JobFlow} (hinTurn : f.InTurn) {job : Job} (hnew : job.id ∉ f.created)
    (hstatus : job.status = .queued) :
    InTurn { f with
      queue := f.queue.add job
      created := f.created ++ [job.id]
      dispatched := f.dispatched ++ [job.id] } where
  tidy := by
    have habsent : f.queue.channel.count job.id = 0 := by
      rw [List.count_eq_zero]
      intro hmem
      obtain ⟨found, hfound⟩ := hinTurn.tidy.known hmem
      exact hnew (hinTurn.named hfound)
    refine hinTurn.tidy.replace job (f.queue.get?_add job) ?_ ?_
    · simp [hstatus, JobStatus.Admits, JobQueue.add, habsent]
    · intro id hne
      simp [JobQueue.add, hne.symm]
  named := by
    intro id found hfound
    simp only [JobQueue.get?_add] at hfound
    split at hfound
    next heq => simp [heq]
    next => exact List.mem_append_left _ (hinTurn.named hfound)
  log := by simp [JobQueue.add, hinTurn.log]

theorem InTurn.started {f : JobFlow} (hinTurn : f.InTurn) {id : JobId} {rest : List JobId}
    {job after : Job} (hchannel : f.queue.channel = id :: rest) (hjob : f.queue.get? id = some job)
    (hid : after.id = job.id) (hstatus : after.status = .processing) :
    InTurn { f with
      queue := { f.queue with channel := rest }.update after
      taken := f.taken ++ [id]
      claimed := f.claimed ++ [after.id] } where
  tidy := by
    have hown : after.id = id := hid.trans (hinTurn.tidy.id_eq hjob)
    refine hinTurn.tidy.replace after (JobQueue.get?_update _ after) ?_ ?_
    · simp only [hstatus, JobStatus.Admits, JobQueue.update, hown]
      exact hinTurn.tidy.count_rest hchannel hjob
    · intro other hne
      rw [hown] at hne
      simp [JobQueue.update, hchannel, hne.symm]
  named hfound := hinTurn.named_update hjob hid hfound
  log := by simp [JobQueue.update, hinTurn.log, hchannel]

theorem InTurn.passed {f : JobFlow} (hinTurn : f.InTurn) {id : JobId} {rest : List JobId}
    (hchannel : f.queue.channel = id :: rest)
    (hstatus : ∀ job, f.queue.get? id = some job → job.status ≠ .queued) :
    InTurn { f with queue := { f.queue with channel := rest }, taken := f.taken ++ [id] } where
  tidy := by
    -- A name in the channel that is not of a queued job is of a cancelled one.
    have hmem : id ∈ f.queue.channel := by simp [hchannel]
    obtain ⟨job, hjob⟩ := hinTurn.tidy.known hmem
    have hcancelled : job.status = .cancelled :=
      (hinTurn.tidy.counts hjob).cancelled (List.count_pos_iff.mpr hmem) (hstatus job hjob)
    have hown := hinTurn.tidy.id_eq hjob
    refine hinTurn.tidy.replace job ?_ ?_ ?_
    · intro other
      split
      next heq =>
        rw [heq, hown]
        exact hjob
      next => rfl
    · simp [hcancelled, JobStatus.Admits, hown, hinTurn.tidy.count_rest hchannel hjob]
    · intro other hne
      rw [hown] at hne
      simp [hchannel, hne.symm]
  named := hinTurn.named
  log := by simp [hinTurn.log, hchannel]

theorem InTurn.requeued {f : JobFlow} (hinTurn : f.InTurn) {id : JobId} {job after : Job}
    (hjob : f.queue.get? id = some job) (hstatus : job.status = .processing)
    (hid : after.id = job.id) (hqueued : after.status = .queued) :
    InTurn { f with
      queue := { f.queue.update after with channel := f.queue.channel ++ [id] }
      dispatched := f.dispatched ++ [id] } where
  tidy := by
    have hown : after.id = id := hid.trans (hinTurn.tidy.id_eq hjob)
    have habsent : f.queue.channel.count id = 0 := by
      have hadmits := hinTurn.tidy.counts hjob
      rwa [hstatus] at hadmits
    refine hinTurn.tidy.replace after (f.queue.get?_update after) ?_ ?_
    · simp [hqueued, JobStatus.Admits, hown, habsent]
    · intro other hne
      rw [hown] at hne
      simp [hne.symm]
  named hfound := hinTurn.named_update hjob hid hfound
  log := by simp [hinTurn.log]

theorem inTurn_move {f next : JobFlow} (hmove : Move f next) (hdistinct : next.created.Nodup)
    (hinTurn : f.InTurn) : next.InTurn := by
  cases hmove with
  | still => exact hinTurn
  | added stamp kind payload execution maxAttempts job hunknown hjob =>
      refine hinTurn.added ?_ (by rw [hjob]; rfl)
      intro hmem
      exact (List.nodup_append.mp hdistinct).2.2 _ hmem _ (List.mem_singleton_self _) rfl
  | started now id rest job after hchannel hjob hstatus hafter =>
      exact hinTurn.started hchannel hjob (by rw [hafter]) (by rw [hafter])
  | passed id rest hchannel hjob => exact hinTurn.passed hchannel hjob
  | succeeded now id result job hjob hstatus =>
      have hadmits := hinTurn.tidy.counts hjob
      rw [hstatus] at hadmits
      exact hinTurn.record hjob rfl hadmits
  | requeued now id error job after hjob hstatus hattempts hafter =>
      exact hinTurn.requeued hjob hstatus (by rw [hafter]) (by rw [hafter])
  | failed now id error job hjob hstatus hattempts =>
      have hadmits := hinTurn.tidy.counts hjob
      rw [hstatus] at hadmits
      exact hinTurn.record hjob rfl hadmits
  | cancelled now id job hjob hstatus =>
      exact hinTurn.record hjob rfl (hinTurn.tidy.counts hjob).le_one

theorem inTurn_run (actions : List Action) (hdistinct : (start.run actions).created.Nodup) :
    (start.run actions).InTurn := by
  have hkeeps : ∀ {f next : JobFlow}, Move f next →
      (f.created.Nodup → f.InTurn) → next.created.Nodup → next.InTurn := by
    intro f next hmove hinTurn hnodup
    exact inTurn_move hmove hnodup (hinTurn ((created_grows hmove).sublist.nodup hnodup))
  exact run_keeps hkeeps (fun _ => inTurn_start) actions hdistinct

/-- What it takes for no job to be lost or handed out twice. -/
structure Dispatches (f : JobFlow) : Prop where
  /-- The channel carries the name of a queued job once. -/
  queued : ∀ {id job}, f.queue.get? id = some job → job.status = .queued →
    f.queue.channel.count id = 1
  /-- It does not carry the name of a job that is worked on, has succeeded or has failed. -/
  absent : ∀ {id job}, f.queue.get? id = some job →
    job.status = .processing ∨ job.status = .succeeded ∨ job.status = .failed →
    id ∉ f.queue.channel
  /-- It carries the name of a cancelled job at most once. -/
  cancelled : ∀ {id job}, f.queue.get? id = some job → job.status = .cancelled →
    f.queue.channel.count id ≤ 1
  /-- It carries only names of jobs. -/
  known : ∀ {id}, id ∈ f.queue.channel → ∃ job, f.queue.get? id = some job ∧ job.id = id
  /-- A claim is answered with nothing only when the channel is empty or a cancelled job is at its
  front, whose name is all that goes. -/
  passes : ∀ {now}, (f.queue.claim now).1 = none → f.queue.channel = [] ∨
    ∃ id rest job, f.queue.channel = id :: rest ∧ f.queue.get? id = some job ∧
      job.status = .cancelled ∧ (f.queue.claim now).2 = { f.queue with channel := rest }
  /-- The names come out of the channel in the order in which they were dispatched. -/
  log : f.dispatched = f.taken ++ f.queue.channel
  /-- A claim that is answered with a job takes the queued one whose latest dispatch is the
  earliest; it is the first dispatch that was not dealt with yet. -/
  inTurn : ∀ {now job}, (f.queue.claim now).1 = some job →
    (∃ before, f.queue.get? job.id = some before ∧ before.status = .queued) ∧
    LatestAt f.dispatched job.id f.taken.length ∧
    ∀ {other waiting}, f.queue.get? other = some waiting → waiting.status = .queued →
      other ≠ job.id → ∃ later, f.taken.length < later ∧ LatestAt f.dispatched other later

/-- In every run that gives new jobs distinct names no job is lost or handed out twice. -/
theorem run_dispatches (actions : List Action) (hdistinct : (start.run actions).created.Nodup) :
    (start.run actions).Dispatches := by
  have hinTurn := inTurn_run actions hdistinct
  generalize start.run actions = f at hinTurn
  obtain ⟨htidy, _, hlog⟩ := hinTurn
  constructor
  case queued =>
    intro id job hjob hstatus
    have hadmits := htidy.counts hjob
    rwa [hstatus] at hadmits
  case absent =>
    intro id job hjob hstatus
    have hadmits := htidy.counts hjob
    rw [← List.count_eq_zero]
    rcases hstatus with hstatus | hstatus | hstatus <;> rwa [hstatus] at hadmits
  case cancelled => exact fun hjob _ => (htidy.counts hjob).le_one
  case known =>
    intro id hmem
    obtain ⟨job, hjob⟩ := htidy.known hmem
    exact ⟨job, hjob, htidy.id_eq hjob⟩
  case passes =>
    intro now hclaim
    rcases JobQueue.claim_none hclaim with hempty | ⟨id, rest, hchannel, hstatus, hafter⟩
    · exact .inl hempty
    · have hmem : id ∈ f.queue.channel := by simp [hchannel]
      obtain ⟨job, hjob⟩ := htidy.known hmem
      exact .inr ⟨id, rest, job, hchannel, hjob,
        (htidy.counts hjob).cancelled (List.count_pos_iff.mpr hmem) (hstatus job hjob), hafter⟩
  case log => exact hlog
  case inTurn =>
    intro now job hclaim
    obtain ⟨id, rest, before, hchannel, hbefore, hstatus, rfl⟩ := JobQueue.claim_some hclaim
    have hid : before.id = id := htidy.id_eq hbefore
    simp only [hid, hlog, hchannel]
    refine ⟨⟨before, hbefore, hstatus⟩, latestAt_of_count (htidy.count_rest hchannel hbefore), ?_⟩
    intro other waiting hwaiting hqueued hne
    -- Any other queued job waits behind the front, and so does its latest dispatch.
    have hcount := htidy.counts hwaiting
    have hrest : other ∈ rest := by
      rw [hqueued, hchannel, List.count_cons_of_ne hne.symm] at hcount
      exact List.count_pos_iff.mp (by rw [hcount]; exact Nat.one_pos)
    obtain ⟨place, hlatest⟩ := exists_latestAt hrest
    refine ⟨f.taken.length + 1 + place, by omega, ?_⟩
    simpa using hlatest.append_left (f.taken ++ [id])

/-- Calls by which the first of two jobs is worked on again while the second is cancelled. -/
def retriedAndCancelled : List Action := [
  .enqueue ⟨.ofNanos 0, "first", "", ""⟩ .agentExecute .null none 2,
  .enqueue ⟨.ofNanos 1, "second", "", ""⟩ .agentExecute .null (some "run") 1,
  .claim (.ofNanos 2),
  .cancel ⟨"second"⟩ (.ofNanos 3),
  .nack ⟨"first"⟩ "timeout" (.ofNanos 4),
  .claim (.ofNanos 5)]

theorem retriedAndCancelled_dispatches :
    (start.run retriedAndCancelled).created.Nodup ∧ (start.run retriedAndCancelled).Dispatches :=
  ⟨by decide, run_dispatches retriedAndCancelled (by decide)⟩

end JobFlow

end Gatehouse
