import Gatehouse.Proofs.Orchestrator.Shift

/-! # The records of a worker's jobs

Whatever happens to a worker and around it, its queue changes by moves that the
flow of jobs knows. So the queue stays in order, no record is lost, and a record
passes through one transition at a time. What the worker has in hand is a job of
which there is a record, of the same kind and with the same payload.
-/

namespace Gatehouse

/-- A queue as it is found, with all its names as those of new jobs. -/
def JobFlow.of (q : JobQueue) : JobFlow :=
  ⟨q, q.jobs.keys, q.channel, [], []⟩

namespace Job

theorem Passes.kind_eq {job after : Job} (hpasses : job.Passes after) : after.kind = job.kind := by
  cases hpasses <;> rfl

theorem Passes.payload_eq {job after : Job} (hpasses : job.Passes after) :
    after.payload = job.payload := by
  cases hpasses <;> rfl

end Job

namespace JobQueue

/-- The queue is tidy, and what its records say adds up. -/
structure Orderly (q : JobQueue) : Prop where
  tidy : q.Tidy
  sound : ∀ {id job}, q.get? id = some job → job.Sound

/-- One move makes of the queue the next one, and a new job gets a name that no job has. -/
def Flows (q next : JobQueue) : Prop :=
  ∃ flow, (JobFlow.of q).Move flow ∧ flow.created.Nodup ∧ flow.queue = next

variable {q next : JobQueue}

theorem get?_of_eq (heq : next = q) {id : JobId} {job : Job} (hjob : next.get? id = some job) :
    q.get? id = some job := by
  rw [← heq]
  exact hjob

theorem Tidy.get?_update_self (htidy : q.Tidy) {id : JobId} {job after : Job}
    (hjob : q.get? id = some job) (hid : after.id = job.id) :
    (q.update after).get? id = some after := by
  rw [get?_update, hid, htidy.id_eq hjob, if_pos rfl]

theorem Tidy.get?_update_ne (htidy : q.Tidy) {id other : JobId} {job after : Job}
    (hjob : q.get? id = some job) (hid : after.id = job.id) (hne : id ≠ other) :
    (q.update after).get? other = q.get? other := by
  rw [get?_update, hid, htidy.id_eq hjob, if_neg hne.symm]

theorem orderly_empty : empty.Orderly where
  tidy := JobFlow.inTurn_start.tidy
  sound := JobFlow.counted_start.sound

theorem Orderly.inTurn (horderly : q.Orderly) : (JobFlow.of q).InTurn where
  tidy := horderly.tidy
  named hjob := by
    by_contra hnew
    rw [JobFlow.of, JobQueue.get?, Table.get?_eq_none_iff.mpr hnew] at hjob
    contradiction
  log := rfl

theorem Flows.orderly (hflows : q.Flows next) (horderly : q.Orderly) : next.Orderly := by
  obtain ⟨flow, hmove, hdistinct, rfl⟩ := hflows
  refine ⟨(JobFlow.inTurn_move hmove hdistinct horderly.inTurn).tidy, ?_⟩
  intro id job hjob
  rcases JobFlow.record_move hmove horderly.inTurn hdistinct hjob with
    ⟨_, _, _, hsound⟩ | ⟨before, hbefore, rfl | hpasses, _⟩
  · exact hsound
  · exact horderly.sound hbefore
  · exact hpasses.sound (horderly.sound hbefore)

/-- A record stays, and passes through one transition at most. -/
theorem Flows.kept (hflows : q.Flows next) (horderly : q.Orderly) {id : JobId} {job : Job}
    (hjob : q.get? id = some job) :
    ∃ after, next.get? id = some after ∧ (after = job ∨ job.Passes after) := by
  obtain ⟨flow, hmove, hdistinct, rfl⟩ := hflows
  obtain ⟨after, hafter⟩ := JobFlow.get?_isSome_move hmove hjob
  refine ⟨after, hafter, ?_⟩
  rcases JobFlow.record_move hmove horderly.inTurn hdistinct hafter with
    ⟨hnew, _⟩ | ⟨before, hbefore, hpassed, _⟩
  · exact absurd (horderly.inTurn.named hjob) hnew
  · rwa [Option.some.inj (hjob.symm.trans hbefore)]

theorem Flows.of_move {flow : JobFlow} (hmove : (JobFlow.of q).Move flow)
    (hcreated : flow.created = q.jobs.keys) : q.Flows flow.queue :=
  ⟨flow, hmove, by rw [hcreated]; exact q.jobs.nodup, rfl⟩

theorem Flows.of_eq (heq : next = q) : q.Flows next := by
  rw [heq]
  exact .of_move .still rfl

end JobQueue

namespace Shift

variable {s next : Shift} {action : Action}

theorem Aside.flows (haside : s.Aside action next) : s.queue.Flows next.queue := by
  cases haside with
  | still workshop hqueue | left workshop hqueue => exact .of_eq hqueue
  | added stamp kind payload execution maxAttempts hunknown hnew =>
      refine ⟨_, .added stamp kind payload execution maxAttempts _ hunknown rfl, ?_, rfl⟩
      have hname : (⟨stamp.id⟩ : JobId) ∉ s.queue.jobs.keys := Table.get?_eq_none_iff.mp hnew
      simpa [JobFlow.of, Job.new, List.nodup_append] using
        ⟨s.queue.jobs.nodup, fun id hid heq => hname (heq ▸ hid)⟩
  | cancelled id record now haction hrecord hstatus =>
      exact .of_move (.cancelled now id record hrecord hstatus) rfl
  | engaged => exact .of_eq rfl

theorem Onward.flows {now : Moment} (honward : s.Onward now next) :
    s.queue.Flows next.queue := by
  cases honward with
  | passed workshop hstation hqueue hterms hfront =>
      change s.queue.Flows workshop.queue
      rw [hqueue]
      cases hchannel : s.queue.channel with
      | nil =>
          exact .of_eq (by rw [List.tail_nil, ← hchannel])
      | cons id rest =>
          refine .of_move (.passed id rest hchannel ?_) rfl
          exact fun job hjob => hfront id rest job hchannel hjob
  | handed id rest before after hstation hchannel hbefore hqueued hafter =>
      exact .of_move (.started now id rest before after hchannel hbefore hqueued hafter) rfl
  | refused job fault after hstation htrouble hrefused =>
      cases hrefused with
      | requeued record event hrecord hstatus hattempts =>
          exact .of_move
            (.requeued now job.id fault.text record _ hrecord hstatus hattempts rfl) rfl
      | failed record event hrecord hstatus hattempts =>
          exact .of_move (.failed now job.id fault.text record hrecord hstatus hattempts) rfl
      | gone => exact .of_eq rfl
  | handled job after hjob htrouble hhandled =>
      cases hhandled with
      | closed workshop event record result hterms hrecord hstatus hreports hqueue =>
          change s.queue.Flows workshop.queue
          rw [hqueue]
          exact .of_move (.succeeded now job.id result record hrecord hstatus) rfl
      | waits workshop work hqueue | gone workshop hqueue | broke workshop hqueue =>
          exact .of_eq hqueue
  | recorded => exact .of_eq rfl

theorem Step.flows (hstep : s.Step action next) : s.queue.Flows next.queue := by
  cases hstep with
  | aside hmoves haside => exact haside.flows
  | onward now hmoves hnow honward => exact honward.flows

/-- What the worker has in hand it had before, or it was given the job just now. -/
theorem Step.inHand (hstep : s.Step action next) {job : Job}
    (hjob : next.station.job? = some job) :
    s.station.job? = some job ∨ next.queue.get? job.id = some job := by
  cases hstep with
  | aside hmoves haside =>
      cases haside with
      | engaged | left => contradiction
      | _ => exact .inl hjob
  | onward now hmoves hnow honward =>
      cases honward with
      | passed => exact .inl hjob
      | handed id rest before after =>
          obtain rfl := Option.some.inj hjob
          refine .inr ?_
          change JobQueue.get? (JobQueue.update _ after) after.id = some after
          simp [JobQueue.get?_update]
      | refused other fault after hstation htrouble hrefused => cases hrefused <;> contradiction
      | recorded => contradiction
      | handled other after hother htrouble hhandled =>
          cases hhandled with
          | waits workshop work hqueue hterms habout =>
              exact .inl (hother.trans (habout.job?_eq.symm.trans hjob))
          | _ => contradiction

/-- The queue is in order, and the job in hand is the job of a record. -/
structure Working (s : Shift) : Prop where
  orderly : s.queue.Orderly
  fitting : s.Fitting
  known : ∀ {job}, s.station.job? = some job → ∃ record, s.queue.get? job.id = some record ∧
    record.kind = job.kind ∧ record.payload = job.payload

theorem working_start (gateway : Gateway) (router : Router) (limit : Nat) :
    (start gateway router limit).Working where
  orderly := JobQueue.orderly_empty
  fitting := by
    intro work job hstation
    contradiction
  known hjob := by contradiction

theorem Step.fitting (hstep : s.Step action next) (hfitting : s.Fitting) : next.Fitting := by
  intro work job hstation hjob
  cases hstep with
  | aside hmoves haside =>
      cases haside with
      | engaged | left => contradiction
      | _ => exact hfitting work job hstation hjob
  | onward now hmoves hnow honward =>
      cases honward with
      | passed => exact hfitting work job hstation hjob
      | handed | recorded => contradiction
      | refused other fault after hother htrouble hrefused =>
          cases hrefused with
          | gone => contradiction
          | requeued | failed =>
              cases hstation
              contradiction
      | handled other after hother htrouble hhandled =>
          cases hhandled with
          | gone | broke => contradiction
          | closed =>
              cases hstation
              contradiction
          | waits workshop work hqueue hterms habout =>
              cases hstation
              obtain rfl := Option.some.inj (habout.job?_eq.symm.trans hjob)
              exact ⟨habout, htrouble⟩

theorem Step.working (hstep : s.Step action next) (hworking : s.Working) : next.Working where
  orderly := hstep.flows.orderly hworking.orderly
  fitting := hstep.fitting hworking.fitting
  known := by
    intro job hjob
    rcases hstep.inHand hjob with hbefore | hnow
    · obtain ⟨record, hrecord, hkind, hpayload⟩ := hworking.known hbefore
      obtain ⟨after, hafter, rfl | hpasses⟩ := hstep.flows.kept hworking.orderly hrecord
      · exact ⟨after, hafter, hkind, hpayload⟩
      · exact ⟨after, hafter, hpasses.kind_eq.trans hkind, hpasses.payload_eq.trans hpayload⟩
    · exact ⟨job, hnow, rfl, rfl⟩

/-- What is written into the record of a job, and why. -/
inductive Writes (s : Shift) (id : JobId) : Job → Prop where
  | added (stamp : Stamp) (kind : JobKind) (payload : Json) (execution : Option String)
      (maxAttempts : Nat) : Writes s id (Job.new stamp kind payload execution maxAttempts)
  | cancelled (now : Moment) (record : Job) (hrecord : s.queue.get? id = some record) :
      Writes s id { record with status := .cancelled, updatedAt := now }
  | started (now : Moment) (record : Job) (hrecord : s.queue.get? id = some record)
      (hstatus : record.status = .queued) :
      Writes s id { record with
        status := .processing, attempts := record.attempts + 1, updatedAt := now }
  | requeued (now : Moment) (record : Job) (fault : Fault)
      (hrecord : s.queue.get? id = some record) (hstatus : record.status = .processing)
      (htrouble : record.kind.trouble? record.payload = some fault) :
      Writes s id { record with
        status := .queued, lastError := some fault.text, updatedAt := now }
  | failed (now : Moment) (record : Job) (fault : Fault)
      (hrecord : s.queue.get? id = some record) (hstatus : record.status = .processing)
      (hattempts : ¬ record.attempts < record.maxAttempts)
      (htrouble : record.kind.trouble? record.payload = some fault) :
      Writes s id { record with
        status := .failed, lastError := some fault.text, updatedAt := now }
  | succeeded (now : Moment) (record : Job) (result : Json)
      (hrecord : s.queue.get? id = some record) (hstatus : record.status = .processing)
      (htrouble : record.kind.trouble? record.payload = none) (hreports : record.Reports result) :
      Writes s id { record with
        status := .succeeded, result := some result, lastError := none, updatedAt := now }

theorem Writes.of_update {id other : JobId} {record after found : Job}
    (hwrites : s.Writes id after) (hworking : s.Working)
    (hrecord : s.queue.get? id = some record) (hid : after.id = record.id)
    (hfound : (s.queue.update after).get? other = some found) :
    s.queue.get? other = some found ∨ s.Writes other found := by
  rcases hworking.orderly.tidy.of_update hrecord hid hfound with ⟨rfl, rfl⟩ | ⟨_, hbefore⟩
  · exact .inr hwrites
  · exact .inl hbefore

theorem Aside.writes (haside : s.Aside action next) (hworking : s.Working) {id : JobId}
    {found : Job} (hfound : next.queue.get? id = some found) :
    s.queue.get? id = some found ∨ s.Writes id found := by
  cases haside with
  | still workshop hqueue | left workshop hqueue =>
      exact .inl (JobQueue.get?_of_eq hqueue hfound)
  | engaged => exact .inl hfound
  | added stamp kind payload execution maxAttempts =>
      have hadded := s.queue.get?_add (Job.new stamp kind payload execution maxAttempts) id
      split at hadded
      next =>
        obtain rfl := Option.some.inj (hfound.symm.trans hadded)
        exact .inr (.added ..)
      next => exact .inl (hadded.symm.trans hfound)
  | cancelled other record now haction hrecord =>
      exact (Writes.cancelled now record hrecord).of_update hworking hrecord rfl hfound

theorem Onward.writes {now : Moment} (honward : s.Onward now next) (hworking : s.Working)
    {id : JobId} {found : Job} (hfound : next.queue.get? id = some found) :
    s.queue.get? id = some found ∨ s.Writes id found := by
  have hsame : next.queue.jobs = s.queue.jobs → s.queue.get? id = some found := by
    intro hjobs
    rwa [JobQueue.get?, ← hjobs]
  -- The job in hand is that of its record, so what is wrong with one is wrong with the other.
  have halike : ∀ {job record}, s.station.job? = some job → s.queue.get? job.id = some record →
      record.kind = job.kind ∧ record.payload = job.payload := by
    intro job record hjob hrecord
    obtain ⟨known, hknown, hkind, hpayload⟩ := hworking.known hjob
    obtain rfl := Option.some.inj (hrecord.symm.trans hknown)
    exact ⟨hkind, hpayload⟩
  cases honward with
  | passed workshop hstation hqueue =>
      have hjobs := congrArg JobQueue.jobs hqueue
      exact .inl (hsame hjobs)
  | recorded => exact .inl hfound
  | handed other rest before after hstation hchannel hbefore hqueued hafter =>
      subst hafter
      exact (Writes.started now before hbefore hqueued).of_update hworking hbefore rfl hfound
  | refused job fault after hstation htrouble hrefused =>
      have hjob : s.station.job? = some job := by
        rw [hstation]
        rfl
      cases hrefused with
      | gone => exact .inl hfound
      | requeued record event hrecord hstatus hattempts =>
          obtain ⟨hkind, hpayload⟩ := halike hjob hrecord
          rw [← hkind, ← hpayload] at htrouble
          exact (Writes.requeued now record fault hrecord hstatus htrouble).of_update hworking
            hrecord rfl hfound
      | failed record event hrecord hstatus hattempts =>
          obtain ⟨hkind, hpayload⟩ := halike hjob hrecord
          rw [← hkind, ← hpayload] at htrouble
          exact (Writes.failed now record fault hrecord hstatus hattempts htrouble).of_update
            hworking hrecord rfl hfound
  | handled job after hjob htrouble hhandled =>
      cases hhandled with
      | waits workshop work hqueue | gone workshop hqueue | broke workshop hqueue =>
          have hjobs := congrArg JobQueue.jobs hqueue
          exact .inl (hsame hjobs)
      | closed workshop event record result hterms hrecord hstatus hreports hqueue =>
          obtain ⟨hkind, hpayload⟩ := halike hjob hrecord
          rw [← hkind, ← hpayload] at htrouble
          rw [Job.Reports, ← hkind] at hreports
          exact (Writes.succeeded now record result hrecord hstatus htrouble hreports).of_update
            hworking hrecord rfl (JobQueue.get?_of_eq hqueue hfound)

theorem Step.writes (hstep : s.Step action next) (hworking : s.Working) {id : JobId} {found : Job}
    (hfound : next.queue.get? id = some found) :
    s.queue.get? id = some found ∨ s.Writes id found := by
  cases hstep with
  | aside hmoves haside => exact haside.writes hworking hfound
  | onward now hmoves hnow honward => exact honward.writes hworking hfound

/-- What holds at the start and is kept by every step of a working shift holds throughout a run. -/
theorem run_keeps {holds : Shift → Prop}
    (hkeeps : ∀ {s next : Shift} {action : Action}, s.Step action next → s.Working → holds s →
      holds next)
    (hworking : s.Working) (hstart : holds s) (actions : List Action) :
    (s.run actions).Working ∧ holds (s.run actions) := by
  induction actions generalizing s with
  | nil => exact ⟨hworking, hstart⟩
  | cons action rest ih =>
      have hstep := step_cases hworking.fitting action
      exact ih (hstep.working hworking) (hkeeps hstep hworking hstart)

end Shift

end Gatehouse
