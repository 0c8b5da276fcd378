import Gatehouse.Proofs.Orchestrator.Records

/-! # A worker that keeps moving gets every job done

What has to happen before a job is over is measured by three numbers that are
compared one after the other: the attempts that are left, the place of the job
in the channel, and the moves that the worker needs until it is idle. Nothing
raises the measure while the job waits or is in hand, and every move of the
worker lowers it, whichever job it works on. So a worker that comes to move again
and again gets to the end of every job.
-/

namespace Gatehouse

/-- How often a job can still be handed out and come back. -/
def Job.stepsLeft (job : Job) : Nat :=
  2 * (job.maxAttempts - job.attempts) + if job.status = .processing then 1 else 0

namespace Shift

/-- How it goes on forever. -/
def course (s : Shift) (later : Nat → Action) : Nat → Shift
  | 0 => s
  | n + 1 => (s.course later n).step (later n)

theorem Working.course {s : Shift} (hworking : s.Working) (later : Nat → Action) (n : Nat) :
    (s.course later n).Working := by
  induction n with
  | zero => exact hworking
  | succ n ih => exact (step_cases ih.fitting (later n)).working ih

/-- The worker stays and comes to move again and again, and nobody cancels the job. -/
structure Drives (s : Shift) (later : Nat → Action) (id : JobId) : Prop where
  present : ∀ n, (s.course later n).station ≠ .absent
  moves : ∀ n, ∃ m, n ≤ m ∧ (s.course later m).moves (later m)
  wanted : ∀ n now, later n ≠ .cancel id now

/-- The job waits to be claimed, or an attempt at it is running and the worker has it in hand. -/
def Attends (s : Shift) (id : JobId) (record : Job) : Prop :=
  s.queue.get? id = some record ∧ (record.status = .queued ∨
    record.status = .processing ∧ ∃ job, s.station.job? = some job ∧ job.id = id)

/-- The worker is through with the job. -/
def Over (s : Shift) (id : JobId) : Prop :=
  ∃ record, s.queue.get? id = some record ∧
    (record.status = .succeeded ∨ record.status = .failed)

/-- How many names come before that of a waiting job. -/
def ahead (s : Shift) (id : JobId) (record : Job) : Nat :=
  if record.status = .queued then s.queue.channel.idxOf id else 0

/-- What has to happen before the job is over. -/
def due (s : Shift) (id : JobId) (record : Job) : ℕ ×ₗ ℕ ×ₗ ℕ :=
  toLex (record.stepsLeft, toLex (s.ahead id record, s.station.rank))

variable {s next : Shift} {action : Action} {id : JobId} {record : Job}

/-- With nothing in hand the job can only be waiting. -/
theorem Attends.queued (hattends : s.Attends id record)
    (hother : ∀ job, s.station.job? = some job → job.id ≠ id) : record.status = .queued := by
  rcases hattends.2 with hqueued | ⟨_, job, hjob, hid⟩
  · exact hqueued
  · exact absurd hid (hother job hjob)

theorem Attends.mem_channel (hattends : s.Attends id record) (horderly : s.queue.Orderly)
    (hqueued : record.status = .queued) : id ∈ s.queue.channel := by
  have hadmits := horderly.tidy.counts hattends.1
  rw [hqueued] at hadmits
  exact List.count_pos_iff.mp (by rw [hadmits]; exact Nat.one_pos)

theorem ahead_congr (hplace : record.status = .queued →
      next.queue.channel.idxOf id = s.queue.channel.idxOf id) :
    next.ahead id record = s.ahead id record := by
  unfold ahead
  split
  next hqueued => exact hplace hqueued
  next => rfl

theorem due_lt_of_rank (hahead : next.ahead id record = s.ahead id record)
    (hrank : next.station.rank < s.station.rank) : next.due id record < s.due id record := by
  simp [due, Prod.Lex.toLex_lt_toLex, hahead, hrank]

theorem due_lt_of_ahead (hahead : next.ahead id record < s.ahead id record) :
    next.due id record < s.due id record := by
  simp [due, Prod.Lex.toLex_lt_toLex, hahead]

theorem due_lt_of_stepsLeft {after : Job} (hsteps : after.stepsLeft < record.stepsLeft) :
    next.due id after < s.due id record := by
  simp [due, Prod.Lex.toLex_lt_toLex, hsteps]

/-- What happens without a move of the worker leaves the job and what is due as they are. -/
theorem Attends.aside (hattends : s.Attends id record) (horderly : s.queue.Orderly)
    (haside : s.Aside action next) (hpresent : next.station ≠ .absent)
    (hwanted : ∀ now, action ≠ .cancel id now) :
    next.Attends id record ∧ next.due id record = s.due id record := by
  cases haside with
  | still workshop hqueue =>
      have hsame : ({ s with workshop := workshop } : Shift).queue = s.queue := hqueue
      refine ⟨⟨by rw [hsame]; exact hattends.1, hattends.2⟩, ?_⟩
      rw [due, ahead, hsame]
      rfl
  | added stamp kind payload execution maxAttempts hunknown hnew =>
      have hne : id ≠ ⟨stamp.id⟩ := by
        rintro rfl
        rw [hattends.1] at hnew
        contradiction
      refine ⟨⟨?_, hattends.2⟩, ?_⟩
      -- The new name goes to the end of the channel, behind all that wait.
      · exact (s.queue.get?_add _ id).trans ((if_neg hne).trans hattends.1)
      · rw [due, ahead_congr fun hqueued =>
          List.idxOf_append_of_mem (hattends.mem_channel horderly hqueued)]
        rfl
  | cancelled other before now haction hrecord hstatus =>
      have hne : id ≠ before.id := by
        rw [horderly.tidy.id_eq hrecord]
        rintro rfl
        exact hwanted now haction
      refine ⟨⟨?_, hattends.2⟩, rfl⟩
      exact (s.queue.get?_update _ id).trans ((if_neg hne).trans hattends.1)
  | engaged hstation =>
      have hqueued := hattends.queued fun job hjob => by
        rw [hstation] at hjob
        contradiction
      refine ⟨⟨hattends.1, .inl hqueued⟩, ?_⟩
      rw [due, due, hstation]
      rfl
  | left => contradiction

/-- What a move of the worker gets a job to. -/
def Nears (s next : Shift) (id : JobId) (record : Job) : Prop :=
  next.Over id ∨ ∃ after, next.Attends id after ∧ next.due id after < s.due id record

/-- While the job waits behind as many names as before, the worker gets closer to being idle. -/
theorem Attends.waiting (hattends : s.Attends id record) (hqueued : record.status = .queued)
    (hget : next.queue.get? id = s.queue.get? id)
    (hplace : next.queue.channel.idxOf id = s.queue.channel.idxOf id)
    (hrank : next.station.rank < s.station.rank) : s.Nears next id record :=
  .inr ⟨record, ⟨hget.trans hattends.1, .inl hqueued⟩,
    due_lt_of_rank (ahead_congr fun _ => hplace) hrank⟩

theorem Attends.passed (hattends : s.Attends id record) (horderly : s.queue.Orderly)
    (hstation : s.station = .idle)
    (hget : next.queue.get? id = s.queue.get? id)
    (htail : next.queue.channel = s.queue.channel.tail)
    (hfront : record.status = .queued → ∀ rest, s.queue.channel ≠ id :: rest) :
    s.Nears next id record := by
  have hqueued := hattends.queued fun job hjob => by
    rw [hstation] at hjob
    contradiction
  -- The job waits somewhere in the channel, and it is not its name that came out.
  have hmem := hattends.mem_channel horderly hqueued
  refine .inr ⟨record, ⟨hget.trans hattends.1, .inl hqueued⟩, due_lt_of_ahead ?_⟩
  simp only [ahead, hqueued, if_true, htail]
  cases hchannel : s.queue.channel with
  | nil =>
      rw [hchannel] at hmem
      contradiction
  | cons front rest =>
      have hne : front ≠ id := by
        rintro rfl
        exact hfront hqueued rest hchannel
      rw [List.tail_cons, List.idxOf_cons_ne _ hne]
      exact Nat.lt_succ_self _

theorem Attends.handed (hattends : s.Attends id record) (horderly : s.queue.Orderly)
    (hqueued : record.status = .queued) {now : Moment} {after : Job}
    (hafter : after = { record with
      status := .processing, attempts := record.attempts + 1, updatedAt := now })
    (hget : next.queue.get? id = some after) (hstation : next.station = .handed after) :
    s.Nears next id record := by
  have hown : next.station.job? = some after := by
    rw [hstation]
    rfl
  have hid : record.id = id := horderly.tidy.id_eq hattends.1
  have hallowed := ((horderly.sound hattends.1).queued hqueued).1
  subst hafter
  refine .inr ⟨_, ⟨hget, .inr ⟨rfl, _, hown, hid⟩⟩, due_lt_of_stepsLeft ?_⟩
  simp only [Job.stepsLeft, hqueued, if_true, reduceCtorEq, if_false]
  omega

/-- Either an attempt at this job is in hand, or the job waits while another is in hand. -/
theorem Attends.inHand (hattends : s.Attends id record) {job : Job}
    (hjob : s.station.job? = some job) :
    record.status = .processing ∧ job.id = id ∨
      record.status = .queued ∧ ∀ before, s.queue.get? job.id = some before →
        before.status = .processing → job.id ≠ id := by
  rcases hattends.2 with hqueued | ⟨hprocessing, other, hother, hid⟩
  · refine .inr ⟨hqueued, ?_⟩
    rintro before hbefore hstatus rfl
    obtain rfl := Option.some.inj (hattends.1.symm.trans hbefore)
    rw [hqueued] at hstatus
    contradiction
  · obtain rfl := Option.some.inj (hjob.symm.trans hother)
    exact .inl ⟨hprocessing, hid⟩

theorem Attends.refused (hattends : s.Attends id record) (horderly : s.queue.Orderly)
    {now : Moment} {job : Job} {fault : Fault} {after : Workshop × WorkProgress}
    (hstation : s.station = .handed job) (hrefused : s.workshop.Refused job now fault after) :
    s.Nears (s.goOn after) id record := by
  have hrank : ∀ event, (stationAfter (.waiting (.recording event))).rank < s.station.rank := by
    intro event
    simp [hstation, stationAfter, Station.rank, Work.rank]
  rcases hattends.inHand (by rw [hstation]; rfl) with ⟨hprocessing, rfl⟩ | ⟨hqueued, hother⟩
  · cases hrefused with
    | gone hgone => exact absurd hprocessing (hgone record hattends.1)
    | requeued before event hbefore hstatus hattempts =>
        obtain rfl := Option.some.inj (hattends.1.symm.trans hbefore)
        refine .inr ⟨_, ⟨horderly.tidy.get?_update_self hbefore rfl, .inl rfl⟩, ?_⟩
        apply due_lt_of_stepsLeft
        simp [Job.stepsLeft, hstatus]
    | failed before event hbefore =>
        exact .inl ⟨_, horderly.tidy.get?_update_self hbefore rfl, .inr rfl⟩
  -- Another job comes back to the end of the channel, so this one loses no place by it.
  · cases hrefused with
    | gone => exact hattends.waiting hqueued rfl rfl (by rw [hstation]; exact Nat.succ_pos _)
    | requeued before event hbefore hstatus =>
        refine hattends.waiting hqueued ?_ ?_ (hrank event)
        · exact horderly.tidy.get?_update_ne hbefore rfl (hother before hbefore hstatus)
        · exact List.idxOf_append_of_mem (hattends.mem_channel horderly hqueued)
    | failed before event hbefore hstatus =>
        refine hattends.waiting hqueued ?_ rfl (hrank event)
        exact horderly.tidy.get?_update_ne hbefore rfl (hother before hbefore hstatus)

theorem Attends.handled (hattends : s.Attends id record) (horderly : s.queue.Orderly)
    {now : Moment} {job : Job} {after : Workshop × WorkProgress}
    (hjob : s.station.job? = some job)
    (hhandled : s.workshop.Handled job now s.station.rank after)
    (hpresent : (s.goOn after).station ≠ .absent) : s.Nears (s.goOn after) id record := by
  have hrank := Station.two_le_rank hjob
  cases hhandled with
  | broke => contradiction
  | waits workshop work hqueue hterms habout hcloser =>
      have hsame : (s.goOn (workshop, .waiting work)).queue = s.queue := hqueue
      have hstill : (s.goOn (workshop, .waiting work)).station.job? = some job := habout.job?_eq
      refine .inr ⟨record, ⟨hsame ▸ hattends.1, ?_⟩, ?_⟩
      · refine hattends.2.imp_right fun ⟨hprocessing, other, hother, hid⟩ => ?_
        exact ⟨hprocessing, other, hstill.trans (hjob.symm.trans hother), hid⟩
      · exact due_lt_of_rank (ahead_congr fun _ => by rw [hsame]) hcloser
  | closed workshop event before result hterms hbefore hstatus hreports hqueue =>
      have hafter : (s.goOn (workshop, .waiting (.recording event))).queue = s.queue.update _ :=
        hqueue
      rcases hattends.inHand hjob with ⟨hprocessing, rfl⟩ | ⟨hqueued, hother⟩
      · refine .inl ?_
        rw [Over, hafter]
        exact ⟨_, horderly.tidy.get?_update_self hbefore rfl, .inl rfl⟩
      · refine hattends.waiting hqueued ?_ (by rw [hafter]; rfl) hrank
        rw [hafter]
        exact horderly.tidy.get?_update_ne hbefore rfl (hother before hbefore hstatus)
  | gone workshop hqueue hterms hgone =>
      have hsame : (s.goOn (workshop, .done)).queue = s.queue := hqueue
      rcases hattends.inHand hjob with ⟨hprocessing, rfl⟩ | ⟨hqueued, hother⟩
      · exact absurd hprocessing (hgone record hattends.1)
      · refine hattends.waiting hqueued (by rw [hsame]) (by rw [hsame]) ?_
        exact lt_of_lt_of_le Nat.two_pos hrank

/-- A move of the worker gets a job done or brings it closer to its end. -/
theorem Attends.onward (hattends : s.Attends id record) (horderly : s.queue.Orderly) {now : Moment}
    (honward : s.Onward now next) (hpresent : next.station ≠ .absent) :
    s.Nears next id record := by
  cases honward with
  | passed workshop hstation hqueue hterms hfront =>
      have hafter : ({ s with workshop := workshop } : Shift).queue = _ := hqueue
      refine hattends.passed horderly hstation (by rw [hafter]; rfl) (by rw [hafter]) ?_
      exact fun hqueued rest hchannel => hfront id rest record hchannel hattends.1 hqueued
  | handed other rest before after hstation hchannel hbefore hqueued hafter =>
      have hid : after.id = before.id := by rw [hafter]
      by_cases heq : other = id
      · subst heq
        obtain rfl := Option.some.inj (hattends.1.symm.trans hbefore)
        refine hattends.handed horderly hqueued hafter ?_ rfl
        exact horderly.tidy.get?_update_self hbefore hid
      · refine hattends.passed horderly hstation ?_ (by rw [hchannel]; rfl) ?_
        · exact horderly.tidy.get?_update_ne hbefore hid heq
        · intro _ others hfront
          rw [hchannel] at hfront
          exact heq (List.cons.inj hfront).1
  | refused job fault after hstation htrouble hrefused =>
      exact hattends.refused horderly hstation hrefused
  | handled job after hjob htrouble hhandled =>
      exact hattends.handled horderly hjob hhandled hpresent
  | recorded event hstation =>
      refine hattends.waiting (hattends.queued fun job hjob => ?_) rfl rfl ?_
      · rw [hstation] at hjob
        contradiction
      · rw [hstation]
        exact Nat.one_pos

/-- Everything that happens while the worker drives a job, and the moves of the worker above all. -/
theorem Drives.step {later : Nat → Action} (hdrives : s.Drives later id) {n : Nat}
    (hworking : (s.course later n).Working) (hattends : (s.course later n).Attends id record) :
    (s.course later (n + 1)).Over id ∨ ∃ after, (s.course later (n + 1)).Attends id after ∧
      (s.course later (n + 1)).due id after ≤ (s.course later n).due id record ∧
      ((s.course later n).moves (later n) →
        (s.course later (n + 1)).due id after < (s.course later n).due id record) := by
  have hpresent := hdrives.present (n + 1)
  cases step_cases hworking.fitting (later n) with
  | aside hmoves haside =>
      obtain ⟨hafter, hdue⟩ :=
        hattends.aside hworking.orderly haside hpresent (hdrives.wanted n)
      exact .inr ⟨record, hafter, hdue.le, by simp [hmoves]⟩
  | onward now hmoves hnow honward =>
      refine (hattends.onward hworking.orderly honward hpresent).imp_right ?_
      rintro ⟨after, hafter, hdue⟩
      exact ⟨after, hafter, hdue.le, fun _ => hdue⟩

/-- A job that waits or is in hand is over at last, if the worker stays and keeps moving and nobody
cancels the job. -/
theorem Drives.over {later : Nat → Action} (hdrives : s.Drives later id) (hworking : s.Working)
    (hattends : s.Attends id record) : ∃ n, (s.course later n).Over id := by
  by_contra hnever
  have hnext : ∀ {n record}, (s.course later n).Attends id record → _ :=
    fun {n record} hattends => (hdrives.step (hworking.course later n) hattends).resolve_left
      fun hover => hnever ⟨n + 1, hover⟩
  -- What is due does not grow until the worker moves, however long that takes.
  have hlater : ∀ {n m record}, n ≤ m → (s.course later n).Attends id record →
      ∃ after, (s.course later m).Attends id after ∧
        (s.course later m).due id after ≤ (s.course later n).due id record := by
    intro n m record hle hattends
    induction m, hle using Nat.le_induction with
    | base => exact ⟨record, hattends, le_rfl⟩
    | succ m hle ih =>
        obtain ⟨before, hbefore, hdue⟩ := ih
        obtain ⟨after, hafter, hstep, _⟩ := hnext hbefore
        exact ⟨after, hafter, hstep.trans hdue⟩
  -- The worker moves again and again, so what is due would fall forever.
  have hfalls : ∀ (due : ℕ ×ₗ ℕ ×ₗ ℕ) n record, (s.course later n).Attends id record →
      (s.course later n).due id record = due → False := by
    intro due
    induction due using WellFoundedLT.induction with
    | ind due ih =>
        intro n record hattends hdue
        obtain ⟨m, hle, hmoves⟩ := hdrives.moves n
        obtain ⟨before, hbefore, hbelow⟩ := hlater hle hattends
        obtain ⟨after, hafter, _, hlt⟩ := hnext hbefore
        exact ih _ (hdue ▸ (hlt hmoves).trans_le hbelow) (m + 1) after hafter rfl
  exact hfalls _ 0 record hattends rfl

end Shift

end Gatehouse
