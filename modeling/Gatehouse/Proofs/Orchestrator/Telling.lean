import Gatehouse.Proofs.Orchestrator.Settling

/-! # What the worker tells

While an attempt runs nobody but the worker changes the record of the job except
by cancelling the job, and then there is no end of the attempt to be told. An
attentive worker therefore always has the record itself in hand when it brings an
attempt to its end. `Tells` says what a step adds to the events of jobs, and
`told_run` what a run adds: one event for each attempt that was brought to its
end, if only the sink takes it.
-/

namespace Gatehouse

/-- The record that an attempt has left behind, when it was acknowledged or given back. -/
def Job.settled? (before after : Job) : Option Job :=
  if before.status = .processing ∧
      (after.status = .succeeded ∨ after.status = .failed ∨ after.status = .queued) then some after
  else none

namespace Shift

/-- The event that is about to be recorded. -/
def pending (s : Shift) : List AuditEvent :=
  match s.station with
  | .busy (.recording event) => [event]
  | _ => []

/-- What the sink takes by an action. -/
def accepted (s : Shift) : Action → List AuditEvent
  | .reply _ reply =>
    match s.station, reply with
    | .busy (.recording event), .recorded true => [event]
    | .busy (.writing _ call), .forwarded (.recorded true) =>
      match call.awaits with
      | .sink event => [event]
      | _ => []
    | _, _ => []
  | _ => []

/-- What the sink takes by a list of actions. -/
def trail (s : Shift) : List Action → List AuditEvent
  | [] => []
  | action :: rest => s.accepted action ++ (s.step action).trail rest

/-- The record that an attempt at the job left behind by a step. Nothing but acknowledging a job and
giving it back makes one. -/
def settled? (s next : Shift) (id : JobId) : Option Job :=
  (s.queue.get? id).bind fun before => (next.queue.get? id).bind before.settled?

/-- The records that the attempts at a job left behind by a list of actions. -/
def settlements (s : Shift) : List Action → JobId → List Job
  | [], _ => []
  | action :: rest, id =>
    (s.settled? (s.step action) id).toList ++ (s.step action).settlements rest id

/-- The sink does not take what the worker has to tell of a job. -/
def Action.declines : Action → Bool
  | .reply _ (.recorded false) => true
  | _ => false

variable {s next : Shift} {action : Action} {taken : List AuditEvent} {id : JobId}

/-- The copy of the job in hand is the record as long as the attempt runs, and a write offers the
event that is due. -/
structure Attentive (s : Shift) : Prop where
  current : ∀ {job before}, s.station.job? = some job → s.queue.get? job.id = some before →
    before.status = .processing → before = job
  due : ∀ {work}, s.station = .busy work → work.Due

/-- A step that leaves the worker attentive adds the event of a job to those that it tells if and
only if an attempt at the job is brought to its end by it. -/
structure Tells (s next : Shift) (taken : List AuditEvent) : Prop where
  told : ∀ id, ∃ told, (taken ++ next.pending).filter (·.isOf id) =
    s.pending.filter (·.isOf id) ++ told ∧
      List.Forall₂ (AuditEvent.Settles s.limit) told (s.settled? next id).toList
  attentive : next.Attentive

theorem pending_of_job? {job : Job} (hjob : s.station.job? = some job) : s.pending = [] := by
  unfold pending
  split
  next hstation =>
    rw [hstation] at hjob
    contradiction
  next => rfl

theorem filter_isOf (htaken : ∀ event ∈ taken, event.isOf id = false) :
    taken.filter (·.isOf id) = [] :=
  List.filter_eq_nil_iff.mpr fun event hevent => by simp [htaken event hevent]

theorem settled?_of_get? (hget : next.queue.get? id = s.queue.get? id) :
    s.settled? next id = none := by
  rw [settled?, hget]
  cases s.queue.get? id with
  | none => rfl
  | some before => cases hstatus : before.status <;> simp [Job.settled?, hstatus]

theorem settled?_of_jobs (hjobs : next.queue.jobs = s.queue.jobs) (id : JobId) :
    s.settled? next id = none :=
  settled?_of_get? (by rw [JobQueue.get?, hjobs, JobQueue.get?])

theorem settled?_of_update (horderly : s.queue.Orderly) {before after : Job}
    (hbefore : s.queue.get? id = some before) (hid : after.id = before.id)
    (hjobs : next.queue.jobs = (s.queue.update after).jobs) (other : JobId) :
    s.settled? next other = if other = after.id then before.settled? after else none := by
  have hget : next.queue.get? other = (s.queue.update after).get? other := by
    rw [JobQueue.get?, hjobs, JobQueue.get?]
  rw [JobQueue.get?_update] at hget
  split
  next hother =>
    have hown : other = id := hother.trans (hid.trans (horderly.tidy.id_eq hbefore))
    rw [settled?, hget, if_pos hother, hown, hbefore]
    rfl
  next hother =>
    rw [if_neg hother] at hget
    exact settled?_of_get? hget

theorem settled?_of_ended (horderly : s.queue.Orderly) {before after : Job}
    (hbefore : s.queue.get? id = some before) (hstatus : before.status = .processing)
    (hid : after.id = before.id)
    (hended : after.status = .succeeded ∨ after.status = .failed ∨ after.status = .queued)
    (hjobs : next.queue.jobs = (s.queue.update after).jobs) : s.settled? next id = some after := by
  rw [settled?_of_update horderly hbefore hid hjobs, hid, horderly.tidy.id_eq hbefore, if_pos rfl]
  exact if_pos ⟨hstatus, hended⟩

/-- A record that was left behind is the answer to an acknowledgement or to a refusal. -/
theorem answered_of_settled? (hflows : s.queue.Flows next.queue) (horderly : s.queue.Orderly)
    {after : Job} (hsettled : s.settled? next id = some after) :
    (∃ result now, s.queue.ack id result now = .ok (after, next.queue)) ∨
      ∃ error now, s.queue.nack id error now = .ok (after, next.queue) := by
  obtain ⟨before, hbefore, hleft⟩ := Option.bind_eq_some_iff.mp hsettled
  obtain ⟨left, hafter, hleft⟩ := Option.bind_eq_some_iff.mp hleft
  simp only [Job.settled?, Option.ite_none_right_eq_some, Option.some.injEq] at hleft
  obtain ⟨⟨hstatus, hended⟩, rfl⟩ := hleft
  have hkept : next.queue.get? id ≠ s.queue.get? id := by
    intro hsame
    obtain rfl := Option.some.inj (hafter.symm.trans (hsame.trans hbefore))
    simp [hstatus] at hended
  obtain ⟨flow, hmove, hdistinct, hflow⟩ := hflows
  rw [← hflow] at hafter hkept ⊢
  cases hmove with
  | still | passed => exact absurd rfl hkept
  | added stamp kind payload execution maxAttempts job =>
      -- There is a record under the name already, so it is not that of a new job.
      have hadded := s.queue.get?_add job id
      split at hadded
      next hname =>
        rw [hname] at hbefore
        have hknown : job.id ∈ s.queue.jobs.keys := by
          by_contra hnew
          rw [JobQueue.get?, Table.get?_eq_none_iff.mpr hnew] at hbefore
          contradiction
        exact absurd rfl ((List.nodup_append.mp hdistinct).2.2 _ hknown _ List.mem_cons_self)
      next => exact absurd hadded hkept
  | started now other rest job next hchannel hjob hqueued hnext =>
      rcases horderly.tidy.of_update hjob (by rw [hnext]) hafter with ⟨_, rfl⟩ | ⟨_, hsame⟩
      · simp [hnext] at hended
      · exact absurd (hafter.trans hsame.symm) hkept
  | cancelled now other job hjob =>
      rcases horderly.tidy.of_update hjob (by rfl) hafter with ⟨_, rfl⟩ | ⟨_, hsame⟩
      · simp at hended
      · exact absurd (hafter.trans hsame.symm) hkept
  | succeeded now other result job hjob =>
      rcases horderly.tidy.of_update hjob (by rfl) hafter with ⟨rfl, rfl⟩ | ⟨_, hsame⟩
      · obtain rfl := Option.some.inj (hbefore.symm.trans hjob)
        refine .inl ⟨result, now, ?_⟩
        rw [JobQueue.ack, JobQueue.processing_eq hbefore hstatus]
        rfl
      · exact absurd (hafter.trans hsame.symm) hkept
  | requeued now other error job next hjob _ hattempts hnext =>
      rcases horderly.tidy.of_update hjob (by rw [hnext]) hafter with ⟨rfl, rfl⟩ | ⟨_, hsame⟩
      · obtain rfl := Option.some.inj (hbefore.symm.trans hjob)
        refine .inr ⟨error, now, ?_⟩
        rw [JobQueue.nack, JobQueue.processing_eq hbefore hstatus, hnext]
        exact if_pos hattempts
      · exact absurd (hafter.trans hsame.symm) hkept
  | failed now other error job hjob _ hattempts =>
      rcases horderly.tidy.of_update hjob (by rfl) hafter with ⟨rfl, rfl⟩ | ⟨_, hsame⟩
      · obtain rfl := Option.some.inj (hbefore.symm.trans hjob)
        refine .inr ⟨error, now, ?_⟩
        rw [JobQueue.nack, JobQueue.processing_eq hbefore hstatus]
        exact if_neg hattempts
      · exact absurd (hafter.trans hsame.symm) hkept

/-- An attempt comes to its end exactly where the job is acknowledged or given back. -/
theorem settled?_eq_some_iff (hflows : s.queue.Flows next.queue) (horderly : s.queue.Orderly)
    {after : Job} : s.settled? next id = some after ↔
      (∃ result now, s.queue.ack id result now = .ok (after, next.queue)) ∨
        ∃ error now, s.queue.nack id error now = .ok (after, next.queue) := by
  refine ⟨answered_of_settled? hflows horderly, ?_⟩
  rintro (⟨result, now, hanswer⟩ | ⟨error, now, hanswer⟩)
  · rcases s.queue.ack_cases id result now with ⟨error, hack, _⟩ | ⟨before, hbefore, hstatus, hack⟩
    · rw [hack] at hanswer
      contradiction
    · obtain ⟨rfl, hqueue⟩ := Prod.mk.inj (Except.ok.inj (hack.symm.trans hanswer))
      exact settled?_of_ended horderly hbefore hstatus (by rfl) (.inl rfl) (by rw [← hqueue])
  · rcases s.queue.nack_cases id error now with ⟨failure, hnack, _⟩ |
      ⟨before, hbefore, hstatus, ⟨_, hnack⟩ | ⟨_, hnack⟩⟩
    · rw [hnack] at hanswer
      contradiction
    · obtain ⟨rfl, hqueue⟩ := Prod.mk.inj (Except.ok.inj (hnack.symm.trans hanswer))
      exact settled?_of_ended horderly hbefore hstatus (by rfl) (.inr (.inr rfl)) (by rw [← hqueue])
    · obtain ⟨rfl, hqueue⟩ := Prod.mk.inj (Except.ok.inj (hnack.symm.trans hanswer))
      exact settled?_of_ended horderly hbefore hstatus (by rfl) (.inr (.inl rfl)) (by rw [← hqueue])

/-- Nothing is told where no attempt comes to its end and no event to be recorded. -/
theorem Tells.nothing (hattentive : next.Attentive) (hpending : next.pending = s.pending)
    (htaken : ∀ id, ∀ event ∈ taken, event.isOf id = false)
    (hsettled : ∀ id, s.settled? next id = none) : s.Tells next taken := by
  refine ⟨fun id => ⟨[], ?_, ?_⟩, hattentive⟩
  · rw [List.filter_append, filter_isOf (htaken id), hpending, List.nil_append, List.append_nil]
  · rw [hsettled]
    exact .nil

theorem Aside.settled?_eq (haside : s.Aside action next) (horderly : s.queue.Orderly)
    (id : JobId) : s.settled? next id = none := by
  cases haside with
  | still workshop hqueue | left workshop hqueue =>
      refine settled?_of_jobs ?_ id
      exact congrArg JobQueue.jobs hqueue
  | engaged => exact settled?_of_get? rfl
  | added stamp kind payload execution maxAttempts hunknown hnew =>
      by_cases hid : id = ⟨stamp.id⟩
      · rw [settled?, hid, hnew]
        rfl
      · exact settled?_of_get? ((s.queue.get?_add _ id).trans (if_neg hid))
  | cancelled other record now haction hrecord hstatus =>
      rw [settled?_of_update horderly hrecord (by rfl) rfl]
      split
      · simp [Job.settled?]
      · rfl

theorem Aside.attentive (haside : s.Aside action next) (hworking : s.Working)
    (hattentive : s.Attentive) : next.Attentive := by
  cases haside with
  | still workshop hqueue =>
      refine ⟨fun hjob hbefore => ?_, hattentive.due⟩
      exact hattentive.current hjob (JobQueue.get?_of_eq hqueue hbefore)
  | engaged | left => exact ⟨nofun, nofun⟩
  | added stamp kind payload execution maxAttempts hunknown hnew =>
      refine ⟨fun {job before} hjob hbefore => ?_, hattentive.due⟩
      obtain ⟨known, hknown, _⟩ := hworking.known hjob
      have hadded := s.queue.get?_add (Job.new stamp kind payload execution maxAttempts) job.id
      rw [if_neg fun heq => ?_] at hadded
      · exact hattentive.current hjob (hadded.symm.trans hbefore)
      · rw [heq] at hknown
        exact absurd (hnew.symm.trans hknown) nofun
  | cancelled other record now haction hrecord =>
      refine ⟨fun hjob hbefore hstatus => ?_, hattentive.due⟩
      rcases hworking.orderly.tidy.of_update hrecord (by rfl) hbefore with ⟨_, rfl⟩ | ⟨_, hkept⟩
      · contradiction
      · exact hattentive.current hjob hkept hstatus

theorem Aside.tells (haside : s.Aside action next) (hworking : s.Working)
    (hattentive : s.Attentive) (hcalm : action.harms = false) : s.Tells next [] := by
  have hpending : next.pending = s.pending := by
    cases haside with
    | still | added | cancelled => rfl
    | engaged hstation => rw [pending, pending, hstation]
    | left workshop hqueue hterms hharms =>
        rw [hcalm] at hharms
        contradiction
  exact .nothing (haside.attentive hworking hattentive) hpending (by simp)
    (haside.settled?_eq hworking.orderly)

/-- The worker goes on with the job in hand. -/
theorem tells_goOn (horderly : s.queue.Orderly) (hattentive : s.Attentive) {job : Job}
    (hjob : s.station.job? = some job) (htaken : ∀ id, ∀ event ∈ taken, event.isOf id = false)
    {after : Workshop × WorkProgress} (hcomes : s.workshop.ComesTo s.limit job after) :
    s.Tells (s.goOn after) taken := by
  have hpending := pending_of_job? hjob
  cases hcomes with
  | waits workshop work hqueue hwork hdue =>
      have hnone : (s.goOn (workshop, .waiting work)).pending = [] := pending_of_job? hwork
      refine .nothing ⟨fun {other before} hother hbefore => ?_, ?_⟩ (hnone.trans hpending.symm)
        htaken (settled?_of_jobs (congrArg JobQueue.jobs hqueue))
      · obtain rfl := Option.some.inj (hwork.symm.trans hother)
        exact hattentive.current hjob (JobQueue.get?_of_eq hqueue hbefore)
      · rintro _ ⟨⟩
        exact hdue
  | gone workshop progress hqueue hprogress =>
      refine .nothing ?_ ?_ htaken (settled?_of_jobs (congrArg JobQueue.jobs hqueue))
      · rcases hprogress with rfl | rfl <;> exact ⟨nofun, nofun⟩
      · rw [hpending]
        rcases hprogress with rfl | rfl <;> rfl
  | settled workshop event before after hbefore hstatus hid hjobs hsettles =>
      -- The attempt runs, so the event is made of the record.
      have hevent := hsettles (hattentive.current hjob hbefore hstatus)
      refine ⟨fun id => ⟨[event].filter (·.isOf id), ?_, ?_⟩, ⟨nofun, ?_⟩⟩
      · rw [List.filter_append, filter_isOf (htaken id), hpending]
        rfl
      · have hjobs : (s.goOn (workshop, .waiting (.recording event))).queue.jobs = _ := hjobs
        have hsettled := settled?_of_update horderly hbefore hid hjobs id
        rw [hsettled, List.filter_singleton, hevent.isOf_eq]
        by_cases hown : id = after.id
        · simpa [hown, Job.settled?, hstatus, hevent.ended] using hevent
        · simp [hown]
      · rintro _ ⟨⟩
        trivial

theorem Onward.tells_claim {now : Moment} (honward : s.Onward now next) (hworking : s.Working)
    (hstation : s.station = .idle) : s.Tells next [] := by
  have hpending : s.pending = [] := by rw [pending, hstation]
  cases honward with
  | passed workshop hidle hqueue =>
      have hjobs : workshop.queue.jobs = s.queue.jobs := by rw [hqueue]
      refine .nothing ⟨fun hjob => ?_, fun hbusy => ?_⟩ rfl (by simp) (settled?_of_jobs hjobs)
      · exact absurd ((congrArg Station.job? hidle).symm.trans hjob) nofun
      · exact absurd (hidle.symm.trans hbusy) nofun
  | handed other rest before after hidle hchannel hbefore hqueued hafter =>
      have hid : after.id = before.id := by rw [hafter]
      refine .nothing ⟨fun {job found} hjob hfound _ => ?_, nofun⟩ hpending.symm (by simp)
        fun id => ?_
      · obtain rfl := Option.some.inj hjob
        have hown := (JobQueue.get?_update { s.queue with channel := rest } after after.id).trans
          (if_pos rfl)
        exact Option.some.inj (hfound.symm.trans hown)
      · rw [settled?_of_update hworking.orderly hbefore hid (by rfl)]
        simp [Job.settled?, hqueued]
  | refused job fault after hother => exact absurd (hstation.symm.trans hother) nofun
  | handled job after hjob => exact absurd ((congrArg Station.job? hstation).symm.trans hjob) nofun
  | recorded event hother => exact absurd (hstation.symm.trans hother) nofun

/-- The sink takes something only where the worker waits for it. -/
theorem accepted_of_still (hmoves : s.moves action = false) : s.accepted action = [] := by
  unfold accepted
  split
  next stamp reply =>
    split
    next event hstation => simp [moves, hstation, Work.expects] at hmoves
    next job call hstation =>
      split
      next event hsink => simp [moves, hstation, Work.expects, hsink, Awaited.expects] at hmoves
      next => rfl
    next => rfl
  next => rfl

/-- What the sink takes of a write does not tell how an attempt at a job ended. -/
theorem isOf_forwarded {job : Job} {call : Call} (hstation : s.station = .busy (.writing job call))
    (hoffers : call.Offers) (stamp : Stamp) (reply : Reply) (id : JobId) :
    ∀ event ∈ s.accepted (.reply stamp (.forwarded reply)), event.isOf id = false := by
  intro event hevent
  simp only [accepted, hstation] at hevent
  split at hevent
  next hother _ =>
    cases hother
  next other hstation hreply =>
    cases hstation
    split at hevent
    next offered hsink =>
      rw [List.mem_singleton.mp hevent]
      exact hoffers.isOf_eq hsink id
    next => contradiction
  next => contradiction

/-- The worker is idle again when the sink has taken the event. -/
theorem tells_recorded {event : AuditEvent} (hstation : s.station = .busy (.recording event)) :
    s.Tells { s with station := .idle } [event] := by
  have hpending : s.pending = [event] := by rw [pending, hstation]
  refine ⟨fun id => ⟨[], ?_, ?_⟩, ⟨nofun, nofun⟩⟩
  · rw [hpending, List.append_nil]
    rfl
  · rw [settled?_of_jobs (by rfl)]
    exact .nil

theorem tells_reply (hworking : s.Working) (hattentive : s.Attentive) {work : Work}
    (hstation : s.station = .busy work) (stamp : Stamp) {reply : WorkReply}
    (hexpects : work.expects reply) (htakes : (Action.reply stamp reply).declines = false) :
    s.Tells (s.step (.reply stamp reply)) (s.accepted (.reply stamp reply)) := by
  have hstep : s.step (.reply stamp reply) =
      s.goOn (s.workshop.answered s.limit stamp work reply) := by
    simp only [step, hstation, hexpects, if_true]
  rw [hstep]
  cases work with
  | executing job execution =>
      cases reply with
      | executed answer =>
          exact tells_goOn hworking.orderly hattentive (by rw [hstation]; rfl)
            (by simp [accepted, hstation])
            (s.workshop.comesTo_executed s.limit stamp job execution answer)
      | _ => contradiction
  | writing job call =>
      have hoffers : call.Offers := hattentive.due hstation
      cases reply with
      | forwarded reply =>
          exact tells_goOn hworking.orderly hattentive (by rw [hstation]; rfl)
            (isOf_forwarded hstation hoffers stamp reply)
            (s.workshop.comesTo_replied s.limit stamp job hoffers hexpects)
      | _ => contradiction
  | recording event =>
      cases reply with
      | recorded taken =>
          cases taken with
          | false => contradiction
          | true =>
              have haccepted : s.accepted (.reply stamp (.recorded true)) = [event] := by
                simp [accepted, hstation]
              rw [haccepted]
              exact tells_recorded hstation
      | _ => contradiction

theorem tells_step (hworking : s.Working) (hattentive : s.Attentive)
    (hcalm : action.harms = false) (htakes : action.declines = false) :
    s.Tells (s.step action) (s.accepted action) := by
  cases hmoves : s.moves action with
  | false =>
      rw [accepted_of_still hmoves]
      exact (aside_step hmoves).tells hworking hattentive hcalm
  | true =>
      cases action with
      | claim now =>
          simp only [moves] at hmoves
          split at hmoves
          next hstation => exact (onward_claim hstation now).tells_claim hworking hstation
          next => contradiction
      | begin env stamp =>
          simp only [moves] at hmoves
          split at hmoves
          next job hstation =>
            simp only [step, hstation]
            exact tells_goOn hworking.orderly hattentive (by rw [hstation]; rfl)
              (by simp [accepted]) (s.workshop.comesTo_start env s.limit stamp job)
          next => contradiction
      | reply stamp reply =>
          simp only [moves] at hmoves
          split at hmoves
          next work hstation => exact tells_reply hworking hattentive hstation stamp hmoves htakes
          next => contradiction
      | _ => contradiction

theorem limit_step (s : Shift) (action : Action) : (s.step action).limit = s.limit := by
  cases action <;> simp only [step] <;> (repeat' split) <;> rfl

/-- What a run adds to the events of a job are those of the attempts that it brings to an end, one
for each and in their order. -/
theorem told_run (hworking : s.Working) (hattentive : s.Attentive) {actions : List Action}
    (hsmooth : ∀ action ∈ actions, action.harms = false ∧ action.declines = false) (id : JobId) :
    ∃ told, (s.trail actions ++ (s.run actions).pending).filter (·.isOf id) =
      s.pending.filter (·.isOf id) ++ told ∧
        List.Forall₂ (AuditEvent.Settles s.limit) told (s.settlements actions id) := by
  induction actions generalizing s with
  | nil => exact ⟨[], by simp [trail, run], .nil⟩
  | cons action rest ih =>
      obtain ⟨hcalm, htakes⟩ := hsmooth action List.mem_cons_self
      have hstep := tells_step hworking hattentive hcalm htakes
      obtain ⟨first, hfirst, hsettles⟩ := hstep.told id
      obtain ⟨more, hmore, hothers⟩ := ih ((step_cases hworking.fitting action).working hworking)
        hstep.attentive fun other hother => hsmooth other (List.mem_cons_of_mem _ hother)
      rw [limit_step] at hothers
      refine ⟨first ++ more, ?_, List.rel_append hsettles hothers⟩
      calc (s.trail (action :: rest) ++ (s.run (action :: rest)).pending).filter (·.isOf id)
        _ = (s.accepted action).filter (·.isOf id) ++
              ((s.step action).trail rest ++ ((s.step action).run rest).pending).filter
                (·.isOf id) := by rw [trail, List.append_assoc, List.filter_append]; rfl
        _ = (s.accepted action ++ (s.step action).pending).filter (·.isOf id) ++ more := by
              rw [hmore, List.filter_append, List.append_assoc]
        _ = s.pending.filter (·.isOf id) ++ (first ++ more) := by rw [hfirst, List.append_assoc]

theorem attentive_run (hworking : s.Working) (hattentive : s.Attentive) {actions : List Action}
    (hsmooth : ∀ action ∈ actions, action.harms = false ∧ action.declines = false) :
    (s.run actions).Attentive := by
  induction actions generalizing s with
  | nil => exact hattentive
  | cons action rest ih =>
      obtain ⟨hcalm, htakes⟩ := hsmooth action List.mem_cons_self
      exact ih ((step_cases hworking.fitting action).working hworking)
        (tells_step hworking hattentive hcalm htakes).attentive
        fun other hother => hsmooth other (List.mem_cons_of_mem _ hother)

end Shift

end Gatehouse
