import Gatehouse.Proofs.Orchestrator.Drive

/-! # What the worker outlives

Whatever those answer whom the worker waits for, errors included, it stays, and
no job but the one it has in hand is being processed. It does not outlive its own
stop nor the breakdown of somebody it waits for, and it breaks down itself where
the calendar does not show when a token or a cooldown ends; then the job in hand
is left behind as one that is being processed.
-/

namespace Gatehouse

instance (w : Workshop) (now : Moment) : Decidable (w.HasRoom now) :=
  inferInstanceAs (Decidable (_ ∧ _))

theorem Call.exists_expected (call : Call) : ∃ reply, call.awaits.expects reply := by
  cases call with
  | receiving | judged | accepting | closing => exact ⟨.recorded true, rfl⟩
  | evaluating => exact ⟨.decided (.ok (.deny "")), rfl⟩
  | opening => exact ⟨.opened (.ok ""), rfl⟩
  | applying => exact ⟨.applied (.ok .null), rfl⟩

namespace Shift

variable {s next : Shift} {action : Action} {id : JobId}

/-- Nobody stops the worker or breaks down while it waits, and the calendar has room. -/
def Action.Spares (w : Workshop) (action : Action) : Prop :=
  action.harms = false ∧ ∀ now ∈ action.movesAt?, w.HasRoom now

instance (w : Workshop) (action : Action) : Decidable (action.Spares w) :=
  inferInstanceAs (Decidable (_ ∧ _))

theorem harms_eq_false {now : Moment} (hnow : action.movesAt? = some now) :
    action.harms = false := by
  cases action with
  | claim | begin | reply => rfl
  | _ => contradiction

theorem Action.Spares.of_terms {w after : Workshop} (hspares : action.Spares w)
    (hterms : after.terms = w.terms) : action.Spares after := by
  refine ⟨hspares.1, fun now hnow => ?_⟩
  have hroom := hspares.2 now hnow
  rwa [Workshop.HasRoom, hterms]

theorem Aside.terms (haside : s.Aside action next) : next.workshop.terms = s.workshop.terms := by
  cases haside with
  | still workshop hqueue hterms | left workshop hqueue hterms => exact hterms
  | added | cancelled | engaged => rfl

theorem Onward.terms {now : Moment} (honward : s.Onward now next) :
    next.workshop.terms = s.workshop.terms := by
  cases honward with
  | passed workshop hstation hqueue hterms => exact hterms
  | handed | recorded => rfl
  | refused job fault after hstation htrouble hrefused => cases hrefused <;> rfl
  | handled job after hjob htrouble hhandled => cases hhandled <;> assumption

theorem Step.terms (hstep : s.Step action next) : next.workshop.terms = s.workshop.terms := by
  cases hstep with
  | aside hmoves haside => exact haside.terms
  | onward now hmoves hnow honward => exact honward.terms

/-- A job that is being processed is the one that the worker has in hand. -/
def Tended (s : Shift) : Prop :=
  ∀ id record, s.queue.get? id = some record → record.status = .processing →
    ∃ job, s.station.job? = some job ∧ job.id = id

theorem Tended.not_processing (htended : s.Tended) (hjob : s.station.job? = none) {record : Job}
    (hrecord : s.queue.get? id = some record) : record.status ≠ .processing := by
  intro hstatus
  obtain ⟨job, hother, _⟩ := htended id record hrecord hstatus
  rw [hjob] at hother
  contradiction

theorem Aside.tended (haside : s.Aside action next) (hcalm : action.harms = false)
    (hworking : s.Working) (htended : s.Tended) : next.Tended := by
  intro id record hrecord hstatus
  cases haside with
  | still workshop hqueue =>
      exact htended id record (JobQueue.get?_of_eq hqueue hrecord) hstatus
  | engaged hstation =>
      exact absurd hstatus (htended.not_processing (by rw [hstation]; rfl) hrecord)
  | left workshop hqueue hterms hharms =>
      rw [hcalm] at hharms
      contradiction
  | added stamp kind payload execution maxAttempts =>
      have hadded := s.queue.get?_add (Job.new stamp kind payload execution maxAttempts) id
      split at hadded
      next =>
        obtain rfl := Option.some.inj (hrecord.symm.trans hadded)
        contradiction
      next => exact htended id record (hadded.symm.trans hrecord) hstatus
  | cancelled other before now haction hbefore =>
      rcases hworking.orderly.tidy.of_update hbefore (by rfl) hrecord with
        ⟨_, rfl⟩ | ⟨_, hkept⟩
      · contradiction
      · exact htended id record hkept hstatus

/-- No job is being processed any more when the one in hand is written down as one that is not. -/
theorem Tended.written (htended : s.Tended) (hworking : s.Working) {job before after : Job}
    (hjob : s.station.job? = some job) (hbefore : s.queue.get? job.id = some before)
    (hid : after.id = before.id) (hafter : after.status ≠ .processing) {record : Job}
    (hrecord : (s.queue.update after).get? id = some record) : record.status ≠ .processing := by
  rcases hworking.orderly.tidy.of_update hbefore hid hrecord with ⟨_, rfl⟩ | ⟨hne, hkept⟩
  · exact hafter
  · intro hstatus
    obtain ⟨other, hother, rfl⟩ := htended id record hkept hstatus
    obtain rfl := Option.some.inj (hjob.symm.trans hother)
    exact hne rfl

/-- Nor is any when the one in hand is not. -/
theorem Tended.gone (htended : s.Tended) {job : Job} (hjob : s.station.job? = some job)
    (hgone : ∀ record, s.queue.get? job.id = some record → record.status ≠ .processing)
    {record : Job} (hrecord : s.queue.get? id = some record) : record.status ≠ .processing := by
  intro hstatus
  obtain ⟨other, hother, rfl⟩ := htended id record hrecord hstatus
  obtain rfl := Option.some.inj (hjob.symm.trans hother)
  exact hgone record hrecord hstatus

theorem Tended.refused (htended : s.Tended) (hworking : s.Working) {now : Moment} {job : Job}
    {fault : Fault} {after : Workshop × WorkProgress} (hjob : s.station.job? = some job)
    (hrefused : s.workshop.Refused job now fault after) : (s.goOn after).Tended := by
  intro id record hrecord hstatus
  cases hrefused with
  | gone hgone => exact absurd hstatus (htended.gone hjob hgone hrecord)
  | requeued before event hbefore | failed before event hbefore =>
      exact absurd hstatus (htended.written hworking hjob hbefore (by rfl) (by simp) hrecord)

theorem Tended.handled (htended : s.Tended) (hworking : s.Working) {now : Moment} {job : Job}
    {bound : Nat} {after : Workshop × WorkProgress} (hjob : s.station.job? = some job)
    (hroom : s.workshop.HasRoom now) (hhandled : s.workshop.Handled job now bound after) :
    (s.goOn after).Tended := by
  intro id record hrecord hstatus
  cases hhandled with
  | broke workshop hqueue hterms hover => exact absurd hroom hover
  | gone workshop hqueue hterms hgone =>
      have hkept := JobQueue.get?_of_eq hqueue hrecord
      exact absurd hstatus (htended.gone hjob hgone hkept)
  | closed workshop event before result hterms hbefore hbusy hreports hqueue =>
      have hkept := JobQueue.get?_of_eq hqueue hrecord
      exact absurd hstatus (htended.written hworking hjob hbefore (by rfl) (by simp) hkept)
  | waits workshop work hqueue hterms habout =>
      have hkept := JobQueue.get?_of_eq hqueue hrecord
      obtain ⟨other, hother, hid⟩ := htended id record hkept hstatus
      obtain rfl := Option.some.inj (hjob.symm.trans hother)
      exact ⟨job, habout.job?_eq, hid⟩

theorem Onward.tended {now : Moment} (honward : s.Onward now next)
    (hroom : s.workshop.HasRoom now) (hworking : s.Working) (htended : s.Tended) : next.Tended := by
  cases honward with
  | refused job fault after hstation htrouble hrefused =>
      exact htended.refused hworking (by rw [hstation]; rfl) hrefused
  | handled job after hjob htrouble hhandled => exact htended.handled hworking hjob hroom hhandled
  | passed workshop hstation hqueue =>
      intro id record hrecord hstatus
      have hkept : s.queue.get? id = some record := JobQueue.get?_of_eq hqueue hrecord
      exact absurd hstatus (htended.not_processing (by rw [hstation]; rfl) hkept)
  | recorded event hstation =>
      intro id record hrecord hstatus
      exact absurd hstatus (htended.not_processing (by rw [hstation]; rfl) hrecord)
  | handed other rest before after hstation hchannel hbefore hqueued hafter =>
      intro id record hrecord hstatus
      have hid : after.id = before.id := by rw [hafter]
      rcases hworking.orderly.tidy.of_update hbefore hid hrecord with
        ⟨rfl, rfl⟩ | ⟨_, hkept⟩
      · exact ⟨record, rfl, hid.trans (hworking.orderly.tidy.id_eq hbefore)⟩
      · exact absurd hstatus (htended.not_processing (by rw [hstation]; rfl) hkept)

theorem Step.tended (hstep : s.Step action next) (hspares : action.Spares s.workshop)
    (hworking : s.Working) (htended : s.Tended) : next.Tended := by
  cases hstep with
  | aside hmoves haside => exact haside.tended hspares.1 hworking htended
  | onward now hmoves hnow honward => exact honward.tended (hspares.2 now hnow) hworking htended

/-- The worker goes only when it is stopped, somebody breaks down, or the calendar has no room. -/
theorem Step.present (hstep : s.Step action next) (hspares : action.Spares s.workshop)
    (hpresent : s.station ≠ .absent) : next.station ≠ .absent := by
  cases hstep with
  | aside hmoves haside =>
      cases haside with
      | engaged => simp
      | left workshop hqueue hterms hharms =>
          rw [hspares.1] at hharms
          contradiction
      | _ => exact hpresent
  | onward now hmoves hnow honward =>
      cases honward with
      | passed => exact hpresent
      | handed | recorded => simp
      | refused job fault after hstation htrouble hrefused =>
          cases hrefused <;> simp [goOn, stationAfter]
      | handled job after hjob htrouble hhandled =>
          cases hhandled with
          | broke workshop hqueue hterms hover => exact absurd (hspares.2 now hnow) hover
          | _ => simp [goOn, stationAfter]

/-- What is spared the worker keeps it there, at its only job. -/
theorem run_spared {actions : List Action} (hspares : ∀ action ∈ actions, action.Spares s.workshop)
    (hworking : s.Working) (htended : s.Tended) :
    (s.run actions).Working ∧ (s.run actions).Tended ∧
      (Action.start ∈ actions ∨ s.station ≠ .absent → (s.run actions).station ≠ .absent) := by
  induction actions generalizing s with
  | nil => exact ⟨hworking, htended, by simp [run]⟩
  | cons action rest ih =>
      have hstep := step_cases hworking.fitting action
      have hfirst := hspares action List.mem_cons_self
      have hrest : ∀ other ∈ rest, other.Spares (s.step action).workshop :=
        fun other hmem => (hspares other (List.mem_cons_of_mem _ hmem)).of_terms hstep.terms
      obtain ⟨hafter, hremains, hpresent⟩ :=
        ih hrest (hstep.working hworking) (hstep.tended hfirst hworking htended)
      refine ⟨hafter, hremains, fun hstarted => hpresent ?_⟩
      -- A worker is started now or later, or it is there already and stays.
      rcases hstarted with hmem | hthere
      · rcases List.mem_cons.mp hmem with rfl | hlater
        · refine .inr ?_
          simp only [step]
          split
          next => simp
          next hstation => exact fun habsent => hstation habsent
        · exact .inl hlater
      · exact .inr (hstep.present hfirst hthere)

theorem Working.course_present (hworking : s.Working) (hpresent : s.station ≠ .absent)
    {later : Nat → Action} (hspares : ∀ n, (later n).Spares s.workshop) (n : Nat) :
    (s.course later n).workshop.terms = s.workshop.terms ∧
      (s.course later n).station ≠ .absent := by
  induction n with
  | zero => exact ⟨rfl, hpresent⟩
  | succ n ih =>
      obtain ⟨hterms, hthere⟩ := ih
      have hstep := step_cases (hworking.course later n).fitting (later n)
      exact ⟨hstep.terms.trans hterms, hstep.present ((hspares n).of_terms hterms) hthere⟩

/-- How it goes on when each action is chosen by how things stand. -/
def following (choice : Shift → Action) (s : Shift) : Nat → Shift
  | 0 => s
  | n + 1 => (s.following choice n).step (choice (s.following choice n))

theorem course_following (choice : Shift → Action) (s : Shift) (n : Nat) :
    s.course (fun n => choice (s.following choice n)) n = s.following choice n := by
  induction n with
  | zero => rfl
  | succ n ih => rw [course, ih, following]

/-- A worker that is there can always move, if only it is answered. -/
theorem exists_move (hpresent : s.station ≠ .absent) (now : Moment) : ∃ action,
    s.moves action ∧ action.movesAt? = some now := by
  let stamp : Stamp := ⟨now, "", "", ""⟩
  cases hstation : s.station with
  | absent => contradiction
  | idle => exact ⟨.claim now, by simp [moves, hstation], rfl⟩
  | handed job => exact ⟨.begin (.ofList []) stamp, by simp [moves, hstation], rfl⟩
  | busy work =>
      cases work with
      | executing job execution =>
          exact ⟨.reply stamp (.executed (.ok .null)), by simp [moves, hstation, Work.expects],
            rfl⟩
      | writing job call =>
          obtain ⟨reply, hreply⟩ := call.exists_expected
          exact ⟨.reply stamp (.forwarded reply), by simp [moves, hstation, Work.expects, hreply],
            rfl⟩
      | recording event =>
          exact ⟨.reply stamp (.recorded true), by simp [moves, hstation, Work.expects], rfl⟩

/-- At a moment from which the calendar has room, there is a way to go on forever in which the
worker drives all its jobs. -/
theorem Working.exists_drives (hworking : s.Working) (hpresent : s.station ≠ .absent) {now : Moment}
    (hroom : s.workshop.HasRoom now) : ∃ later, ∀ id, s.Drives later id := by
  have hchoice : ∀ t : Shift, ∃ action : Action, action.movesAt? = some now ∧
      (t.station ≠ .absent → t.moves action) := by
    intro t
    by_cases habsent : t.station = .absent
    · exact ⟨.claim now, rfl, fun hthere => absurd habsent hthere⟩
    · obtain ⟨action, hmoves, hnow⟩ := exists_move habsent now
      exact ⟨action, hnow, fun _ => hmoves⟩
  choose choice hnow hmoves using hchoice
  have hspares : ∀ n, (choice (s.following choice n)).Spares s.workshop := by
    intro n
    refine ⟨harms_eq_false (hnow _), fun other hother => ?_⟩
    rw [hnow] at hother
    rwa [← Option.some.inj hother]
  refine ⟨fun n => choice (s.following choice n), fun id => ?_⟩
  have hthere := fun n => (hworking.course_present hpresent hspares n).2
  constructor
  case present => exact hthere
  case moves =>
    intro n
    refine ⟨n, le_rfl, ?_⟩
    have hmoving := hmoves _ (hthere n)
    rwa [course_following] at hmoving ⊢
  case wanted =>
    intro n time hcancel
    have hmoving := hnow (s.following choice n)
    rw [hcancel] at hmoving
    contradiction

/-- What it takes for a worker to outlive the answers to its jobs. -/
structure Enduring (s : Shift) : Prop where
  /-- The worker is there. -/
  running : s.station ≠ .absent
  /-- A job that is being processed is the one in hand: no attempt is left behind unfinished. -/
  tended : ∀ {id record}, s.queue.get? id = some record → record.status = .processing →
    ∃ job, s.station.job? = some job ∧ job.id = id
  /-- A job that waits is claimed and done at last, as long as the worker comes to move, is spared
  the same, and nobody cancels the job. -/
  claimed : ∀ {id record} {later : Nat → Action}, s.queue.get? id = some record →
    record.status = .queued → (∀ n, (later n).Spares s.workshop) →
    (∀ n, ∃ m, n ≤ m ∧ (s.course later m).moves (later m)) →
    (∀ n now, later n ≠ .cancel id now) → ∃ n, (s.course later n).Over id

/-- Once it is started a worker outlives whatever is answered, unless somebody breaks down instead
of answering. -/
theorem run_enduring (gateway : Gateway) (router : Router) (limit : Nat) (actions : List Action)
    (hstarted : Action.start ∈ actions)
    (hspares : ∀ action ∈ actions, action.Spares (start gateway router limit).workshop) :
    ((start gateway router limit).run actions).Enduring := by
  have htended : (start gateway router limit).Tended := by
    intro id record hrecord
    contradiction
  obtain ⟨hworking, hremains, hpresent⟩ := run_spared hspares (working_start ..) htended
  have hthere := hpresent (.inl hstarted)
  generalize (start gateway router limit).run actions = s at hworking hremains hthere
  constructor
  case running => exact hthere
  case tended => exact hremains _ _
  case claimed =>
    intro id record later hrecord hqueued hspared hmoves hwanted
    refine Drives.over ⟨fun n => ?_, hmoves, hwanted⟩ hworking ⟨hrecord, .inl hqueued⟩
    exact (hworking.course_present hthere hspared n).2

/-- A router with one agent, which is alone for so long after a failure. -/
def pageRouter (cooldownMillis : Nat) : Router :=
  let writer : Registration := ⟨"A", ["create_page"], "http://a.local", none, ⟨0⟩⟩
  ((Router.new ⟨120000, 1, cooldownMillis, 1⟩).register writer (.ofNanos 0)).markProbe "A"
    (.ofNanos 0) (.ok ())

/-- A job for the agent and one of a kind that nobody knows; the worker has the first in hand. -/
def pageHandedOver : List Action := [
  .start,
  .submit ⟨.ofNanos 1, "first", "", ""⟩ .agentExecute (.obj [("command", .str "create_page")])
    none 2,
  .submit ⟨.ofNanos 2, "second", "", ""⟩ (.other "reindex") .null none 1,
  .claim (.ofNanos 3),
  .begin (.ofList []) ⟨.ofNanos 4, "execution", "", ""⟩]

def badGateway : WorkReply :=
  .executed (.error ⟨"IntegrationError", "upstream returned 502"⟩)

/-- The agent answers with an error, and the audit trail takes nothing. -/
def pageDeclined : List Action := pageHandedOver ++ [
  .reply ⟨.ofNanos 5, "", "event", ""⟩ badGateway,
  .reply ⟨.ofNanos 6, "", "", ""⟩ (.recorded false),
  .claim (.ofNanos 7),
  .begin (.ofList []) ⟨.ofNanos 8, "", "event", ""⟩,
  .reply ⟨.ofNanos 9, "", "", ""⟩ (.recorded false)]

theorem pageDeclined_enduring : Action.start ∈ pageDeclined ∧
    (∀ action ∈ pageDeclined,
      action.Spares (start (.new false 60) (pageRouter 60000) 8).workshop) ∧
    ((start (.new false 60) (pageRouter 60000) 8).run pageDeclined).Enduring := by
  have hstarted : Action.start ∈ pageDeclined := List.mem_cons_self
  have hspares : ∀ action ∈ pageDeclined,
      action.Spares (start (.new false 60) (pageRouter 60000) 8).workshop := by decide +kernel
  exact ⟨hstarted, hspares, run_enduring _ _ 8 pageDeclined hstarted hspares⟩

/-- There is no worker, the first job is marked as being processed, and the second one waits. -/
def LeftBehind (s : Shift) : Prop :=
  s.station = .absent ∧
    (s.queue.get? ⟨"first"⟩).map Job.status = some .processing ∧
    (s.queue.get? ⟨"second"⟩).map Job.status = some .queued

instance (s : Shift) : Decidable s.LeftBehind :=
  inferInstanceAs (Decidable (_ ∧ _))

/-- An agent that breaks down takes the worker with it, and so does one that answers with an error
when no calendar shows the end of its cooldown. -/
theorem pageHandedOver_left :
    ((start (.new false 60) (pageRouter 60000) 8).run
      (pageHandedOver ++ [.breakDown (.ofNanos 5)])).LeftBehind ∧
    ((start (.new false 60) (pageRouter 9000000000000000) 8).run
      (pageHandedOver ++ [.reply ⟨.ofNanos 5, "", "event", ""⟩ badGateway])).LeftBehind :=
  ⟨by decide +kernel, by decide +kernel⟩

end Shift

end Gatehouse
