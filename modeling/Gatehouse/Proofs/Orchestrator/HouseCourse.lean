import Gatehouse.Proofs.Orchestrator.Fate
import Gatehouse.Proofs.Orchestrator.HouseResults
import Gatehouse.Proofs.Policy.Steering

/-! # How it goes on in the house

In the application the guardrails alone rule on writes and the book alone opens
approvals, so what happens to the gateway in a lawful house is a run of a gateway
under guardrails. What is known of a job from the time that it is handed in is
carried along: each call that the worker makes for it requested its write, is to
commit it, and was not seen before.
-/

namespace Gatehouse

/-- An index that belongs to the records still does after the queue went on. -/
theorem JobQueue.Flows.indexed {q next : JobQueue} (hflows : q.Flows next) (horderly : q.Orderly)
    (hindexed : q.Indexed) : next.Indexed := by
  obtain ⟨flow, hmove, hdistinct, rfl⟩ := hflows
  exact JobFlow.indexed_move hmove hdistinct horderly.inTurn hindexed

namespace Job

/-- A call belongs to the attempts at a job that were made since a place of the log: it requested
the write of the job, is to commit it, and nothing was seen of it before. -/
structure PursuedBy (job : Job) (since : Nat) (s : Governed) (call : CallId) : Prop where
  requested : job.RequestedBy s.traffic.history call
  meant : s.traffic.Meant call true
  fresh : ∀ {place event}, s.log[place]? = some (.seen event) → event.call? = some call →
    since ≤ place

theorem PursuedBy.alike {job other : Job} {since : Nat} {s : Governed} {call : CallId}
    (hpursued : job.PursuedBy since s call) (halike : job.Alike other) :
    other.PursuedBy since s call :=
  ⟨hpursued.requested.alike halike, hpursued.meant, hpursued.fresh⟩

theorem PursuedBy.run {regime : Regime} {job : Job} {since : Nat} {s : Governed} {call : CallId}
    (hpursued : job.PursuedBy since s call) (hlong : since ≤ s.log.length)
    (actions : List Governed.Action) (hrequested : job.RequestedBy
      (s.run regime actions).traffic.history call) :
    job.PursuedBy since (s.run regime actions) call where
  requested := hrequested
  meant := Governed.run_traffic Traffic.meant_motion hpursued.meant actions
  fresh := by
    intro place event hplace hcall
    obtain ⟨added, hadded⟩ := Governed.log_run regime s actions
    rw [← hadded] at hplace
    rcases place_cases hplace with ⟨_, hbefore⟩ | ⟨hlater, _⟩
    · exact hpursued.fresh hbefore hcall
    · exact hlong.trans hlater

end Job

namespace Application

/-- The house of the system before anything happened in it. -/
def house (app : Application) : House where
  governed := app.governed
  deployment := ⟨app.workshop.router, .empty, .empty, []⟩
  queue := app.workshop.queue
  settings := app.settings
  post := .absent
  waiting := .empty
  responses := []

theorem house_wire (c : Config) (now : Moment) :
    (wire c now).house = .start (wire c now).regime
      ((Span.ofSeconds? c.commitTokenTtlSecs).getD Gateway.fallbackTtl)
      (wire c now).workshop.router (wire c now).settings := by
  rfl

end Application

namespace House

/-- The action passes neither the guardrails nor the book by. -/
def Action.lawful (regime : Regime) : Action → Bool
  | .governance (.gateway action) => regime.leaves action
  | _ => true

/-- How it goes on in the house forever. -/
def course (regime : Regime) (h : House) (later : Nat → Action) : Nat → House
  | 0 => h
  | n + 1 => (h.course regime later n).step regime (later n)

/-- What happens in the house is all this to its worker. -/
def shadows (regime : Regime) (h : House) (later : Nat → Action) (n : Nat) : Shift.Action :=
  (h.course regime later n).shadow regime (later n)

variable {regime : Regime} {ttl : Span} {h : House} {later : Nat → Action}

theorem course_eq_run (regime : Regime) (h : House) (later : Nat → Action) (n : Nat) :
    h.course regime later n = h.run regime ((List.range n).map later) := by
  induction n with
  | zero => rfl
  | succ n ih => rw [course, ih, List.range_succ, List.map_append, run, run, List.foldl_append]; rfl

theorem course_keeps {holds : House → Prop}
    (hkeeps : ∀ {h : House} (action : Action), h.Kept → holds h → holds (h.step regime action))
    (hkept : h.Kept) (hholds : holds h) (later : Nat → Action) (n : Nat) :
    (h.course regime later n).Kept ∧ holds (h.course regime later n) := by
  rw [course_eq_run]
  exact run_keeps hkeeps hkept hholds _

theorem kept_course (hkept : h.Kept) (regime : Regime) (later : Nat → Action) (n : Nat) :
    (h.course regime later n).Kept := by
  induction n with
  | zero => exact hkept
  | succ n ih => exact kept_step ih regime (later n)

/-- However it goes on in the house, it is a shift for the worker. -/
theorem shift_course (hkept : h.Kept) (regime : Regime) (later : Nat → Action) (n : Nat) :
    (h.course regime later n).shift = h.shift.course (h.shadows regime later) n := by
  induction n with
  | zero => rfl
  | succ n ih =>
      have hcourse := kept_course hkept regime later n
      rw [course, (shift_step hcourse.manned regime (later n)).1, ih]
      rfl

/-- The worker sees a job cancelled only when somebody cancels it. -/
theorem of_shadow_cancel {action : Action} {id : JobId} {now : Moment}
    (hshadow : h.shadow regime action = .cancel id now) : action = .cancel id now := by
  cases action with
  | cancel other moment =>
      cases hshadow
      rfl
  | governance act =>
      simp only [shadow] at hshadow
      split at hshadow
      · split at hshadow <;> contradiction
      · split at hshadow <;> contradiction
      · contradiction
  | agents act =>
      cases act with
      | drop =>
          simp only [shadow] at hshadow
          split at hshadow <;> contradiction
      | _ => contradiction
  | submit | begin =>
      simp only [shadow] at hshadow
      split at hshadow <;> contradiction
  | _ => contradiction

/-- A worker that is at its post is there for the shift. -/
theorem Manned.present (hmanned : h.Manned) (hpost : h.post ≠ .absent) :
    h.shift.station ≠ .absent := by
  have hstation : h.shift.station = h.station := rfl
  rw [hstation]
  cases hat : h.post with
  | absent => exact absurd hat hpost
  | writing job name =>
      obtain ⟨_, _, hbusy⟩ := hmanned.station_writing hat
      simp [hbusy]
  | executing job name =>
      obtain ⟨_, _, hbusy⟩ := hmanned.station_executing hat
      simp [hbusy]
  | _ => simp [station, hat]

/-- Under the guardrails and the book a lawful step is one of the governed gateway, or none. -/
theorem governed_lawful {action : Action} (hlawful : action.lawful regime) :
    ∃ actions, (h.step regime action).governed = h.governed.run regime actions := by
  rcases governed_step regime h action with hsame | ⟨act, hact, hwhose⟩
  · exact ⟨[], hsame⟩
  · refine ⟨[act], hact.trans ?_⟩
    rcases hwhose with rfl | ⟨moved, rfl, hleaves⟩
    · cases act with
      | gateway moved => exact (if_pos hlawful).symm
      | _ => rfl
    · exact (if_pos hleaves).symm

theorem governed_run {actions : List Action} (hlawful : ∀ action ∈ actions, action.lawful regime) :
    ∃ acts, (h.run regime actions).governed = h.governed.run regime acts := by
  induction actions generalizing h with
  | nil => exact ⟨[], rfl⟩
  | cons action rest ih =>
      obtain ⟨first, hfirst⟩ := governed_lawful (h := h) (hlawful action List.mem_cons_self)
      obtain ⟨others, hothers⟩ :=
        ih (h := h.step regime action) fun other hother =>
          hlawful other (List.mem_cons_of_mem _ hother)
      refine ⟨first ++ others, ?_⟩
      rw [Governed.run_append, ← hfirst, ← hothers]
      rfl

theorem governed_course (hlawful : ∀ n, (later n).lawful regime) (n : Nat) :
    ∃ acts, (h.course regime later n).governed = h.governed.run regime acts := by
  rw [course_eq_run]
  refine governed_run fun action haction => ?_
  obtain ⟨place, _, rfl⟩ := List.mem_map.mp haction
  exact hlawful place

theorem history_course (regime : Regime) (h : House) (later : Nat → Action) {n m : Nat}
    (hle : n ≤ m) : (h.course regime later n).history <+: (h.course regime later m).history := by
  induction m, hle using Nat.le_induction with
  | base => exact List.prefix_rfl
  | succ m hle ih => exact ih.trans (history_step regime _ (later m))

/-- A job that has a result keeps it for good. -/
theorem result_course (hkept : h.Kept) {id : JobId} {job : Job} {result : Json} {n m : Nat}
    (hle : n ≤ m) (hjob : (h.course regime later n).queue.get? id = some job)
    (hresult : job.result = some result) :
    ∃ after, (h.course regime later m).queue.get? id = some after ∧ after.result = some result := by
  induction m, hle using Nat.le_induction with
  | base => exact ⟨job, hjob, hresult⟩
  | succ m hle ih =>
      obtain ⟨before, hbefore, hgiven⟩ := ih
      have hcourse := kept_course hkept regime later m
      exact (hcourse.step regime (later m)).flows.result_kept hcourse.working.orderly hbefore hgiven

/-- Nor does a job ever ask for anything else. -/
theorem alike_course (hkept : h.Kept) {id : JobId} {job : Job} (hjob : h.queue.get? id = some job)
    (regime : Regime) (later : Nat → Action) (n : Nat) :
    ∃ after, (h.course regime later n).queue.get? id = some after ∧ job.Alike after := by
  induction n with
  | zero => exact ⟨job, hjob, .refl job⟩
  | succ n ih =>
      obtain ⟨before, hbefore, halike⟩ := ih
      have hcourse := kept_course hkept regime later n
      obtain ⟨after, hafter, hkeeps⟩ :=
        (hcourse.step regime (later n)).flows.alike_kept hcourse.working.orderly hbefore
      exact ⟨after, hafter, halike.trans hkeeps⟩

/-- What is known of a job since a place of the log: the call that the worker waits for with it is
one that was made for it since, and so is the one that brought its result. -/
structure Pursued (made : CallId → Prop) (since : Nat) (id : JobId) (h : House) : Prop where
  writing : ∀ {job name}, h.post = .writing job name → job.id = id →
    made ⟨name⟩ ∧ job.PursuedBy since h.governed ⟨name⟩
  result : ∀ {job result}, h.queue.get? id = some job → job.kind = .writeExecute →
    job.result = some result → ∃ call outcome, made call ∧ job.PursuedBy since h.governed call ∧
      .answered call outcome ∈ h.history ∧ result = outcome.toJson

section Pursued

variable {made : CallId → Prop} {since : Nat} {id : JobId} {job : Job} {action : Action}

theorem pursuedBy_step {call : CallId} (hpursued : job.PursuedBy since h.governed call)
    (hlong : since ≤ h.governed.log.length) (hlawful : action.lawful regime) :
    job.PursuedBy since (h.step regime action).governed call := by
  obtain ⟨acts, hacts⟩ := governed_lawful (h := h) hlawful
  have hrequested := hpursued.requested.mono (history_step regime h action)
  rw [history, hacts] at hrequested
  rw [hacts]
  exact hpursued.run hlong acts hrequested

/-- A call that the worker has just made is new. -/
theorem TakenUp.pursuedBy {next : House} {call : CallId} (htaken : h.TakenUp next job call)
    (hrecorded : h.governed.Recorded regime ttl) (hlong : since ≤ h.governed.log.length) :
    job.PursuedBy since next.governed call where
  requested := htaken.requested
  meant := by
    obtain ⟨stamp, envelope, _, hnew, hnext⟩ := htaken
    rw [hnext]
    exact Traffic.meant_requested hnew stamp envelope true
  fresh := by
    intro place event hplace hcall
    obtain ⟨stamp, envelope, _, hnew, hnext⟩ := htaken
    rw [hnext] at hplace
    rcases place_cases hplace with ⟨_, hbefore⟩ | ⟨hlater, _⟩
    · have hseen := mem_seen_iff.mpr (List.mem_of_getElem? hbefore)
      rw [hrecorded.history] at hseen
      exact absurd hcall (Traffic.call?_ne_of_isNew hnew hseen)
    · exact hlong.trans hlater

theorem pursued_step (hkept : h.Kept) (htraced : h.Traced)
    (hrecorded : h.governed.Recorded regime ttl) (hlawful : action.lawful regime)
    (hlong : since ≤ h.governed.log.length)
    (hmade : ∀ {job call}, job.id = id → h.TakenUp (h.step regime action) job call → made call)
    (hpursued : h.Pursued made since id) : (h.step regime action).Pursued made since id := by
  have hcalls : ∀ {job call}, h.WaitsFor (h.step regime action) job call → job.id = id →
      made call ∧ job.PursuedBy since (h.step regime action).governed call := by
    intro job call hwaits hid
    rcases hwaits with hbefore | htaken
    · obtain ⟨hown, hbelongs⟩ := hpursued.writing hbefore hid
      exact ⟨hown, pursuedBy_step hbelongs hlong hlawful⟩
    · exact ⟨hmade hid htaken, htaken.pursuedBy hrecorded hlong⟩
  constructor
  case writing =>
    intro job name hpost hid
    exact hcalls (writing_step regime action hpost) hid
  case result =>
    intro after result hafter hkind hresult
    obtain ⟨job, halike, ⟨hid, call, outcome, hwaits, hanswered, rfl⟩ |
        ⟨hbefore, hwrite, hearlier⟩⟩ :=
      htraced.result_step hkept hafter hkind hresult
    · obtain ⟨hown, hbelongs⟩ := hcalls hwaits hid
      exact ⟨call, outcome, hown, hbelongs.alike halike, hanswered, rfl⟩
    · obtain ⟨call, outcome, hown, hbelongs, hanswered, houtcome⟩ :=
        hpursued.result hbefore hwrite hearlier
      exact ⟨call, outcome, hown, (pursuedBy_step hbelongs hlong hlawful).alike halike,
        (history_step regime h action).subset hanswered, houtcome⟩

/-- The worker has turned to the gateway with a job at this point, under the name of a call. -/
def CallsAt (regime : Regime) (h : House) (later : Nat → Action) (id : JobId) (n : Nat)
    (call : CallId) : Prop :=
  ∃ job, job.id = id ∧
    (h.course regime later n).TakenUp (h.course regime later (n + 1)) job call

theorem pursued_course (hkept : h.Kept) (htraced : h.Traced)
    (hrecorded : ∀ acts, (h.governed.run regime acts).Recorded regime ttl)
    (hlawful : ∀ n, (later n).lawful regime) (hlong : since ≤ h.governed.log.length)
    (hmade : ∀ {n call}, h.CallsAt regime later id n call → made call)
    (hpursued : h.Pursued made since id) (n : Nat) :
    (h.course regime later n).Pursued made since id := by
  induction n with
  | zero => exact hpursued
  | succ n ih =>
      obtain ⟨hcourse, hfollowed⟩ := course_keeps (fun action hkept htraced =>
        traced_step hkept htraced regime action) hkept htraced later n
      obtain ⟨acts, hacts⟩ := governed_course (h := h) hlawful n
      have hgrown := (Governed.log_run regime h.governed acts).length_le
      rw [← hacts] at hgrown
      exact pursued_step hcourse hfollowed (hacts ▸ hrecorded acts) (hlawful n)
        (hlong.trans hgrown) (fun hid htaken => hmade ⟨_, hid, htaken⟩) ih

end Pursued

end House

end Gatehouse
