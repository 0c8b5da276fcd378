import Gatehouse.Proofs.Orchestrator.Fate
import Gatehouse.Proofs.Orchestrator.Telling
import Gatehouse.Proofs.Text.Bytes

/-! # The trail of a job

The queue knows how a job stands now, and the audit trail how its attempts ended
one after the other. `run_trailed` says that the two agree in every run in which
nobody takes the worker away and the sink takes what it is offered: each record
that an attempt left behind is told by one event, and from the record as it is
now it can be told which events there are. Of a job that is over nothing more is
told, so an attempt that was overtaken by a cancellation leaves no event.
-/

namespace Gatehouse

/-- Why nobody can be handed a job there is only one reason to be given. -/
theorem JobKind.Rejects.unique {kind : JobKind} {payload : Json} {fault other : Fault}
    (hfault : kind.Rejects payload fault) (hother : kind.Rejects payload other) :
    fault = other := by
  cases hfault with
  | commandless | unknown =>
      cases hother
      rfl
  | undecodable _ e herror =>
      cases hother with
      | undecodable _ e' herror' =>
          have hsame := (herror ⟨.ofNanos 0, "", "", ""⟩).symm.trans (herror' _)
          rw [Except.error.inj hsame]

namespace AuditEvent

/-- The events of attempts that failed. -/
def failures (told : List AuditEvent) : List AuditEvent :=
  told.filter fun event => decide (event.type = "orchestrator.job.failed")

/-- The events of attempts that brought a result. -/
def successes (told : List AuditEvent) : List AuditEvent :=
  told.filter fun event => decide (event.type = "orchestrator.job.succeeded")

end AuditEvent

namespace Job

/-- The record that the last attempt has left behind, when there can be no other. -/
def verdict (record : Job) : List Job :=
  if record.status = .succeeded ∨ record.status = .failed then [record] else []

/-- The attempts after which the job was to be tried again are numbered, they failed for one reason,
and they are as many as the record counts. -/
structure Account (record : Job) (retries : List Job) : Prop where
  retried : ∀ left ∈ retries, left.status = .queued ∧ left.lastError = record.lastError
  numbered : retries.map attempts = List.range' 1 retries.length
  waiting : record.status = .queued → retries.length = record.attempts
  attempted : record.status = .processing ∨ record.status = .succeeded ∨ record.status = .failed →
    retries.length + 1 = record.attempts

variable {before after record : Job} {retries : List Job}

theorem account_new (stamp : Stamp) (kind : JobKind) (payload : Json) (execution : Option String)
    (maxAttempts : Nat) : (new stamp kind payload execution maxAttempts).Account [] := by
  constructor <;> simp [new]

theorem verdict_of_open (hopen : record.status.isTerminal = false) : record.verdict = [] := by
  refine if_neg ?_
  rintro (hstatus | hstatus) <;> simp [hstatus, JobStatus.isTerminal] at hopen

/-- Every attempt after the first leaves the error as it was. -/
theorem Passes.lastError_eq (hpasses : before.Passes after) (hbefore : before.Fated)
    (hafter : after.Fated) (hagain : before.status = .processing → 2 ≤ before.attempts) :
    after.lastError = before.lastError := by
  have hsame : before.status = .processing → before.kind = after.kind →
      before.payload = after.payload → after.Troubled → after.lastError = before.lastError := by
    rintro hstatus hkind hpayload ⟨other, hother, hafterwards⟩
    obtain ⟨fault, hrejects, herror⟩ := hbefore.processing hstatus (hagain hstatus)
    rw [← hkind, ← hpayload] at hother
    rw [hafterwards, herror, hrejects.unique hother]
  cases hpasses with
  | started | cancelled => rfl
  | succeeded now result hstatus =>
      have hfirst : before.attempts = 1 := (hafter.succeeded rfl).2.1
      have hsecond := hagain hstatus
      omega
  | requeued now error hstatus hattempts =>
      have hsecond := hagain hstatus
      exact hsame hstatus rfl rfl (hafter.queued rfl (by simp only; omega))
  | failed now error hstatus => exact hsame hstatus rfl rfl (hafter.failed rfl).1

theorem Account.passed (haccount : before.Account retries) (hpasses : before.Passes after)
    (hbefore : before.Fated) (hafter : after.Fated) :
    ∀ left ∈ retries, left.status = .queued ∧ left.lastError = after.lastError := by
  intro left hleft
  obtain ⟨hstatus, herror⟩ := haccount.retried left hleft
  refine ⟨hstatus, herror.trans (hpasses.lastError_eq hbefore hafter fun hprocessing => ?_).symm⟩
  have hcounted := haccount.attempted (.inl hprocessing)
  have hpositive := List.length_pos_of_mem hleft
  omega

/-- A transition adds to the account the record that it leaves behind, if an attempt ends by it. -/
theorem Account.step (haccount : before.Account retries) (hpasses : before.Passes after)
    (hbefore : before.Fated) (hafter : after.Fated) : ∃ more, after.Account more ∧
      retries ++ before.verdict ++ (before.settled? after).toList = more ++ after.verdict := by
  have hretried := haccount.passed hpasses hbefore hafter
  have hnumbered := haccount.numbered
  rw [verdict_of_open hpasses.not_terminal, List.append_nil]
  cases hpasses with
  | started now hstatus =>
      refine ⟨retries, ⟨hretried, hnumbered, by simp, fun _ => ?_⟩, by simp [verdict, settled?]⟩
      rw [haccount.waiting hstatus]
  | cancelled =>
      exact ⟨retries, ⟨hretried, hnumbered, by simp, by simp⟩, by simp [verdict, settled?]⟩
  | succeeded now result hstatus | failed now error hstatus =>
      refine ⟨retries, ⟨hretried, hnumbered, by simp, fun _ => ?_⟩,
        by simp [verdict, settled?, hstatus]⟩
      exact haccount.attempted (.inl hstatus)
  | requeued now error hstatus =>
      have hcounted := haccount.attempted (.inl hstatus)
      let left : Job := { before with
        status := .queued, lastError := some error, updatedAt := now }
      refine ⟨retries ++ [left], ⟨?_, ?_, fun _ => ?_, by simp⟩,
        by simp [verdict, settled?, hstatus, left]⟩
      · intro other hother
        rcases List.mem_append.mp hother with hother | hother
        · exact hretried other hother
        · rw [List.mem_singleton.mp hother]
          exact ⟨rfl, rfl⟩
      · rw [List.map_append, hnumbered, List.length_append, List.length_singleton,
          List.range'_1_concat, List.map_singleton, Nat.add_comm 1, hcounted]
      · rw [List.length_append, List.length_singleton, hcounted]

/-- What an attempt left behind at a job that has not succeeded: it is numbered, it failed for the
reason that the job has, and the job was to be tried again unless it has failed by it. -/
theorem Account.left_eq (haccount : record.Account retries) (hstatus : record.status ≠ .succeeded)
    {i : Nat} {left : Job} (hleft : (retries ++ record.verdict)[i]? = some left) :
    left.attempts = i + 1 ∧ left.lastError = record.lastError ∧ left.status ≠ .succeeded ∧
      (left.status = .queued ↔
        ¬ (record.status = .failed ∧ i + 1 = (retries ++ record.verdict).length)) := by
  by_cases hretried : i < retries.length
  · rw [List.getElem?_append_left hretried] at hleft
    obtain ⟨hqueued, herror⟩ := haccount.retried left (List.mem_of_getElem? hleft)
    have hnumber : (retries.map attempts)[i]? = some left.attempts := by
      rw [List.getElem?_map, hleft, Option.map_some]
    rw [haccount.numbered, List.getElem?_range' hretried] at hnumber
    refine ⟨?_, herror, by simp [hqueued], iff_of_true hqueued ?_⟩
    · have hattempts := Option.some.inj hnumber
      omega
    · rintro ⟨hfailed, hlast⟩
      simp only [verdict, hfailed, or_true, if_true, List.length_append,
        List.length_singleton] at hlast
      omega
  · rw [List.getElem?_append_right (Nat.le_of_not_lt hretried)] at hleft
    have hfailed : record.status = .failed := by
      by_contra hother
      simp [verdict, hstatus, hother] at hleft
    have hcounted := haccount.attempted (.inr (.inr hfailed))
    simp only [verdict, hfailed, or_true, if_true, List.getElem?_singleton] at hleft
    split at hleft
    next hlast =>
      obtain rfl := Option.some.inj hleft
      have hplace : i = retries.length := by omega
      refine ⟨by omega, rfl, hstatus, ?_⟩
      simp [verdict, hfailed, hplace]
    next => contradiction

/-- What the events of a job have to do with its record. -/
structure Matches (record : Job) (limit : Nat) (told : List AuditEvent) : Prop where
  /-- The failed attempts are numbered, each is told with the error of the job, and the job is told
  to be tried again but by the last event of one that has failed. -/
  refused : ∀ (i : Nat) (event : AuditEvent), (AuditEvent.failures told)[i]? = some event →
    event.data.lookup "attempt" = some (.ofNat (i + 1)) ∧
    (∃ error, record.lastError = some error ∧
      event.data.lookup "error" = some (.str error)) ∧
    event.data.lookup "retrying" = some (.bool
      (¬ (record.status = .failed ∧ i + 1 = (AuditEvent.failures told).length)))
  /-- A job that has failed was tried as often as it may be, and never with success. -/
  failed : record.status = .failed →
    (AuditEvent.failures told).length = record.maxAttempts ∧ AuditEvent.successes told = []
  /-- The success of a job is told once, with the first keys of its result in the order of their
  bytes. -/
  succeeded : record.status = .succeeded → ∃ event result,
    AuditEvent.successes told = [event] ∧ record.result = some result ∧
    event.data.lookup "result_keys" = some (.arr ((result.keys.take limit).map .str)) ∧
    (result.keys.map Text.utf8).Pairwise (· < ·)
  /-- No other success is told. -/
  unacknowledged : record.status ≠ .succeeded → AuditEvent.successes told = []

/-- The fields of what is reported are in the order of the bytes of their keys. -/
theorem Reports.keys_sorted {result : Json} (hreports : record.Reports result)
    (haccepts : record.kind.Accepts record.payload) :
    (result.keys.map Text.utf8).Pairwise (· < ·) := by
  have hfields : ∀ fields, ((Json.ofFields fields).keys.map Text.utf8).Pairwise (· < ·) := by
    intro fields
    rw [Json.ofFields, Json.keys, List.pairwise_map, List.pairwise_map]
    exact (Json.sorted_sortFields fields).imp Text.utf8_lt
  obtain ⟨hexecuted, hwritten⟩ := hreports
  generalize record.kind = kind at haccepts hexecuted hwritten
  cases haccepts with
  | command =>
      obtain ⟨report, rfl, _⟩ := hexecuted rfl
      exact hfields _
  | write =>
      obtain ⟨outcome, rfl⟩ := hwritten rfl
      exact hfields _

variable {limit : Nat} {told : List AuditEvent}

/-- A job that is acknowledged at last was tried only once. -/
theorem Account.matches_of_succeeded (haccount : record.Account retries) (hfated : record.Fated)
    (hsettled : List.Forall₂ (AuditEvent.Settles limit) told (retries ++ record.verdict))
    (hstatus : record.status = .succeeded) : record.Matches limit told := by
  obtain ⟨haccepts, hattempts, result, hresult, hreports⟩ := hfated.succeeded hstatus
  have hcounted := haccount.attempted (.inr (.inl hstatus))
  have hretries : retries = [] := List.length_eq_zero_iff.mp (by omega)
  rw [hretries, verdict, if_pos (.inl hstatus), List.nil_append,
    List.forall₂_cons_right_iff] at hsettled
  obtain ⟨event, others, hevent, hothers, rfl⟩ := hsettled
  obtain rfl := List.forall₂_nil_right_iff.mp hothers
  cases hevent with
  | refused error hjob hother => simp [hstatus] at hother
  | acknowledged given hjob _ hgiven htype houtcome hkeys =>
      obtain rfl := Option.some.inj (hresult.symm.trans hgiven)
      have hfailures : AuditEvent.failures [event] = [] := by simp [AuditEvent.failures, htype]
      have hsuccesses : AuditEvent.successes [event] = [event] := by
        simp [AuditEvent.successes, htype]
      constructor
      case refused => simp [hfailures]
      case failed => simp [hstatus]
      case succeeded =>
        exact fun _ => ⟨event, result, hsuccesses, hresult, hkeys, hreports.keys_sorted haccepts⟩
      case unacknowledged => exact fun hother => absurd hstatus hother

theorem Account.matches_of_not_succeeded (haccount : record.Account retries)
    (hsound : record.Sound)
    (hsettled : List.Forall₂ (AuditEvent.Settles limit) told (retries ++ record.verdict))
    (hstatus : record.status ≠ .succeeded) : record.Matches limit told := by
  have htells : ∀ {i : Nat} {event : AuditEvent}, told[i]? = some event →
      ∃ left, (retries ++ record.verdict)[i]? = some left ∧ event.Settles limit left := by
    intro i event hevent
    obtain ⟨hplace, rfl⟩ := List.getElem?_eq_some_iff.mp hevent
    have hother : i < (retries ++ record.verdict).length := hsettled.length_eq ▸ hplace
    exact ⟨_, List.getElem?_eq_getElem hother, hsettled.get hplace hother⟩
  have htype : ∀ event ∈ told, event.type = "orchestrator.job.failed" := by
    intro event hmem
    obtain ⟨i, hevent⟩ := List.mem_iff_getElem?.mp hmem
    obtain ⟨left, hleft, hsettles⟩ := htells hevent
    cases hsettles with
    | acknowledged result hjob hsucceeded =>
        exact absurd hsucceeded (haccount.left_eq hstatus hleft).2.2.1
    | refused error hjob hother herror hfailed => exact hfailed
  have hfailures : AuditEvent.failures told = told :=
    List.filter_eq_self.mpr fun event hmem => by simp [htype event hmem]
  have hsuccesses : AuditEvent.successes told = [] :=
    List.filter_eq_nil_iff.mpr fun event hmem => by simp [htype event hmem]
  constructor
  case refused =>
    intro i event hevent
    rw [hfailures] at hevent ⊢
    obtain ⟨left, hleft, hsettles⟩ := htells hevent
    obtain ⟨hattempts, herror, hopen, hqueued⟩ := haccount.left_eq hstatus hleft
    cases hsettles with
    | acknowledged result hjob hsucceeded => exact absurd hsucceeded hopen
    | refused error hjob hother hgiven hfailed houtcome hattempt htext hretrying =>
        rw [hsettled.length_eq]
        simp only [hqueued] at hretrying
        exact ⟨hattempts ▸ hattempt, ⟨error, herror.symm.trans hgiven, htext⟩, hretrying⟩
  case failed =>
    intro hfailed
    have hcounted := haccount.attempted (.inr (.inr hfailed))
    have hmax := (hsound.failed hfailed).1
    refine ⟨?_, hsuccesses⟩
    rw [hfailures, hsettled.length_eq, verdict, if_pos (.inr hfailed), List.length_append,
      List.length_singleton]
    omega
  case succeeded => exact fun hsucceeded => absurd hsucceeded hstatus
  case unacknowledged => exact fun _ => hsuccesses

end Job

namespace Shift

variable {s next : Shift} {action : Action} {id : JobId} {past : List Job}

/-- The records that the attempts at a job left behind add up to the record as it is now. -/
def Accounts (s : Shift) (id : JobId) (past : List Job) : Prop :=
  match s.queue.get? id with
  | some record => ∃ retries, record.Account retries ∧ past = retries ++ record.verdict
  | none => past = []

theorem Step.accounts (hstep : s.Step action next) (hworking : s.Working)
    (hdestined : s.Destined) (haccounts : s.Accounts id past) :
    next.Accounts id (past ++ (s.settled? next id).toList) := by
  cases hbefore : s.queue.get? id with
  | some before =>
      simp only [Accounts, hbefore] at haccounts
      obtain ⟨retries, haccount, rfl⟩ := haccounts
      obtain ⟨after, hafter, rfl | hpasses⟩ := hstep.flows.kept hworking.orderly hbefore
      · rw [settled?_of_get? (hafter.trans hbefore.symm), Option.toList_none, List.append_nil]
        simp only [Accounts, hafter]
        exact ⟨retries, haccount, rfl⟩
      · have hfated := hstep.destined hworking hdestined id after hafter
        simp only [Accounts, settled?, hbefore, hafter, Option.bind_some]
        exact haccount.step hpasses (hdestined id before hbefore) hfated
  | none =>
      simp only [Accounts, hbefore] at haccounts
      simp only [Accounts, settled?, hbefore, haccounts, Option.bind_none, Option.toList_none,
        List.append_nil]
      cases hafter : next.queue.get? id with
      | none => trivial
      | some after =>
          rcases hstep.writes hworking hafter with hfound | hwrites
          · rw [hbefore] at hfound
            contradiction
          · cases hwrites with
            | added =>
                refine ⟨[], Job.account_new .., ?_⟩
                rw [Job.verdict_of_open (by rfl), List.append_nil]
            | cancelled now record hrecord | started now record hrecord
            | requeued now record fault hrecord | failed now record fault hrecord
            | succeeded now record result hrecord =>
                rw [hbefore] at hrecord
                contradiction

theorem Destined.accounts_run (hdestined : s.Destined) (hworking : s.Working)
    (haccounts : s.Accounts id past) (actions : List Action) :
    (s.run actions).Accounts id (past ++ s.settlements actions id) := by
  induction actions generalizing s past with
  | nil => simpa [settlements, run] using haccounts
  | cons action rest ih =>
      have hstep := step_cases hworking.fitting action
      rw [settlements, ← List.append_assoc]
      exact ih (hstep.destined hworking hdestined) (hstep.working hworking)
        (hstep.accounts hworking hdestined haccounts)

/-- No attempt at a job that is over is left to be brought to its end. -/
theorem Working.settlements_of_terminal (hworking : s.Working) {record : Job}
    (hrecord : s.queue.get? id = some record) (hover : record.status.isTerminal)
    (actions : List Action) : s.settlements actions id = [] := by
  induction actions generalizing s with
  | nil => rfl
  | cons action rest ih =>
      have hstep := step_cases hworking.fitting action
      obtain ⟨after, hafter, rfl | hpasses⟩ := hstep.flows.kept hworking.orderly hrecord
      · rw [settlements, settled?_of_get? (hafter.trans hrecord.symm),
          ih (hstep.working hworking) hafter]
        rfl
      · rw [hpasses.not_terminal] at hover
        contradiction

theorem trail_append (s : Shift) (earlier later : List Action) :
    s.trail (earlier ++ later) = s.trail earlier ++ (s.run earlier).trail later := by
  induction earlier generalizing s with
  | nil => rfl
  | cons action rest ih =>
      rw [List.cons_append, trail, trail, ih, List.append_assoc]
      rfl

theorem run_append (s : Shift) (earlier later : List Action) :
    s.run (earlier ++ later) = (s.run earlier).run later :=
  List.foldl_append ..

/-- The events that the sink has taken of how attempts at a job ended. -/
def recorded (s : Shift) (actions : List Action) (id : JobId) : List AuditEvent :=
  (s.trail actions).filter (·.isOf id)

/-- These events, and the one that the sink is being asked to take. -/
def told (s : Shift) (actions : List Action) (id : JobId) : List AuditEvent :=
  s.recorded actions id ++ (s.run actions).pending.filter (·.isOf id)

/-- What it takes for the trail of jobs to agree with the queue. -/
structure Trailed (s : Shift) (actions : List Action) : Prop where
  /-- All that is told is recorded, unless the worker waits for the sink just now. -/
  recorded : (∀ event, (s.run actions).station ≠ .busy (.recording event)) →
    ∀ id, s.recorded actions id = s.told actions id
  /-- An attempt has come to its end exactly where the worker has acknowledged the job or given it
  back. -/
  ended : ∀ {earlier action later id after}, actions = earlier ++ action :: later →
    ((s.run earlier).settled? ((s.run earlier).step action) id = some after ↔
      (∃ result now, (s.run earlier).queue.ack id result now =
        .ok (after, ((s.run earlier).step action).queue)) ∨
      ∃ error now, (s.run earlier).queue.nack id error now =
        .ok (after, ((s.run earlier).step action).queue))
  /-- Each attempt that has come to its end is told by one event, in order. -/
  settled : ∀ id, List.Forall₂ (AuditEvent.Settles s.limit) (s.told actions id)
    (s.settlements actions id)
  /-- What is told of a job is what its record says. -/
  matching : ∀ {id record}, (s.run actions).queue.get? id = some record →
    record.Matches s.limit (s.told actions id)
  /-- Once a job has succeeded, failed or been cancelled nothing more is told of it, even if an
  attempt at it is still running. -/
  final : ∀ {earlier later id record}, actions = earlier ++ later →
    (s.run earlier).queue.get? id = some record → record.status.isTerminal →
    s.told actions id = s.told earlier id

/-- In every run in which nobody stops the worker or breaks down while it waits and the sink takes
what the worker has to tell, the trail of jobs agrees with the queue. -/
theorem run_trailed (gateway : Gateway) (router : Router) (limit : Nat) (actions : List Action)
    (hsmooth : ∀ action ∈ actions, action.harms = false ∧ action.declines = false) :
    (start gateway router limit).Trailed actions := by
  have hworking := working_start gateway router limit
  have hdestined : (start gateway router limit).Destined := by
    intro id job hjob
    contradiction
  have hattentive : (start gateway router limit).Attentive := ⟨nofun, nofun⟩
  have hpending : (start gateway router limit).pending = [] := rfl
  have haccounts : ∀ id, (start gateway router limit).Accounts id [] := fun id => rfl
  generalize start gateway router limit = s at hworking hdestined hattentive hpending haccounts
  have hsettled : ∀ id, List.Forall₂ (AuditEvent.Settles s.limit) (s.told actions id)
      (s.settlements actions id) := by
    intro id
    obtain ⟨events, hevents, hsettles⟩ := told_run hworking hattentive hsmooth id
    rw [List.filter_append, hpending, List.filter_nil, List.nil_append] at hevents
    rwa [told, recorded, hevents]
  constructor
  case settled => exact hsettled
  case recorded =>
    intro hstation id
    have hnothing : (s.run actions).pending = [] := by
      unfold pending
      split
      next event hbusy => exact absurd hbusy (hstation event)
      next => rfl
    rw [told, hnothing, List.filter_nil, List.append_nil]
  case ended =>
    intro earlier action later id after _
    obtain ⟨hbefore, _⟩ := run_keeps Step.destined hworking hdestined earlier
    exact settled?_eq_some_iff (step_cases hbefore.fitting action).flows hbefore.orderly
  case matching =>
    intro id record hrecord
    have hall := hdestined.accounts_run hworking (haccounts id) actions
    obtain ⟨hafter, hfates⟩ := run_keeps Step.destined hworking hdestined actions
    simp only [Accounts, hrecord, List.nil_append] at hall
    obtain ⟨retries, haccount, hpast⟩ := hall
    have hevents := hpast ▸ hsettled id
    by_cases hstatus : record.status = .succeeded
    · exact haccount.matches_of_succeeded (hfates id record hrecord) hevents hstatus
    · exact haccount.matches_of_not_succeeded (hafter.orderly.sound hrecord) hevents hstatus
  case final =>
    rintro earlier later id record rfl hrecord hover
    obtain ⟨hbefore, _⟩ := run_keeps Step.destined hworking hdestined earlier
    have hcalm : (s.run earlier).Attentive := attentive_run hworking hattentive
      fun action hmem => hsmooth action (List.mem_append_left _ hmem)
    obtain ⟨more, hmore, hnothing⟩ := told_run hbefore hcalm
      (fun action hmem => hsmooth action (List.mem_append_right _ hmem)) id
    rw [hbefore.settlements_of_terminal hrecord hover, List.forall₂_nil_right_iff] at hnothing
    rw [hnothing, List.append_nil, List.filter_append] at hmore
    rw [told, told, recorded, recorded, trail_append, run_append, List.filter_append,
      List.append_assoc, hmore]

/-- A job without a command fails twice; meanwhile another is done, and a third one is cancelled
when the worker has it in hand already. -/
def thirdOvertaken : List Action := [
  .start,
  .submit ⟨.ofNanos 1, "first", "", ""⟩ .agentExecute .null none 2,
  .submit ⟨.ofNanos 2, "second", "", ""⟩ .agentExecute (.obj [("command", .str "create_page")])
    none 1,
  .submit ⟨.ofNanos 3, "third", "", ""⟩ (.other "reindex") .null none 1,
  .claim (.ofNanos 4),
  .begin (.ofList []) ⟨.ofNanos 5, "", "refused", ""⟩,
  .reply ⟨.ofNanos 6, "", "", ""⟩ (.recorded true),
  .claim (.ofNanos 7),
  .begin (.ofList []) ⟨.ofNanos 8, "", "done", ""⟩,
  .reply ⟨.ofNanos 9, "", "", ""⟩ (.recorded true),
  .claim (.ofNanos 10),
  .cancel ⟨"third"⟩ (.ofNanos 11),
  .begin (.ofList []) ⟨.ofNanos 12, "", "unheard", ""⟩,
  .claim (.ofNanos 13),
  .begin (.ofList []) ⟨.ofNanos 14, "", "failed", ""⟩]

theorem thirdOvertaken_trailed :
    (∀ action ∈ thirdOvertaken, action.harms = false ∧ action.declines = false) ∧
    (start (.new false 60) (.new ⟨120000, 1, 60000, 1⟩) 1).Trailed thirdOvertaken :=
  ⟨by decide, run_trailed _ _ 1 thirdOvertaken (by decide)⟩

/-- Both attempts at the first job are told, the one at the second, and none at the third. -/
example :
    let s := start (.new false 60) (.new ⟨120000, 1, 60000, 1⟩) 1
    (s.told thirdOvertaken ⟨"first"⟩).map (·.id) = ["refused", "failed"] ∧
    (s.told thirdOvertaken ⟨"second"⟩).map (·.id) = ["done"] ∧
    s.told thirdOvertaken ⟨"third"⟩ = [] := by
  decide +kernel

end Shift

end Gatehouse
