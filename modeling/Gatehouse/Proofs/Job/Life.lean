import Gatehouse.Proofs.Job.Dispatch

/-! # The life of a job

The record of a job changes by a handful of transitions only. Each of them keeps
what status, attempts, error and result have to do with one another, none leads
out of a status in which the job is over, and an attempt is counted exactly when
the job is handed out for it. So every job is tried as often as it was claimed
and never more often than it may be, and how it ended is the end of it.
-/

namespace Gatehouse

namespace Job

/-- What the record of a job says adds up. -/
structure Sound (job : Job) : Prop where
  allowed : 1 ≤ job.maxAttempts
  bounded : job.attempts ≤ job.maxAttempts
  /-- A queued job may be tried once more; it has an error if it was tried before. -/
  queued : job.status = .queued →
    job.attempts < job.maxAttempts ∧ (job.lastError.isSome ↔ 0 < job.attempts)
  processing : job.status = .processing → 1 ≤ job.attempts ∧ job.attempts ≤ job.maxAttempts
  succeeded : job.status = .succeeded →
    1 ≤ job.attempts ∧ job.result.isSome ∧ job.lastError = none
  failed : job.status = .failed → job.attempts = job.maxAttempts ∧ job.lastError.isSome
  result : job.result.isSome → job.status = .succeeded

/-- The transitions of a record. -/
inductive Passes (job : Job) : Job → Prop where
  | started (now : Moment) (hstatus : job.status = .queued) :
      Passes job { job with
        status := .processing, attempts := job.attempts + 1, updatedAt := now }
  | succeeded (now : Moment) (result : Json) (hstatus : job.status = .processing) :
      Passes job { job with
        status := .succeeded, result := some result, lastError := none, updatedAt := now }
  | requeued (now : Moment) (error : String) (hstatus : job.status = .processing)
      (hattempts : job.attempts < job.maxAttempts) :
      Passes job { job with status := .queued, lastError := some error, updatedAt := now }
  | failed (now : Moment) (error : String) (hstatus : job.status = .processing)
      (hattempts : ¬ job.attempts < job.maxAttempts) :
      Passes job { job with status := .failed, lastError := some error, updatedAt := now }
  | cancelled (now : Moment) (hstatus : job.status.isTerminal = false) :
      Passes job { job with status := .cancelled, updatedAt := now }

theorem sound_new (stamp : Stamp) (kind : JobKind) (payload : Json) (execution : Option String)
    (maxAttempts : Nat) : (new stamp kind payload execution maxAttempts).Sound := by
  constructor <;> simp [new]

/-- A job that has not succeeded has no result. -/
theorem Sound.result_eq_none {job : Job} (hsound : job.Sound) (hstatus : job.status ≠ .succeeded) :
    job.result = none := by
  cases hresult : job.result with
  | none => rfl
  | some result => exact absurd (hsound.result (by simp [hresult])) hstatus

theorem Passes.sound {job after : Job} (hpasses : job.Passes after) (hsound : job.Sound) :
    after.Sound := by
  have hallowed := hsound.allowed
  have hbounded := hsound.bounded
  cases hpasses with
  | started now hstatus =>
      have hattempts := (hsound.queued hstatus).1
      have hresult := hsound.result_eq_none (by simp [hstatus])
      constructor <;> simp [hresult] <;> omega
  | succeeded now result hstatus =>
      have hattempts := (hsound.processing hstatus).1
      constructor <;> simp <;> omega
  | requeued now error hstatus hattempts =>
      have htried := (hsound.processing hstatus).1
      have hresult := hsound.result_eq_none (by simp [hstatus])
      constructor <;> simp [hresult] <;> omega
  | failed now error hstatus hattempts =>
      have hresult := hsound.result_eq_none (by simp [hstatus])
      constructor <;> simp [hresult] <;> omega
  | cancelled now hstatus =>
      have hresult := hsound.result_eq_none fun hsucceeded => by
        simp [hsucceeded, JobStatus.isTerminal] at hstatus
      constructor <;> simp [hresult] <;> omega

theorem Passes.not_terminal {job after : Job} (hpasses : job.Passes after) :
    job.status.isTerminal = false := by
  cases hpasses with
  | cancelled now hstatus => exact hstatus
  | started now hstatus | succeeded now result hstatus | requeued now error hstatus hattempts
  | failed now error hstatus hattempts => rw [hstatus]; rfl

theorem Passes.id_eq {job after : Job} (hpasses : job.Passes after) : after.id = job.id := by
  cases hpasses <;> rfl

theorem Passes.maxAttempts_eq {job after : Job} (hpasses : job.Passes after) :
    after.maxAttempts = job.maxAttempts := by
  cases hpasses <;> rfl

end Job

/-- Where going on cannot fail, an error comes from the beginning. -/
theorem error_of_bind {ε α β : Type} {first : Except ε α} {next : α → Except ε β} {error : ε}
    (hok : ∀ a, ∃ b, next a = .ok b) (herror : (first >>= next) = .error error) :
    first = .error error := by
  cases first with
  | error other => simpa [bind, Except.bind] using herror
  | ok a =>
      obtain ⟨b, hb⟩ := hok a
      simp [bind, Except.bind, hb] at herror

/-- The statuses in which something can be done to a job. -/
def JobAction.Fits : JobAction → JobStatus → Prop
  | .ack, status | .nack, status => status = .processing
  | .cancel, status => status.isTerminal = false

namespace JobQueue

theorem grounds_of_processing {q : JobQueue} {id : JobId} {wish : JobAction} {error : QueueError}
    (hwish : wish = .ack ∨ wish = .nack) (herror : q.processing id wish = .error error) :
    q.get? id = none ∧ error = .jobNotFound id ∨
      ∃ job wish, q.get? id = some job ∧ ¬ wish.Fits job.status ∧
        error = .invalidTransition id job.status wish := by
  simp only [processing] at herror
  split at herror
  next hnone => exact .inl ⟨hnone, (Except.error.inj herror).symm⟩
  next job hjob =>
    split at herror
    next => contradiction
    next hstatus =>
      refine .inr ⟨job, wish, hjob, ?_, (Except.error.inj herror).symm⟩
      rcases hwish with rfl | rfl <;> exact hstatus

theorem processing_of_ack {q : JobQueue} {id : JobId} {result : Json} {now : Moment}
    {error : QueueError} (herror : q.ack id result now = .error error) :
    q.processing id .ack = .error error :=
  error_of_bind (fun _ => ⟨_, rfl⟩) herror

theorem processing_of_nack {q : JobQueue} {id : JobId} {message : String} {now : Moment}
    {error : QueueError} (herror : q.nack id message now = .error error) :
    q.processing id .nack = .error error := by
  refine error_of_bind (fun job => ?_) herror
  by_cases hattempts : job.attempts < job.maxAttempts
  · exact ⟨_, if_pos hattempts⟩
  · exact ⟨_, if_neg hattempts⟩

/-- When the record of a job was replaced, a record found afterwards is the new one or was there
before. -/
theorem Tidy.of_update {q : JobQueue} (htidy : q.Tidy) {id other : JobId} {job after found : Job}
    (hjob : q.get? id = some job) (hid : after.id = job.id)
    (hfound : (q.update after).get? other = some found) :
    other = id ∧ found = after ∨ other ≠ id ∧ q.get? other = some found := by
  rw [get?_update, hid, htidy.id_eq hjob] at hfound
  split at hfound
  next heq => exact .inl ⟨heq, (Option.some.inj hfound).symm⟩
  next hne => exact .inr ⟨hne, hfound⟩

end JobQueue

namespace JobFlow

/-- What a move leaves of a record: it is there still, and it passed through one transition at most;
an attempt was counted if and only if the job was handed out. -/
theorem record_move {f next : JobFlow} (hmove : Move f next) (hinTurn : f.InTurn)
    (hdistinct : next.created.Nodup) {id : JobId} {found : Job}
    (hfound : next.queue.get? id = some found) :
    (id ∉ f.created ∧ next.claimed = f.claimed ∧ found.attempts = 0 ∧ found.Sound) ∨
    ∃ before, f.queue.get? id = some before ∧ (found = before ∨ before.Passes found) ∧
      found.attempts + f.claimed.count id = before.attempts + next.claimed.count id := by
  -- What replaces the record of a job without handing it out is a transition that counts nothing.
  have hrecord : ∀ {other job after}, f.queue.get? other = some job → job.Passes after →
      after.attempts = job.attempts → (f.queue.update after).get? id = some found →
      ∃ before, f.queue.get? id = some before ∧ (found = before ∨ before.Passes found) ∧
        found.attempts + f.claimed.count id = before.attempts + f.claimed.count id := by
    intro other job after hjob hpasses hattempts hupdated
    rcases hinTurn.tidy.of_update hjob hpasses.id_eq hupdated with ⟨rfl, rfl⟩ | ⟨hne, hkept⟩
    · exact ⟨job, hjob, .inr hpasses, by rw [hattempts]⟩
    · exact ⟨found, hkept, .inl rfl, rfl⟩
  cases hmove with
  | still => exact .inr ⟨found, hfound, .inl rfl, rfl⟩
  | added stamp kind payload execution maxAttempts job hunknown hjob =>
      rw [JobQueue.get?_add] at hfound
      split at hfound
      next heq =>
        obtain rfl := Option.some.inj hfound
        refine .inl ⟨?_, rfl, by rw [hjob]; rfl, by rw [hjob]; exact Job.sound_new ..⟩
        intro hmem
        rw [heq] at hmem
        exact (List.nodup_append.mp hdistinct).2.2 _ hmem _ (List.mem_singleton_self _) rfl
      next => exact .inr ⟨found, hfound, .inl rfl, rfl⟩
  | started now other rest job after hchannel hjob hstatus hafter =>
      subst hafter
      refine .inr ?_
      have hpasses := Job.Passes.started now hstatus
      have hown := hinTurn.tidy.id_eq hjob
      rcases hinTurn.tidy.of_update hjob hpasses.id_eq hfound with ⟨rfl, rfl⟩ | ⟨hne, hkept⟩
      · refine ⟨job, hjob, .inr hpasses, ?_⟩
        simp only [List.count_append, hown, List.count_singleton_self]
        omega
      · refine ⟨found, hkept, .inl rfl, ?_⟩
        simp [hown, hne.symm]
  | passed other rest hchannel hjob => exact .inr ⟨found, hfound, .inl rfl, rfl⟩
  | succeeded now other result job hjob hstatus =>
      exact .inr (hrecord hjob (.succeeded now result hstatus) rfl hfound)
  | requeued now other error job after hjob hstatus hattempts hafter =>
      subst hafter
      exact .inr (hrecord hjob (.requeued now error hstatus hattempts) rfl hfound)
  | failed now other error job hjob hstatus hattempts =>
      exact .inr (hrecord hjob (.failed now error hstatus hattempts) rfl hfound)
  | cancelled now other job hjob hstatus =>
      exact .inr (hrecord hjob (.cancelled now hstatus) rfl hfound)

/-- No job is forgotten. -/
theorem get?_isSome_move {f next : JobFlow} (hmove : Move f next) {id : JobId} {job : Job}
    (hjob : f.queue.get? id = some job) : ∃ found, next.queue.get? id = some found := by
  have hrecord : ∀ after : Job, ∃ found, (f.queue.update after).get? id = some found := by
    intro after
    rw [JobQueue.get?_update]
    split
    · exact ⟨after, rfl⟩
    · exact ⟨job, hjob⟩
  cases hmove with
  | still | passed => exact ⟨job, hjob⟩
  | added stamp kind payload execution maxAttempts added hunknown hadded =>
      rw [JobQueue.get?_add]
      split
      · exact ⟨added, rfl⟩
      · exact ⟨job, hjob⟩
  | started | succeeded | requeued | failed | cancelled => exact hrecord _

theorem mem_claimed_move {f next : JobFlow} (hmove : Move f next) (hinTurn : f.InTurn) {id : JobId}
    (hmem : id ∈ next.claimed) : id ∈ f.claimed ∨ id ∈ f.created := by
  cases hmove with
  | started now other rest job after hchannel hjob hstatus hafter =>
      rcases List.mem_append.mp hmem with hmem | hmem
      · exact .inl hmem
      · have hown : job.id = other := hinTurn.tidy.id_eq hjob
        rw [List.mem_singleton.mp hmem, hafter, hown]
        exact .inr (hinTurn.named hjob)
  | _ => exact .inl hmem

/-- Jobs are sound and count their claims, and only jobs were claimed. -/
structure Counted (f : JobFlow) : Prop where
  inTurn : f.InTurn
  sound : ∀ {id job}, f.queue.get? id = some job → job.Sound
  counts : ∀ {id job}, f.queue.get? id = some job → job.attempts = f.claimed.count id
  named : ∀ {id}, id ∈ f.claimed → id ∈ f.created

theorem counted_start : start.Counted where
  inTurn := inTurn_start
  sound := by simp [start, JobQueue.get?, JobQueue.empty]
  counts := by simp [start, JobQueue.get?, JobQueue.empty]
  named := by simp [start]

theorem counted_move {f next : JobFlow} (hmove : Move f next) (hdistinct : next.created.Nodup)
    (hcounted : f.Counted) : next.Counted where
  inTurn := inTurn_move hmove hdistinct hcounted.inTurn
  sound := by
    intro id found hfound
    rcases record_move hmove hcounted.inTurn hdistinct hfound with
      ⟨_, _, _, hsound⟩ | ⟨before, hbefore, rfl | hpasses, _⟩
    · exact hsound
    · exact hcounted.sound hbefore
    · exact hpasses.sound (hcounted.sound hbefore)
  counts := by
    intro id found hfound
    rcases record_move hmove hcounted.inTurn hdistinct hfound with
      ⟨hnew, hclaimed, hattempts, _⟩ | ⟨before, hbefore, _, hcount⟩
    · have hnone : f.claimed.count id = 0 :=
        List.count_eq_zero.mpr fun hmem => hnew (hcounted.named hmem)
      rw [hattempts, hclaimed, hnone]
    · have hattempts := hcounted.counts hbefore
      omega
  named := by
    intro id hmem
    apply (created_grows hmove).subset
    exact (mem_claimed_move hmove hcounted.inTurn hmem).elim hcounted.named fun hcreated => hcreated

theorem counted_run (actions : List Action) (hdistinct : (start.run actions).created.Nodup) :
    (start.run actions).Counted := by
  have hkeeps : ∀ {f next : JobFlow}, Move f next →
      (f.created.Nodup → f.Counted) → next.created.Nodup → next.Counted := by
    intro f next hmove hcounted hnodup
    exact counted_move hmove hnodup (hcounted ((created_grows hmove).sublist.nodup hnodup))
  exact run_keeps hkeeps (fun _ => counted_start) actions hdistinct

theorem created_prefix_run (f : JobFlow) (actions : List Action) :
    f.created <+: (f.run actions).created := by
  have hkeeps : ∀ {g next : JobFlow}, Move g next →
      f.created <+: g.created → f.created <+: next.created :=
    fun hmove hprefix => hprefix.trans (created_grows hmove)
  exact run_keeps hkeeps List.prefix_rfl actions

/-- A job that is over stays as it is, whatever is asked of the queue. -/
theorem get?_run_of_terminal {f : JobFlow} (hinTurn : f.InTurn) {id : JobId} {job : Job}
    (hjob : f.queue.get? id = some job) (hterminal : job.status.isTerminal = true)
    (actions : List Action) (hdistinct : (f.run actions).created.Nodup) :
    (f.run actions).queue.get? id = some job := by
  induction actions generalizing f with
  | nil => exact hjob
  | cons action rest ih =>
      have hmove := f.move_cases action
      have hnodup : (f.step action).created.Nodup :=
        ((f.step action).created_prefix_run rest).sublist.nodup hdistinct
      refine ih (inTurn_move hmove hnodup hinTurn) ?_ hdistinct
      obtain ⟨found, hfound⟩ := get?_isSome_move hmove hjob
      rcases record_move hmove hinTurn hnodup hfound with
        ⟨hnew, _⟩ | ⟨before, hbefore, hpassed, _⟩
      · exact absurd (hinTurn.named hjob) hnew
      · obtain rfl := Option.some.inj (hbefore.symm.trans hjob)
        rcases hpassed with rfl | hpasses
        · exact hfound
        · rw [hpasses.not_terminal] at hterminal
          contradiction

/-- How many attempts are asked for when a job is handed in. -/
def Action.asks? : Action → Option Nat
  | .enqueue _ _ _ _ maxAttempts => some maxAttempts
  | .claim .. | .ack .. | .nack .. | .cancel .. => none

theorem created_step {f : JobFlow} {action : Action} (hasks : action.asks? = none) :
    (f.step action).created = f.created := by
  cases action with
  | enqueue => contradiction
  | claim now => rfl
  | ack | nack | cancel =>
      simp only [step]
      split <;> rfl

/-- A job may be tried as often as was asked for when it was handed in, and once at least. -/
theorem maxAttempts_run (actions : List Action) (hdistinct : (start.run actions).created.Nodup)
    {id : JobId} {job : Job} (hjob : (start.run actions).queue.get? id = some job) :
    ∃ asked ∈ actions.filterMap Action.asks?, job.maxAttempts = max asked 1 := by
  induction actions using List.reverseRecOn generalizing job with
  | nil => simp [run, start, JobQueue.get?, JobQueue.empty] at hjob
  | append_singleton actions action ih =>
      have hrun : start.run (actions ++ [action]) = (start.run actions).step action := by
        simp [run]
      rw [hrun] at hjob hdistinct
      have hmove := (start.run actions).move_cases action
      have hbefore : (start.run actions).created.Nodup :=
        (created_grows hmove).sublist.nodup hdistinct
      have hinTurn := inTurn_run actions hbefore
      have hearlier : ∀ {before : Job}, (start.run actions).queue.get? id = some before →
          ∃ asked ∈ (actions ++ [action]).filterMap Action.asks?,
            before.maxAttempts = max asked 1 := by
        intro before hfound
        obtain ⟨asked, hmem, hmax⟩ := ih hbefore hfound
        exact ⟨asked, by simp [List.filterMap_append, hmem], hmax⟩
      cases hasks : action.asks? with
      | some asked =>
          cases action with
          | enqueue stamp kind payload execution maxAttempts =>
              simp only [step, JobQueue.enqueue] at hjob
              cases hknown : (start.run actions).queue.known? execution with
              | some known => exact hearlier (by simpa [hknown] using hjob)
              | none =>
                  simp only [hknown, JobQueue.get?_add] at hjob
                  split at hjob
                  next => exact ⟨maxAttempts, by simp [Action.asks?], by
                    rw [← Option.some.inj hjob]; rfl⟩
                  next => exact hearlier hjob
          | claim | ack | nack | cancel => contradiction
      | none =>
          -- Nothing but handing in a job adds one.
          rcases record_move hmove hinTurn hdistinct hjob with
            ⟨hnew, _⟩ | ⟨before, hfound, rfl | hpasses, _⟩
          · have hcreated := (inTurn_move hmove hdistinct hinTurn).named hjob
            rw [created_step hasks] at hcreated
            exact absurd hcreated hnew
          · exact hearlier hfound
          · rw [hpasses.maxAttempts_eq]
            exact hearlier hfound

/-- The answer to a call by which something is to be done to a job. -/
def response? (f : JobFlow) : Action → Option (Except QueueError (Job × JobQueue))
  | .enqueue .. | .claim _ => none
  | .ack id result now => some (f.queue.ack id result now)
  | .nack id message now => some (f.queue.nack id message now)
  | .cancel id now => some (f.queue.cancel id now)

/-- A call that is answered with an error leaves everything as it was. -/
theorem step_of_error {f : JobFlow} {action : Action} {error : QueueError}
    (hresponse : f.response? action = some (.error error)) : f.step action = f := by
  cases action with
  | enqueue | claim => contradiction
  | ack | nack | cancel =>
      have herror := Option.some.inj hresponse
      simp only [step, herror]

/-- An error is answered because there is no such job or because of where it stands. -/
theorem grounds_of_error {f : JobFlow} {action : Action} {error : QueueError}
    (hresponse : f.response? action = some (.error error)) :
    ∃ id, f.queue.get? id = none ∧ error = .jobNotFound id ∨
      ∃ job wish, f.queue.get? id = some job ∧ ¬ wish.Fits job.status ∧
        error = .invalidTransition id job.status wish := by
  cases action with
  | enqueue | claim => contradiction
  | ack id result now =>
      have herror := JobQueue.processing_of_ack (Option.some.inj hresponse)
      exact ⟨id, JobQueue.grounds_of_processing (.inl rfl) herror⟩
  | nack id message now =>
      have herror := JobQueue.processing_of_nack (Option.some.inj hresponse)
      exact ⟨id, JobQueue.grounds_of_processing (.inr rfl) herror⟩
  | cancel id now =>
      have herror := Option.some.inj hresponse
      simp only [JobQueue.cancel] at herror
      refine ⟨id, ?_⟩
      split at herror
      next hnone => exact .inl ⟨hnone, (Except.error.inj herror).symm⟩
      next job hjob =>
        split at herror
        next hterminal =>
          refine .inr ⟨job, .cancel, hjob, ?_, (Except.error.inj herror).symm⟩
          simp [JobAction.Fits, hterminal]
        next => contradiction

/-- What it takes for retries to be bounded and for an end to be final. -/
structure Bounded (f : JobFlow) : Prop where
  /-- Status, attempts, error and result of every job fit together. -/
  sound : ∀ {id job}, f.queue.get? id = some job → job.Sound
  /-- The attempts at a job are the claims that were answered with it. -/
  counted : ∀ {id job}, f.queue.get? id = some job → job.attempts = f.claimed.count id
  /-- The numbers of attempts are words of thirty-two bits, also when a claim counts one more. -/
  fits : ∀ {id job}, f.queue.get? id = some job → job.maxAttempts < 2 ^ 32 ∧
    job.attempts < 2 ^ 32 ∧ (job.status = .queued → job.attempts + 1 < 2 ^ 32)
  /-- A job that has succeeded, failed or been cancelled never changes again. -/
  final : ∀ {id job} (later : List Action), f.queue.get? id = some job →
    job.status = .succeeded ∨ job.status = .failed ∨ job.status = .cancelled →
    (f.run later).created.Nodup → (f.run later).queue.get? id = some job
  /-- A call that is answered with an error leaves everything as it was; it was made for no job, or
  the job does not stand where that can be done to it. -/
  refused : ∀ {action error}, f.response? action = some (.error error) → f.step action = f ∧
    ∃ id, f.queue.get? id = none ∧ error = .jobNotFound id ∨
      ∃ job wish, f.queue.get? id = some job ∧ ¬ wish.Fits job.status ∧
        error = .invalidTransition id job.status wish

/-- In every run that gives new jobs distinct names, and in which numbers of attempts are words of
thirty-two bits, retries are bounded and ends are final. -/
theorem run_bounded (actions : List Action) (hdistinct : (start.run actions).created.Nodup)
    (hwords : ∀ asked ∈ actions.filterMap Action.asks?, asked < 2 ^ 32) :
    (start.run actions).Bounded := by
  have hcounted := counted_run actions hdistinct
  have hmax : ∀ {id job}, (start.run actions).queue.get? id = some job →
      job.maxAttempts < 2 ^ 32 := by
    intro id job hjob
    obtain ⟨asked, hmem, hmax⟩ := maxAttempts_run actions hdistinct hjob
    have hword := hwords asked hmem
    omega
  generalize start.run actions = f at hcounted hmax
  constructor
  case sound => exact hcounted.sound
  case counted => exact hcounted.counts
  case fits =>
    intro id job hjob
    have hsound := hcounted.sound hjob
    have hword := hmax hjob
    refine ⟨hword, lt_of_le_of_lt hsound.bounded hword, fun hqueued => ?_⟩
    exact lt_of_le_of_lt (hsound.queued hqueued).1 hword
  case final =>
    intro id job later hjob hover hnodup
    refine get?_run_of_terminal hcounted.inTurn hjob ?_ later hnodup
    rcases hover with hstatus | hstatus | hstatus <;> rw [hstatus] <;> rfl
  case refused => exact fun hresponse => ⟨step_of_error hresponse, grounds_of_error hresponse⟩

/-- Calls by which a job fails at its second and last attempt while another is cancelled in its
first. -/
def failedAndCancelled : List Action := [
  .enqueue ⟨.ofNanos 0, "first", "", ""⟩ .agentExecute .null none 2,
  .enqueue ⟨.ofNanos 1, "second", "", ""⟩ .agentExecute .null (some "run") 0,
  .claim (.ofNanos 2),
  .nack ⟨"first"⟩ "timeout" (.ofNanos 3),
  .claim (.ofNanos 4),
  .cancel ⟨"second"⟩ (.ofNanos 5),
  .ack ⟨"second"⟩ .null (.ofNanos 6),
  .claim (.ofNanos 7),
  .nack ⟨"first"⟩ "timeout" (.ofNanos 8)]

theorem failedAndCancelled_bounded : (start.run failedAndCancelled).created.Nodup ∧
    (∀ asked ∈ failedAndCancelled.filterMap Action.asks?, asked < 2 ^ 32) ∧
    (start.run failedAndCancelled).Bounded :=
  ⟨by decide, by decide, run_bounded failedAndCancelled (by decide) (by decide)⟩

end JobFlow

end Gatehouse
