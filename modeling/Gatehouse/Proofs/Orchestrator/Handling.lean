import Gatehouse.Orchestrator.Worker
import Gatehouse.Proofs.Agent.Deployment
import Gatehouse.Proofs.Gateway.Turn
import Gatehouse.Proofs.Job.Flow

/-! # How a job is handled

Whether a job can be handed over at all is decided by its kind and its payload:
`JobKind.trouble?` says what is wrong with one that cannot, and it is the same at
every attempt, since the stamp of an attempt only fills in what a payload leaves
out. A job that can be handed over is never refused. Whatever agents, handlers,
governance and the audit trail answer becomes its result, and each answer brings
the work closer to its end.
-/

namespace Gatehouse

/-- Two computations fail alike, or both bring something of which the same is left. -/
inductive Alike {ε α γ : Type} (left : α → γ) : Except ε α → Except ε α → Prop where
  | error (e : ε) : Alike left (.error e) (.error e)
  | ok (x y : α) (hleft : left x = left y) : Alike left (.ok x) (.ok y)

namespace Alike

variable {ε α β γ δ : Type} {left : α → γ} {kept : β → δ}

theorem refl (x : Except ε α) : Alike left x x := by
  cases x with
  | error e => exact .error e
  | ok a => exact .ok a a rfl

theorem bind {x y : Except ε α} (hxy : Alike left x y) {f g : α → Except ε β}
    (hfg : ∀ a b, left a = left b → Alike kept (f a) (g b)) : Alike kept (x >>= f) (y >>= g) := by
  cases hxy with
  | error e => exact .error e
  | ok a b hleft => exact hfg a b hleft

theorem error_iff {x y : Except ε α} (hxy : Alike left x y) (e : ε) :
    x = .error e ↔ y = .error e := by
  cases hxy <;> simp

theorem ok_iff {x y : Except ε α} (hxy : Alike left x y) :
    (∃ a, x = .ok a) ↔ ∃ b, y = .ok b := by
  cases hxy <;> simp

end Alike

namespace Record

variable {α β : Type}

/-- Two descriptions of a structure find the same fault with everything, or none. -/
structure SameFaults (r s : Record α) : Prop where
  count : r.count = s.count
  check : r.check = s.check
  ofFields : ∀ fields, Alike (fun _ => ()) (r.ofFields fields) (s.ofFields fields)
  ofItems : ∀ whole position items,
    Alike Prod.snd (r.ofItems whole position items) (s.ofItems whole position items)

theorem SameFaults.refl (r : Record α) : r.SameFaults r :=
  ⟨rfl, rfl, fun _ => .refl _, fun _ _ _ => .refl _⟩

theorem SameFaults.seq {r r' : Record (α → β)} {s s' : Record α} (hfirst : r.SameFaults r')
    (hsecond : s.SameFaults s') : (r.seq s).SameFaults (r'.seq s') where
  count := by simp only [Record.seq, hfirst.count, hsecond.count]
  check := by simp only [Record.seq, hfirst.check, hsecond.check]
  ofFields := by
    intro fields
    refine (hfirst.ofFields fields).bind fun f f' _ => ?_
    exact (hsecond.ofFields fields).bind fun x x' _ => .ok _ _ rfl
  ofItems := by
    intro whole position items
    simp only [Record.seq, hfirst.count]
    refine (hfirst.ofItems whole position items).bind ?_
    rintro ⟨f, rest⟩ ⟨f', rest'⟩ hrest
    cases hrest
    refine (hsecond.ofItems whole _ rest).bind ?_
    rintro ⟨x, others⟩ ⟨x', others'⟩ hothers
    exact .ok _ _ hothers

/-- What stands for a field that is not given makes no fault. -/
theorem sameFaults_defaulted (name : String) (decode : Decoder α) (x y : α) :
    (defaulted name decode x).SameFaults (defaulted name decode y) where
  count := rfl
  check := rfl
  ofFields := by
    intro fields
    simp only [defaulted, single]
    cases fields.lookup name with
    | some value => exact .refl _
    | none => exact .ok x y rfl
  ofItems := by
    intro whole position items
    cases items with
    | cons value rest => exact .refl _
    | nil => exact .ok (x, []) (y, []) rfl

theorem SameFaults.decode {r s : Record α} (hsame : r.SameFaults s) (name : String)
    (reading : Reading) (j : Json) :
    Alike (fun _ => ()) (r.decode name reading j) (s.decode name reading j) := by
  cases j with
  | obj fields =>
      simp only [Record.decode, hsame.check]
      exact (Alike.refl _).bind fun _ _ (_ : () = ()) => hsame.ofFields fields
  | arr items =>
      simp only [Record.decode, hsame.count]
      refine (hsame.ofItems _ 0 items).bind ?_
      rintro ⟨x, rest⟩ ⟨y, rest'⟩ hrest
      cases hrest
      simp only
      split
      · exact .ok x y rfl
      · exact .refl _
  | _ => exact .error _

end Record

/-- Whether a payload is that of a write does not depend on the stamp, nor does what is wrong. -/
theorem Envelope.decode_alike (s t : Stamp) (payload : Json) :
    Alike (fun _ => ()) (decode s payload) (decode t payload) := by
  have hsame : (record s).SameFaults (record t) := by
    refine .seq (.seq (.refl _) ?_) ?_
    · exact Record.sameFaults_defaulted ..
    · exact Record.sameFaults_defaulted ..
  exact hsame.decode _ _ payload

/-- What is wrong with a job of a kind and with a payload that nobody can be handed. -/
def JobKind.trouble? (kind : JobKind) (payload : Json) : Option Fault :=
  match kind with
  | .agentExecute =>
    if Workshop.namesCommand payload then none else some (.invalidPayload "missing_command")
  | .writeExecute =>
    match Envelope.decode ⟨.ofNanos 0, "", "", ""⟩ payload with
    | .ok _ => none
    | .error e => some (.ofDecodeError e)
  | .other name => some (.invalidJob ("unknown_job_type:" ++ name))

namespace JobKind

/-- A job of the kind can be done with the payload. -/
inductive Accepts : JobKind → Json → Prop where
  | command (payload : Json) (text : String) (htext : payload.get? "command" = some (.str text))
      (hblank : Text.trim text ≠ "") : Accepts .agentExecute payload
  | write (payload : Json)
      (hwrite : ∀ stamp, ∃ envelope, Envelope.decode stamp payload = .ok envelope) :
      Accepts .writeExecute payload

/-- No job of the kind can be done with the payload, and that is why. -/
inductive Rejects : JobKind → Json → Fault → Prop where
  | commandless (payload : Json)
      (hblank : ∀ text, payload.get? "command" = some (.str text) → Text.trim text = "") :
      Rejects .agentExecute payload (.invalidPayload "missing_command")
  | undecodable (payload : Json) (e : DecodeError)
      (herror : ∀ stamp, Envelope.decode stamp payload = .error e) :
      Rejects .writeExecute payload (.ofDecodeError e)
  | unknown (name : String) (payload : Json) :
      Rejects (.other name) payload (.invalidJob ("unknown_job_type:" ++ name))

variable {kind : JobKind} {payload : Json}

theorem accepts_of_trouble (htrouble : kind.trouble? payload = none) : kind.Accepts payload := by
  cases kind with
  | other name => contradiction
  | agentExecute =>
      have hnames : Workshop.namesCommand payload := by simpa [trouble?] using htrouble
      unfold Workshop.namesCommand at hnames
      cases hcommand : payload.get? "command" with
      | none => simp [hcommand] at hnames
      | some value =>
          cases value with
          | str text =>
              refine .command payload text hcommand ?_
              simpa [hcommand, Json.text?] using hnames
          | _ => simp [hcommand, Json.text?] at hnames
  | writeExecute =>
      simp only [trouble?] at htrouble
      split at htrouble
      next envelope hdecode =>
        exact .write payload fun stamp =>
          (Envelope.decode_alike _ stamp payload).ok_iff.mp ⟨envelope, hdecode⟩
      next => contradiction

theorem rejects_of_trouble {fault : Fault} (htrouble : kind.trouble? payload = some fault) :
    kind.Rejects payload fault := by
  cases kind with
  | other name =>
      cases htrouble
      exact .unknown name payload
  | agentExecute =>
      simp only [trouble?] at htrouble
      split at htrouble
      next => contradiction
      next hunnamed =>
        cases htrouble
        refine .commandless payload fun text htext => ?_
        simpa [Workshop.namesCommand, htext, Json.text?] using hunnamed
  | writeExecute =>
      simp only [trouble?] at htrouble
      split at htrouble
      next => contradiction
      next e hdecode =>
        cases htrouble
        exact .undecodable payload e fun stamp =>
          ((Envelope.decode_alike _ stamp payload).error_iff e).mp hdecode

/-- What a job can be done with is not rejected. -/
theorem Rejects.not_accepts {fault : Fault} (hrejects : kind.Rejects payload fault) :
    ¬ kind.Accepts payload := by
  intro haccepts
  cases haccepts with
  | command _ text htext hblank =>
      cases hrejects with
      | commandless _ hall => exact hblank (hall text htext)
  | write _ hwrite =>
      cases hrejects with
      | undecodable _ e herror =>
          obtain ⟨envelope, hok⟩ := hwrite ⟨.ofNanos 0, "", "", ""⟩
          rw [herror] at hok
          contradiction

end JobKind

/-- The work on a job of the right kind; the end of an attempt is not work on a job any more. -/
def Work.IsAbout (job : Job) : Work → Prop
  | .executing other _ => other = job ∧ job.kind = .agentExecute
  | .writing other _ => other = job ∧ job.kind = .writeExecute
  | .recording _ => False

/-- How many answers a call can need to come to its end. -/
def Call.rank : Call → Nat
  | .receiving .. => 7
  | .evaluating _ => 6
  | .judged .. => 5
  | .opening .. | .accepting .. => 3
  | .applying .. => 2
  | .closing .. => 1

/-- How many answers the work on a job can need to come to its end. -/
def Work.rank : Work → Nat
  | .executing .. => 2
  | .writing _ call => call.rank + 1
  | .recording _ => 1

/-- The result of a job is what agents or the gateway reported, and the router had a command. -/
def Job.Reports (job : Job) (result : Json) : Prop :=
  (job.kind = .agentExecute → ∃ report : ExecutionReport, result = report.toJson ∧
    report.reason ≠ some "missing_command") ∧
  (job.kind = .writeExecute → ∃ outcome : WriteOutcome, result = outcome.toJson)

namespace Gateway

/-- How a call can go on that may need so many answers: the lifetime of tokens stays, the call comes
closer to its end, and it breaks down only where the calendar does not show the end of a token. -/
structure GoesOn (g : Gateway) (now : Moment) (bound : Nat) (after : Gateway × Progress) :
    Prop where
  ttl_eq : after.1.tokens.ttl = g.tokens.ttl
  overflowed : after.2 = .broken → now.add? g.tokens.ttl = none
  closer : ∀ call, after.2 = .waiting call → call.rank < bound

variable {g : Gateway} {now : Moment} {bound : Nat}

theorem GoesOn.waiting {next : Gateway} (httl : next.tokens.ttl = g.tokens.ttl) {call : Call}
    (hrank : call.rank < bound) : g.GoesOn now bound (next, .waiting call) where
  ttl_eq := httl
  overflowed hbroken := by contradiction
  closer := by
    intro other hother
    rwa [← Progress.waiting.inj hother]

theorem GoesOn.answered {next : Gateway} (httl : next.tokens.ttl = g.tokens.ttl)
    (outcome : WriteOutcome) : g.GoesOn now bound (next, .answered outcome) where
  ttl_eq := httl
  overflowed hbroken := by contradiction
  closer := by
    intro call hcall
    contradiction

theorem goesOn_commit (g : Gateway) (stamp : Stamp) (token : String) :
    g.GoesOn now 3 (g.commit stamp token) := by
  have hcommits := g.commit_commits stamp token
  generalize g.commit stamp token = after at hcommits
  cases hcommits with
  | invalid | keyless | busy => exact .answered (by rfl) _
  | replayed | reserved | unhandled => exact .waiting (by rfl) (by simp [Call.rank])

theorem goesOn_enact (g : Gateway) (stamp : Stamp) (request : WriteRequest) (decision : Decision) :
    g.GoesOn stamp.now 5 (g.enact stamp request decision) := by
  cases decision with
  | deny reason => exact .waiting (by rfl) (by simp [Call.rank])
  | requiresApproval reason approval payload =>
      cases approval with
      | some approval => exact .waiting (by rfl) (by simp [Call.rank])
      | none =>
          simp only [enact]
          split <;> exact .waiting (by rfl) (by simp [Call.rank])
  | allow reason =>
      simp only [enact, accept, CommitTokens.issue]
      cases hexpires : stamp.now.add? g.tokens.ttl with
      | none =>
          refine ⟨rfl, fun _ => hexpires, ?_⟩
          intro call hcall
          contradiction
      | some expiresAt => exact .waiting (by rfl) (by simp [Call.rank])

theorem goesOn_request (g : Gateway) (stamp : Stamp) (envelope : Envelope) (thenCommit : Bool) :
    g.GoesOn stamp.now 8 (g, request stamp envelope thenCommit) := by
  unfold request
  split
  · exact .waiting (by rfl) (by simp [Call.rank])
  · exact .answered (by rfl) _

/-- Every reply that a call waits for makes it go on. -/
theorem goesOn_resume (g : Gateway) (stamp : Stamp) {call : Call} {reply : Reply}
    (hexpects : call.awaits.expects reply) :
    g.GoesOn stamp.now call.rank (g.resume stamp call reply) := by
  cases Call.expects_cases hexpects with
  | receiving request event _ => exact .waiting (by rfl) (by simp [Call.rank])
  | evaluating request answer => cases answer <;> exact .waiting (by rfl) (by simp [Call.rank])
  | judged request decision event _ => exact g.goesOn_enact stamp request decision
  | opening request reason payload answer =>
      cases answer <;> exact .waiting (by rfl) (by simp [Call.rank])
  | accepting outcome token thenCommit event accepted =>
      simp only [resume]
      split
      · exact g.goesOn_commit stamp token
      · exact .answered (by rfl) _
  | applying envelope key handler answer =>
      obtain ⟨event, hsettle⟩ := g.settle_eq stamp envelope key (answer.mapError Fault.text)
      have hclosing : (Call.closing (settledOutcome envelope key (answer.mapError Fault.text))
          event).rank < (Call.applying envelope key handler).rank := by simp [Call.rank]
      simp only [resume, hsettle]
      exact .waiting (by rfl) hclosing
  | closing outcome event accepted => exact .answered (by rfl) _

end Gateway

namespace Router

/-- The router asks for no command where there is one. -/
theorem execute_reason {r : Router} {env : Environment} {stamp : Stamp} {payload : Json}
    {command : String} (hcommand : commandOf payload = some command) {report : ExecutionReport}
    (hreported : (r.execute env stamp payload).2 = .reported report) :
    report.reason ≠ some "missing_command" := by
  unfold execute at hreported
  simp only [hcommand] at hreported
  split at hreported
  next =>
    cases hreported
    simp [ExecutionReport.rejected]
  next =>
    split at hreported
    next =>
      cases hreported
      simp
    next =>
      split at hreported
      next =>
        cases hreported
        simp
      next => contradiction

theorem finished_reason {r : Router} {e : Execution} {now : Moment} {answer : Except Fault Json}
    {report : ExecutionReport} (hreported : (r.finished e now answer).2 = some report) :
    report.reason ≠ some "missing_command" := by
  cases answer with
  | ok result =>
      cases hreported
      simp
  | error fault =>
      simp only [finished] at hreported
      split at hreported
      next => contradiction
      next =>
        cases hreported
        simp
      next =>
        cases hreported
        simp

theorem policy_execute (r : Router) (env : Environment) (stamp : Stamp) (payload : Json) :
    (r.execute env stamp payload).1.fleet.load.policy = r.fleet.load.policy := by
  have hexecuted := r.executed env stamp payload
  generalize r.execute env stamp payload = after at hexecuted
  cases hexecuted with
  | reported agents report => rw [load_lookedAt]
  | running agents registration command target taken load _ _ _ _ hreserve =>
      exact (LoadBook.policy_reserve hreserve).trans (by rw [load_lookedAt])

theorem policy_finished (r : Router) (e : Execution) (now : Moment) (answer : Except Fault Json) :
    (r.finished e now answer).1.fleet.load.policy = r.fleet.load.policy := by
  cases answer with
  | ok result => rfl
  | error fault =>
      have hpolicy := r.fleet.load.policy_failed e.task.agent now
      simp only [finished]
      split <;> exact hpolicy

/-- There is no report only where the calendar does not show the end of a cooldown. -/
theorem add?_of_finished {r : Router} {e : Execution} {now : Moment} {answer : Except Fault Json}
    (hnone : (r.finished e now answer).2 = none) :
    now.add? r.fleet.load.policy.cooldown = none := by
  cases answer with
  | ok result => contradiction
  | error fault =>
      simp only [finished] at hnone
      split at hnone
      next heffect => exact LoadBook.add?_of_overflow heffect
      next => contradiction
      next => contradiction

end Router

namespace Workshop

/-- How long tokens last and how agents are left alone. -/
def terms (w : Workshop) : Span × LoadPolicy :=
  (w.gateway.tokens.ttl, w.router.fleet.load.policy)

/-- A moment from which the calendar shows the end of a token and of a cooldown. -/
def HasRoom (w : Workshop) (now : Moment) : Prop :=
  now.add? w.terms.1 ≠ none ∧ now.add? w.terms.2.cooldown ≠ none

/-- What becomes of a job at a moment by an answer to those who work on it, when so many answers may
have been missing. -/
inductive Handled (w : Workshop) (job : Job) (now : Moment) (bound : Nat) :
    Workshop × WorkProgress → Prop where
  | waits (next : Workshop) (work : Work) (hqueue : next.queue = w.queue)
      (hterms : next.terms = w.terms) (habout : work.IsAbout job) (hrank : work.rank < bound) :
      Handled w job now bound (next, .waiting work)
  | closed (next : Workshop) (event : AuditEvent) (record : Job) (result : Json)
      (hterms : next.terms = w.terms) (hrecord : w.queue.get? job.id = some record)
      (hstatus : record.status = .processing) (hreports : job.Reports result)
      (hqueue : next.queue = w.queue.update { record with
        status := .succeeded, result := some result, lastError := none, updatedAt := now }) :
      Handled w job now bound (next, .waiting (.recording event))
  /-- Nobody waits for the result any more. -/
  | gone (next : Workshop) (hqueue : next.queue = w.queue) (hterms : next.terms = w.terms)
      (hgone : ∀ record, w.queue.get? job.id = some record → record.status ≠ .processing) :
      Handled w job now bound (next, .done)
  | broke (next : Workshop) (hqueue : next.queue = w.queue) (hterms : next.terms = w.terms)
      (hover : ¬ w.HasRoom now) : Handled w job now bound (next, .broken)

variable {w : Workshop} {job : Job} {bound : Nat}

theorem handled_acknowledge {next : Workshop} (hqueue : next.queue = w.queue)
    (hterms : next.terms = w.terms) (limit : Nat) (stamp : Stamp) {result : Json}
    (hreports : job.Reports result) :
    w.Handled job stamp.now bound (next.acknowledge limit stamp job result) := by
  unfold acknowledge
  -- An attempt that nobody waits for any more, as after a cancellation, leaves no trace.
  rcases next.queue.ack_cases job.id result stamp.now with
    ⟨error, hack, hgone⟩ | ⟨record, hrecord, hstatus, hack⟩
  · rw [hack]
    exact .gone next hqueue hterms (hqueue ▸ hgone)
  · rw [hack]
    exact .closed _ _ record result hterms (hqueue ▸ hrecord) hstatus hreports (by rw [hqueue])

theorem handled_afterGateway {after : Gateway × Progress} {callBound : Nat} (stamp : Stamp)
    (hgoes : w.gateway.GoesOn stamp.now callBound after) (hkind : job.kind = .writeExecute)
    (hbound : callBound < bound) (limit : Nat) :
    w.Handled job stamp.now bound
      (({ w with gateway := after.1 } : Workshop).afterGateway limit stamp job after.2) := by
  obtain ⟨gateway, progress⟩ := after
  have hterms : ({ w with gateway := gateway } : Workshop).terms = w.terms := by
    rw [terms, terms, hgoes.ttl_eq]
  cases progress with
  | waiting call =>
      refine .waits _ _ rfl hterms ⟨rfl, hkind⟩ ?_
      have hcloser := hgoes.closer call rfl
      simp only [Work.rank]
      omega
  | answered outcome =>
      refine handled_acknowledge (by rfl) hterms limit stamp ⟨?_, fun _ => ⟨outcome, rfl⟩⟩
      intro hother
      rw [hkind] at hother
      contradiction
  | broken => exact .broke _ rfl hterms fun hroom => hroom.1 (hgoes.overflowed rfl)

/-- What becomes of a job that is refused at a moment. -/
inductive Refused (w : Workshop) (job : Job) (now : Moment) (fault : Fault) :
    Workshop × WorkProgress → Prop where
  | requeued (record : Job) (event : AuditEvent) (hrecord : w.queue.get? job.id = some record)
      (hstatus : record.status = .processing) (hattempts : record.attempts < record.maxAttempts) :
      Refused w job now fault
        ({ w with queue := { w.queue.update { record with
            status := .queued, lastError := some fault.text, updatedAt := now } with
          channel := w.queue.channel ++ [job.id] } }, .waiting (.recording event))
  | failed (record : Job) (event : AuditEvent) (hrecord : w.queue.get? job.id = some record)
      (hstatus : record.status = .processing)
      (hattempts : ¬ record.attempts < record.maxAttempts) :
      Refused w job now fault
        ({ w with queue := w.queue.update { record with
            status := .failed, lastError := some fault.text, updatedAt := now } },
          .waiting (.recording event))
  | gone (hgone : ∀ record, w.queue.get? job.id = some record → record.status ≠ .processing) :
      Refused w job now fault (w, .done)

theorem refused_refuse (w : Workshop) (stamp : Stamp) (job : Job) (fault : Fault) :
    w.Refused job stamp.now fault (w.refuse stamp job fault) := by
  unfold refuse
  rcases w.queue.nack_cases job.id fault.text stamp.now with ⟨error, hnack, hgone⟩ |
    ⟨record, hrecord, hstatus, ⟨hattempts, hnack⟩ | ⟨hattempts, hnack⟩⟩
  · rw [hnack]
    exact .gone hgone
  · rw [hnack]
    exact .requeued record _ hrecord hstatus hattempts
  · rw [hnack]
    exact .failed record _ hrecord hstatus hattempts

/-- The write that a job asks for can be told, or what is wrong with the job, at every attempt. -/
theorem writeOf_trouble (stamp : Stamp) (hkind : job.kind = .writeExecute) :
    match job.kind.trouble? job.payload with
    | none => ∃ envelope, writeOf stamp job = .ok envelope
    | some fault => writeOf stamp job = .error fault := by
  have halike := Envelope.decode_alike ⟨.ofNanos 0, "", "", ""⟩ stamp job.payload
  simp only [hkind, JobKind.trouble?, writeOf]
  cases hdecode : Envelope.decode ⟨.ofNanos 0, "", "", ""⟩ job.payload with
  | ok envelope =>
      obtain ⟨other, hother⟩ := halike.ok_iff.mp ⟨envelope, hdecode⟩
      exact ⟨_, by rw [hother]⟩
  | error e => rw [(halike.error_iff e).mp hdecode]

/-- A job with which something is wrong is refused, always for the same reason. -/
theorem start_of_trouble (w : Workshop) (env : Environment) (limit : Nat) (stamp : Stamp)
    {fault : Fault} (htrouble : job.kind.trouble? job.payload = some fault) :
    w.start env limit stamp job = w.refuse stamp job fault := by
  unfold start
  cases hkind : job.kind with
  | agentExecute =>
      simp only [JobKind.trouble?, hkind] at htrouble
      split at htrouble
      next => contradiction
      next hunnamed =>
        obtain rfl := Option.some.inj htrouble
        simp [hunnamed]
  | writeExecute =>
      have hwrite := writeOf_trouble stamp hkind
      simp only [htrouble] at hwrite
      simp only [hwrite]
  | other name =>
      simp only [JobKind.trouble?, hkind, Option.some.injEq] at htrouble
      simp only [htrouble]

/-- A job for an agent with which nothing is wrong names a command, and the router finds it. -/
theorem commanded_of_trouble (hkind : job.kind = .agentExecute)
    (htrouble : job.kind.trouble? job.payload = none) :
    namesCommand job.payload = true ∧
      ∃ command, Router.commandOf job.payload = some command := by
  have hnames : namesCommand job.payload = true := by
    simpa [hkind, JobKind.trouble?] using htrouble
  exact ⟨hnames, Option.isSome_iff_exists.mp ((isSome_commandOf job.payload).trans hnames)⟩

/-- A job for an agent is refused without asking the router, or the router finds a command in it. -/
theorem start_or_commanded (w : Workshop) (env : Environment) (limit : Nat) (stamp : Stamp)
    (hkind : job.kind = .agentExecute) :
    (∃ fault, job.kind.Rejects job.payload fault ∧
      w.start env limit stamp job = w.refuse stamp job fault) ∨
    ∀ report, (w.router.execute env stamp job.payload).2 = .reported report →
      report.reason ≠ some "missing_command" := by
  cases htrouble : job.kind.trouble? job.payload with
  | some fault =>
      exact .inl ⟨fault, JobKind.rejects_of_trouble htrouble,
        w.start_of_trouble env limit stamp htrouble⟩
  | none =>
      obtain ⟨_, command, hcommand⟩ := commanded_of_trouble hkind htrouble
      exact .inr fun report => Router.execute_reason hcommand

/-- A job with which nothing is wrong is handed over, and may be over at once. -/
theorem handled_start (w : Workshop) (env : Environment) (limit : Nat) (stamp : Stamp)
    (htrouble : job.kind.trouble? job.payload = none) :
    w.Handled job stamp.now 9 (w.start env limit stamp job) := by
  unfold start
  cases hkind : job.kind with
  | agentExecute =>
      obtain ⟨hnames, command, hcommand⟩ := commanded_of_trouble hkind htrouble
      rcases hexecute : w.router.execute env stamp job.payload with ⟨router, dispatch⟩
      have hterms : ({ w with router := router } : Workshop).terms = w.terms := by
        have hpolicy := w.router.policy_execute env stamp job.payload
        rw [hexecute] at hpolicy
        rw [terms, terms, hpolicy]
      simp only [hnames, Bool.not_true, Bool.false_eq_true, if_false]
      cases dispatch with
      | reported report =>
          refine handled_acknowledge (by rfl) hterms limit stamp ⟨fun _ => ?_, ?_⟩
          · exact ⟨report, rfl, Router.execute_reason hcommand (by rw [hexecute])⟩
          · intro hother
            rw [hkind] at hother
            contradiction
      | running execution => exact .waits _ _ rfl hterms ⟨rfl, hkind⟩ (by simp [Work.rank])
  | writeExecute =>
      have hwrite := writeOf_trouble stamp hkind
      simp only [htrouble] at hwrite
      obtain ⟨envelope, hwrite⟩ := hwrite
      simp only [hwrite]
      exact handled_afterGateway stamp (w.gateway.goesOn_request stamp envelope true) hkind
        (by decide) limit
  | other name => simp [JobKind.trouble?, hkind] at htrouble

theorem handled_executed (w : Workshop) (limit : Nat) (stamp : Stamp)
    (hkind : job.kind = .agentExecute) (execution : Execution) (answer : Except Fault Json) :
    w.Handled job stamp.now bound (w.executed limit stamp job execution answer) := by
  unfold executed
  rcases hfinished : w.router.finished execution stamp.now answer with ⟨router, report?⟩
  have hterms : ({ w with router := router } : Workshop).terms = w.terms := by
    have hpolicy := w.router.policy_finished execution stamp.now answer
    rw [hfinished] at hpolicy
    rw [terms, terms, hpolicy]
  cases report? with
  | some report =>
      refine handled_acknowledge (by rfl) hterms limit stamp ⟨fun _ => ?_, ?_⟩
      · exact ⟨report, rfl, Router.finished_reason (by rw [hfinished])⟩
      · intro hother
        rw [hkind] at hother
        contradiction
  | none =>
      refine .broke _ rfl hterms fun hroom => hroom.2 ?_
      exact Router.add?_of_finished (by rw [hfinished])

theorem handled_replied (w : Workshop) (limit : Nat) (stamp : Stamp)
    (hkind : job.kind = .writeExecute) {call : Call} {reply : Reply}
    (hexpects : call.awaits.expects reply) :
    w.Handled job stamp.now (call.rank + 1) (w.replied limit stamp job call reply) :=
  handled_afterGateway stamp (w.gateway.goesOn_resume stamp hexpects) hkind (Nat.lt_succ_self _)
    limit

end Workshop

end Gatehouse
