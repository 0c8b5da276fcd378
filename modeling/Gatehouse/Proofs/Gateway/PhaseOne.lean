import Gatehouse.Proofs.Gateway.Audited
import Gatehouse.Proofs.Gateway.Passage
import Gatehouse.Proofs.Tables

/-! # Phase one leaves nothing but a token

A call that requests a write and nothing more asks a few questions, has what it
learns recorded, and changes the gateway in one way only: if governance allows
the write, it puts that write under a token. A docket sums up what a call had to
do with others. By the time the call is answered the docket is what the answer
of governance makes of it, and tells of one token if the write was accepted and
of none otherwise. So nothing that happens to the gateway meanwhile, and nothing
that collaborators do, can turn a request into more than that.
-/

namespace Gatehouse

/-- What a call had to do with others, each in the order in which it was seen. -/
structure Docket where
  /-- The types of the events that it turned to the sink with. -/
  records : List String := []
  /-- What it asked governance. -/
  questions : List PolicyRequest := []
  /-- What governance answered. -/
  rulings : List (Except Fault Decision) := []
  /-- The writes that it wanted approvals for, with what is to be told of them. -/
  openings : List (Envelope × Json) := []
  /-- The handlers that it turned to, with the writes for them. -/
  handlings : List (HandlerId × Envelope) := []
  /-- The tokens that it minted. -/
  minted : List String := []
  /-- The tokens that it redeemed. -/
  redeemed : List String := []

/-- What an event adds to the docket of its call. -/
def GatewayEvent.entry : GatewayEvent → Docket
  | .asked _ (.sink event) => { records := [event.type] }
  | .asked _ (.evaluator question) => { questions := [question] }
  | .asked _ (.creator envelope payload) => { openings := [(envelope, payload)] }
  | .asked _ (.handler handler envelope) => { handlings := [(handler, envelope)] }
  | .replied _ _ (.decided answer) => { rulings := [answer] }
  | .minted _ token _ => { minted := [token] }
  | .redeemed _ token .. => { redeemed := [token] }
  | .registered .. | .purged _ | .requested .. | .replied .. | .answered .. | .dropped _ => {}

namespace Docket

instance : Append Docket where
  append first second := {
    records := first.records ++ second.records
    questions := first.questions ++ second.questions
    rulings := first.rulings ++ second.rulings
    openings := first.openings ++ second.openings
    handlings := first.handlings ++ second.handlings
    minted := first.minted ++ second.minted
    redeemed := first.redeemed ++ second.redeemed }

/-- The docket that a list of events makes. -/
def of (events : List GatewayEvent) : Docket where
  records := events.flatMap fun event => event.entry.records
  questions := events.flatMap fun event => event.entry.questions
  rulings := events.flatMap fun event => event.entry.rulings
  openings := events.flatMap fun event => event.entry.openings
  handlings := events.flatMap fun event => event.entry.handlings
  minted := events.flatMap fun event => event.entry.minted
  redeemed := events.flatMap fun event => event.entry.redeemed

theorem of_append (first second : List GatewayEvent) :
    of (first ++ second) = of first ++ of second := by
  simp only [of, List.flatMap_append]
  rfl

theorem minted_append (first second : Docket) :
    (first ++ second).minted = first.minted ++ second.minted := rfl

theorem append_empty (docket : Docket) : docket ++ {} = docket := by
  cases docket
  change Docket.mk .. = _
  simp only [List.append_nil]

/-- The docket of a call about which governance has decided. -/
def decided (envelope : Envelope) (decision : Decision) : Docket where
  records := ["write.received", "write.policy_evaluated"]
  questions := [envelope.question]
  rulings := [.ok decision]

/-- The events that tell how governance answered: its decision, if it came to one. -/
def evaluations : Except Fault Decision → List String
  | .ok _ => ["write.policy_evaluated"]
  | .error _ => []

/-- The approvals that are wanted after an answer of governance: one if the write is to be approved
and nobody has named an approval yet, where somebody opens approvals. -/
def openingsAfter (opens : Bool) (envelope : Envelope) :
    Except Fault Decision → List (Envelope × Json)
  | .ok (.requiresApproval _ none payload) =>
    if opens then [({ envelope with key := envelope.resolvedKey }, payload)] else []
  | .ok (.requiresApproval _ (some _) _) | .ok (.deny _) | .ok (.allow _) | .error _ => []

end Docket

/-- The status that an answer of governance leads to. -/
def WriteStatus.ruledBy : Except Fault Decision → WriteStatus
  | .ok (.allow _) => .accepted
  | .ok (.requiresApproval ..) => .requiresApproval
  | .ok (.deny _) | .error _ => .rejected

/-- The docket that an answer of governance leads to. -/
def Docket.concluded (opens : Bool) (envelope : Envelope) (ruling : Except Fault Decision)
    (token : Option String) : Docket where
  records := "write.received" ::
    (evaluations ruling ++ (WriteStatus.ruledBy ruling).eventType?.toList)
  questions := [envelope.question]
  rulings := [ruling]
  openings := openingsAfter opens envelope ruling
  minted := token.toList

namespace WriteOutcome

variable {opens : Bool} {envelope : Envelope} {docket : Docket} {outcome : WriteOutcome}

/-- The answer and the docket are what governance makes of them, and the token that the docket tells
of is that of the answer. -/
structure Concludes (opens : Bool) (envelope : Envelope) (docket : Docket)
    (outcome : WriteOutcome) (ruling : Except Fault Decision) : Prop where
  status_eq : outcome.status = .ruledBy ruling
  token_iff : outcome.token.isSome ↔ outcome.status = .accepted
  docket_eq : docket = .concluded opens envelope ruling outcome.token

/-- How a call that requested a write and nothing more is answered: at once when the write has no
execution, and otherwise as governance says. -/
inductive Answers (opens : Bool) (envelope : Envelope) (docket : Docket) (outcome : WriteOutcome) :
    Prop where
  | unnamed (hexecution : envelope.execution = none) (hstatus : outcome.status = .rejected)
      (htoken : outcome.token = none) (hdocket : docket = {})
  | ruled (execution : String) (ruling : Except Fault Decision)
      (hexecution : envelope.execution = some execution)
      (hconcludes : outcome.Concludes opens envelope docket ruling)

/-- That the record of the answer is replied about, and the answer given with the name of it, adds
nothing to the docket. -/
theorem Answers.recorded (hanswers : outcome.Answers opens envelope docket) (call : CallId)
    (event : AuditEvent) (accepted : Bool) (auditId : Option String) :
    { outcome with auditId := auditId }.Answers opens envelope
      (docket ++ Docket.of [.replied call (.sink event) (.recorded accepted),
        .answered call { outcome with auditId := auditId }]) := by
  have hsame : docket ++ Docket.of [.replied call (.sink event) (.recorded accepted),
      .answered call { outcome with auditId := auditId }] = docket := docket.append_empty
  rw [hsame]
  cases hanswers with
  | unnamed hexecution hstatus htoken hdocket => exact .unnamed hexecution hstatus htoken hdocket
  | ruled execution ruling hexecution hconcludes =>
      exact .ruled execution ruling hexecution
        ⟨hconcludes.status_eq, hconcludes.token_iff, hconcludes.docket_eq⟩

/-- The docket of an answer tells of its token, which there is just when the write was accepted. -/
theorem Answers.minted (hanswers : outcome.Answers opens envelope docket) :
    docket.minted = outcome.token.toList ∧
      (outcome.token.isSome ↔ outcome.status = .accepted) := by
  cases hanswers with
  | unnamed hexecution hstatus htoken hdocket => simp [hdocket, hstatus, htoken]
  | ruled execution ruling hexecution hconcludes =>
      exact ⟨by rw [hconcludes.docket_eq, Docket.concluded], hconcludes.token_iff⟩

end WriteOutcome

/-- The request is for the write: it carries the envelope with nothing but its key filled in, and it
is that write which governance is asked about. -/
structure WriteRequest.Serves (request : WriteRequest) (envelope : Envelope) : Prop where
  envelope_eq : request.envelope = { envelope with key := envelope.resolvedKey }
  question_eq : request.question = envelope.question
  execution_eq : envelope.execution = some request.execution

/-- What the docket says of a call that requested a write and nothing more, by where it waits. -/
def Call.Entered (opens : Bool) (envelope : Envelope) (docket : Docket) : Call → Prop
  | .receiving request _ => request.Serves envelope ∧ docket = { records := ["write.received"] }
  | .evaluating request => request.Serves envelope ∧
    docket = { records := ["write.received"], questions := [envelope.question] }
  | .judged request decision _ => request.Serves envelope ∧ docket = .decided envelope decision
  | .opening request reason payload => request.Serves envelope ∧ opens = true ∧
    docket = { Docket.decided envelope (.requiresApproval reason none payload) with
      openings := [({ envelope with key := envelope.resolvedKey }, payload)] }
  | .accepting outcome .. | .closing outcome _ => outcome.Answers opens envelope docket
  | .applying .. => False

/-- What the docket says of a call that got so far. -/
def Progress.Entered (opens : Bool) (envelope : Envelope) (docket : Docket) : Progress → Prop
  | .waiting stage => stage.Entered opens envelope docket
  | .answered outcome => outcome.Answers opens envelope docket
  | .broken => True

/-- An answer without a token, as governance wanted it. -/
theorem WriteOutcome.Answers.refused {opens : Bool} {envelope : Envelope} {docket : Docket}
    {outcome : WriteOutcome} {request : WriteRequest} (hserves : request.Serves envelope)
    (ruling : Except Fault Decision) (hstatus : outcome.status = .ruledBy ruling)
    (hallowed : ∀ reason, ruling ≠ .ok (.allow reason)) (htoken : outcome.token = none)
    (hdocket : docket = .concluded opens envelope ruling none) :
    outcome.Answers opens envelope docket := by
  refine .ruled _ ruling hserves.execution_eq ⟨hstatus, ?_, by rw [hdocket, htoken]⟩
  rw [htoken, hstatus]
  unfold WriteStatus.ruledBy
  split
  next reason => exact absurd rfl (hallowed reason)
  all_goals simp

namespace Gateway

section Entered

variable {g : Gateway} {opens : Bool} {stamp : Stamp} {envelope : Envelope} {docket : Docket}

theorem request_entered (call : CallId) (stamp : Stamp) (envelope : Envelope) (thenCommit : Bool) :
    (request stamp envelope thenCommit).Entered opens envelope
      (.of (.requested call envelope ::
        (request stamp envelope thenCommit).events call stamp.now)) := by
  unfold request
  split
  next execution key hexecution hkey =>
    refine ⟨⟨by rw [hkey], ?_, hexecution⟩, rfl⟩
    rw [WriteRequest.Keyed.question_eq ⟨hexecution, rfl⟩]
    rfl
  next hmissing => exact .unnamed (envelope.execution_eq_none hmissing) rfl rfl rfl

/-- A decision that has been recorded leads to the answer that belongs to it, perhaps by way of
somebody who opens an approval. -/
theorem enact_entered {request : WriteRequest} (hopens : g.opensApprovals = opens)
    (hserves : request.Serves envelope) (decision : Decision) (call : CallId) (whom : Awaited)
    (accepted : Bool) :
    (g.enact stamp request decision).2.Entered opens envelope
      (.decided envelope decision ++ .of (.replied call whom (.recorded accepted) ::
        (g.enact stamp request decision).2.events call stamp.now)) := by
  cases decision with
  | deny reason => exact .refused hserves (.ok (.deny reason)) rfl (by simp) rfl rfl
  | requiresApproval reason approval payload =>
      cases approval with
      | some approval =>
          exact .refused hserves (.ok (.requiresApproval reason (some approval) payload)) rfl
            (by simp) rfl rfl
      | none =>
          simp only [enact, hopens]
          cases opens with
          | true =>
              refine ⟨hserves, rfl, ?_⟩
              rw [← hserves.envelope_eq]
              rfl
          | false =>
              exact .refused hserves (.ok (.requiresApproval reason none payload)) rfl
                (by simp) rfl rfl
  | allow reason =>
      simp only [enact, accept, CommitTokens.issue]
      cases stamp.now.add? g.tokens.ttl with
      | none => trivial
      | some expiresAt =>
          exact .ruled _ (.ok (.allow reason)) hserves.execution_eq ⟨rfl, iff_of_true rfl rfl, rfl⟩

/-- A reply to a call that requested a write and nothing more brings it to where its docket says. -/
theorem resume_entered {stage : Call} {reply : Reply} (hopens : g.opensApprovals = opens)
    (hmeans : stage.Means false) (hentered : stage.Entered opens envelope docket)
    (hexpects : stage.awaits.expects reply) (call : CallId) :
    (g.resume stamp stage reply).2.Entered opens envelope
      (docket ++ .of (.replied call stage.awaits reply ::
        (g.resume stamp stage reply).2.events call stamp.now)) := by
  cases Call.expects_cases hexpects with
  | receiving request event accepted =>
      obtain ⟨hserves, rfl⟩ := hentered
      refine ⟨hserves, ?_⟩
      rw [← hserves.question_eq]
      rfl
  | evaluating request answer =>
      obtain ⟨hserves, rfl⟩ := hentered
      cases answer with
      | ok decision => exact ⟨hserves, rfl⟩
      | error fault => exact .refused hserves (.error fault) rfl (by simp) rfl rfl
  | judged request decision event accepted =>
      obtain ⟨hserves, rfl⟩ := hentered
      exact enact_entered hopens hserves decision call _ accepted
  | opening request reason payload answer =>
      obtain ⟨hserves, rfl, rfl⟩ := hentered
      cases answer <;>
        exact .refused hserves (.ok (.requiresApproval reason none payload)) rfl (by simp) rfl rfl
  | accepting outcome token thenCommit event accepted =>
      obtain rfl : thenCommit = false := hmeans
      exact WriteOutcome.Answers.recorded hentered call event accepted _
  | applying envelope key handler answer => exact hentered.elim
  | closing outcome event accepted =>
      exact WriteOutcome.Answers.recorded hentered call event accepted _

end Entered

end Gateway

namespace Gateway

/-- The gateway with a write put under a token. -/
def granted (g : Gateway) (token : String) (write : PendingWrite) : Gateway :=
  { g with tokens := { g.tokens with pending := g.tokens.pending.put token write } }

/-- The gateway is what it was but for these tokens: none, or one with the write under it. -/
inductive Grown (envelope : Envelope) (before : Gateway) : Gateway → List String → Prop where
  | same : Grown envelope before before []
  | granted (token : String) (now expiresAt : Moment)
      (hexpires : now.add? before.tokens.ttl = some expiresAt) :
      Grown envelope before
        (before.granted token ⟨{ envelope with key := envelope.resolvedKey }, expiresAt⟩) [token]

theorem Grown.eq_of_nil {envelope : Envelope} {before after : Gateway}
    (hgrown : Grown envelope before after []) : after = before := by
  cases hgrown
  rfl

end Gateway

/-- A turn of a call that requested a write and nothing more leaves the gateway as it is, or it
mints the first token of the call and puts the write under it. -/
theorem Turn.grants {g : Gateway} {call : CallId} {now : Moment} {stage : Call}
    {seen : List GatewayEvent} {after : Gateway × Progress} {opens : Bool} {envelope : Envelope}
    {docket : Docket} (hturn : Turn g call now (some stage) seen after)
    (hmeans : stage.Means false) (hentered : stage.Entered opens envelope docket) :
    after.1 = g ∧ (Docket.of (seen ++ after.2.events call now)).minted = [] ∨
    ∃ token expiresAt, now.add? g.tokens.ttl = some expiresAt ∧
      after.1 =
        g.granted token ⟨{ envelope with key := envelope.resolvedKey }, expiresAt⟩ ∧
      docket.minted = [] ∧ (Docket.of (seen ++ after.2.events call now)).minted = [token] := by
  cases hturn with
  | talked _ reply progress hexpects htalks =>
      cases htalks <;> cases reply <;> exact .inl ⟨rfl, rfl⟩
  | judged | unjudged | closed | left => exact .inl ⟨rfl, rfl⟩
  | minted request reason event accepting accepted token expiresAt outcome hexpires =>
      obtain ⟨hserves, rfl⟩ := hentered
      refine .inr ⟨token, expiresAt, hexpires, ?_, rfl, rfl⟩
      rw [← hserves.envelope_eq]
      rfl
  | committed _ earlier stamp token _ hnow hredeems hcommits =>
      cases hredeems
      contradiction
  | settled | interrupted => exact hentered.elim

namespace Traffic

/-- What a call had to do with others so far. -/
def docket (s : Traffic) (call : CallId) : Docket :=
  .of (s.trail call)

/-- The docket of a call that requested a write and nothing more tells where it is. -/
structure Entered (opens : Bool) (s : Traffic) (call : CallId) (envelope : Envelope) : Prop where
  stage : ∀ stage, s.calls.get? call = some stage → stage.Entered opens envelope (s.docket call)
  answered : ∀ outcome, .answered call outcome ∈ s.history →
    s.calls.get? call = none ∧ outcome.Answers opens envelope (s.docket call)

section Entered

variable {opens : Bool} {s : Traffic} {call : CallId} {envelope : Envelope} {now : Moment}
  {stage? : Option Call} {seen : List GatewayEvent} {after : Gateway × Progress}

theorem docket_advance (hturn : Turn s.gateway call now stage? seen after) :
    (s.advance call now seen after).docket call =
      s.docket call ++ .of (seen ++ after.2.events call now) := by
  rw [docket, trail_advance hturn, Docket.of_append, ← docket]

/-- What happens to others adds nothing to the docket of a call. -/
theorem Entered.aside (hentered : s.Entered opens call envelope) {next : Traffic}
    {added : List GatewayEvent} (hhistory : next.history = s.history ++ added)
    (hadded : ∀ event ∈ added, event.call? ≠ some call)
    (hcalls : next.calls.get? call = s.calls.get? call) : next.Entered opens call envelope := by
  have hdocket : next.docket call = s.docket call := by
    have hnone : added.filter (fun event => event.call? = some call) = [] := by
      simpa [List.filter_eq_nil_iff] using hadded
    rw [docket, docket, trail, hhistory, List.filter_append, hnone, List.append_nil, ← trail]
  constructor
  case stage =>
    intro stage hstage
    rw [hdocket]
    exact hentered.stage stage (hcalls.symm.trans hstage)
  case answered =>
    intro outcome hmem
    rw [hhistory] at hmem
    rcases List.mem_append.mp hmem with hmem | hmem
    · rw [hcalls, hdocket]
      exact hentered.answered outcome hmem
    · exact absurd rfl (hadded _ hmem)

/-- A call goes on, and its docket with it. -/
theorem entered_advance (hturn : Turn s.gateway call now stage? seen after)
    (hafter : after.2.Entered opens envelope
      (s.docket call ++ .of (seen ++ after.2.events call now)))
    (hunanswered : ∀ outcome, .answered call outcome ∉ s.history ++ seen) :
    (s.advance call now seen after).Entered opens call envelope := by
  rw [← docket_advance hturn] at hafter
  constructor
  case stage =>
    intro stage hplaced
    rw [advance, get?_place, if_pos rfl] at hplaced
    generalize after.2 = progress at hplaced hafter
    cases progress with
    | waiting next =>
        obtain rfl := Option.some.inj hplaced
        exact hafter
    | answered | broken => contradiction
  case answered =>
    intro outcome hmem
    rw [advance, ← List.append_assoc] at hmem
    have hevents := (List.mem_append.mp hmem).resolve_left (hunanswered outcome)
    have hprogress := progress_of_answered hevents
    rw [hprogress] at hafter
    refine ⟨?_, hafter⟩
    rw [advance, get?_place, if_pos rfl, hprogress]
    rfl

theorem entered_requested (hnew : s.isNew call) (stamp : Stamp) (envelope : Envelope)
    (thenCommit : Bool) :
    (s.step (.request call stamp envelope thenCommit)).Entered opens call envelope := by
  have hdocket : s.docket call = {} := by
    rw [docket, trail_of_isNew hnew]
    rfl
  simp only [step, hnew, if_true]
  apply entered_advance (s.gateway.request_turn call stamp envelope thenCommit)
  case hafter =>
    rw [hdocket]
    exact Gateway.request_entered call stamp envelope thenCommit
  case hunanswered =>
    intro outcome hmem
    rcases List.mem_append.mp hmem with hmem | hmem
    · exact call?_ne_of_isNew hnew hmem rfl
    · simp at hmem

theorem entered_motion {next : Traffic} (hmotion : Motion s next)
    (hopens : s.gateway.opensApprovals = opens) (hmeant : s.Meant call false)
    (hentered : s.Entered opens call envelope) : next.Entered opens call envelope := by
  -- A call in flight has not been answered.
  have hunanswered : ∀ {stage}, s.calls.get? call = some stage →
      ∀ outcome, .answered call outcome ∉ s.history := by
    intro stage hstage outcome hmem
    rw [(hentered.answered outcome hmem).1] at hstage
    contradiction
  cases hmotion.regards hmeant.not_isNew with
  | aside _ added hhistory hadded hcalls => exact hentered.aside hhistory hadded hcalls
  | resumed stamp stage reply hstage hexpects =>
      have hmeans := hmeant.stage stage hstage
      have hturn := Gateway.resume_turn s call stamp stage reply hexpects
      rw [redemptionsAfter_of_means hmeans] at hturn ⊢
      apply entered_advance hturn
      case hafter =>
        exact Gateway.resume_entered hopens hmeans (hentered.stage stage hstage) hexpects call
      case hunanswered =>
        intro outcome hmem
        rcases List.mem_append.mp hmem with hmem | hmem
        · exact hunanswered hstage outcome hmem
        · simp at hmem
  | dropped now stage hstage =>
      apply entered_advance (s.gateway.abandon_turn call now stage)
      case hafter => trivial
      case hunanswered => simpa using hunanswered hstage

end Entered

/-- What a call that requested the write does to the gateway at a time: nothing, or it mints its
first token and puts the write under it. -/
inductive Grants (call : CallId) (envelope : Envelope) (s next : Traffic) : Prop where
  | nothing (hgateway : next.gateway = s.gateway)
      (hminted : (next.docket call).minted = (s.docket call).minted)
  | granted (token : String) (now expiresAt : Moment)
      (hexpires : now.add? s.gateway.tokens.ttl = some expiresAt)
      (hgateway : next.gateway =
        s.gateway.granted token ⟨{ envelope with key := envelope.resolvedKey }, expiresAt⟩)
      (hbefore : (s.docket call).minted = []) (hafter : (next.docket call).minted = [token])

section Grants

variable {opens : Bool} {s : Traffic} {call : CallId} {envelope : Envelope}

theorem grants_advance {now : Moment} {stage : Call} {seen : List GatewayEvent}
    {after : Gateway × Progress} (hturn : Turn s.gateway call now (some stage) seen after)
    (hmeans : stage.Means false) (hentered : stage.Entered opens envelope (s.docket call)) :
    Grants call envelope s (s.advance call now seen after) := by
  have hdocket := docket_advance hturn
  rcases hturn.grants hmeans hentered with
    ⟨hgateway, hnone⟩ | ⟨token, expiresAt, hexpires, hgateway, hbefore, hminted⟩
  · refine .nothing hgateway ?_
    rw [hdocket, Docket.minted_append, hnone, List.append_nil]
  · refine .granted token now expiresAt hexpires hgateway hbefore ?_
    rw [hdocket, Docket.minted_append, hbefore, hminted, List.nil_append]

/-- Whatever is done about a call that requested the write and nothing more. -/
theorem Entered.grants (hentered : s.Entered opens call envelope) (hmeant : s.Meant call false)
    {action : Action} (hconcerns : action.concerns call) :
    Grants call envelope s (s.step action) := by
  cases action with
  | reply other stamp reply =>
      obtain rfl : other = call := of_decide_eq_true hconcerns
      simp only [step]
      split
      next stage hstage =>
        split
        next hexpects =>
          exact grants_advance (Gateway.resume_turn s other stamp stage reply hexpects)
            (hmeant.stage stage hstage) (hentered.stage stage hstage)
        next => exact .nothing rfl rfl
      next => exact .nothing rfl rfl
  | drop other now =>
      obtain rfl : other = call := of_decide_eq_true hconcerns
      simp only [step]
      split
      next stage hstage =>
        exact grants_advance (s.gateway.abandon_turn other now stage)
          (hmeant.stage stage hstage) (hentered.stage stage hstage)
      next => exact .nothing rfl rfl
  | register | purge | request | commit => contradiction

end Grants

/-- What becomes of the traffic when a call is started to request a write and nothing more, and
other things happen then. -/
def afterRequest (s : Traffic) (call : CallId) (stamp : Stamp) (envelope : Envelope)
    (meanwhile : List Action) : Traffic :=
  (s.step (.request call stamp envelope false)).run meanwhile

theorem afterRequest_concat (s : Traffic) (call : CallId) (stamp : Stamp) (envelope : Envelope)
    (meanwhile : List Action) (action : Action) :
    s.afterRequest call stamp envelope (meanwhile ++ [action]) =
      (s.afterRequest call stamp envelope meanwhile).step action :=
  List.foldl_concat ..

section Run

variable {opens : Bool} {ttl : Span} {before : List Action} {s : Traffic} {call : CallId}

/-- That a call is started to request a write changes nothing in the gateway and mints nothing. -/
theorem afterRequest_nil (hnew : s.isNew call) (stamp : Stamp) (envelope : Envelope) :
    (s.afterRequest call stamp envelope []).gateway = s.gateway ∧
      ((s.afterRequest call stamp envelope []).docket call).minted = [] := by
  simp only [afterRequest, run, List.foldl_nil, step, hnew, if_true]
  refine ⟨rfl, ?_⟩
  rw [docket_advance (s.gateway.request_turn call stamp envelope false), docket,
    trail_of_isNew hnew]
  unfold Gateway.request
  split <;> rfl

/-- A call that is started to request a write and nothing more keeps to that, and its docket tells
where it is. -/
theorem entered_afterRequest (hnew : ((start opens ttl).run before).isNew call) (stamp : Stamp)
    (envelope : Envelope) (meanwhile : List Action) :
    let s := ((start opens ttl).run before).afterRequest call stamp envelope meanwhile
    s.Meant call false ∧ s.Entered opens call envelope := by
  induction meanwhile using List.reverseRecOn with
  | nil =>
      exact ⟨meant_requested hnew stamp envelope false, entered_requested hnew stamp envelope false⟩
  | append_singleton meanwhile action ih =>
      obtain ⟨hmeant, hentered⟩ := ih
      have hopens := (explained_run opens ttl
        (before ++ .request call stamp envelope false :: meanwhile)).opens_eq
      rw [run_append_cons] at hopens
      rw [afterRequest_concat]
      have hmotion := motion_cases
        (((start opens ttl).run before).afterRequest call stamp envelope meanwhile) action
      exact ⟨meant_motion hmotion hmeant, entered_motion hmotion hopens hmeant hentered⟩

/-- As long as nobody else acts, the gateway is what it was before the call but for the token that
the docket tells of. -/
theorem grown_afterRequest (hnew : ((start opens ttl).run before).isNew call) (stamp : Stamp)
    (envelope : Envelope) {own : List Action} (hown : ∀ action ∈ own, action.concerns call) :
    Gateway.Grown envelope ((start opens ttl).run before).gateway
      (((start opens ttl).run before).afterRequest call stamp envelope own).gateway
      (docket (((start opens ttl).run before).afterRequest call stamp envelope own)
        call).minted := by
  induction own using List.reverseRecOn with
  | nil =>
      obtain ⟨hgateway, hminted⟩ := afterRequest_nil hnew stamp envelope
      rw [hgateway, hminted]
      exact .same
  | append_singleton own action ih =>
      have hbefore := ih fun other hother => hown other (List.mem_append_left _ hother)
      obtain ⟨hmeant, hentered⟩ := entered_afterRequest hnew stamp envelope own
      rw [afterRequest_concat]
      cases hentered.grants hmeant (hown action (by simp)) with
      | nothing hgateway hminted =>
          rw [hgateway, hminted]
          exact hbefore
      | granted token now expiresAt hexpires hgateway hnone hafter =>
          rw [hnone] at hbefore
          rw [hgateway, hafter, hbefore.eq_of_nil]
          rw [hbefore.eq_of_nil] at hexpires
          exact .granted token now expiresAt hexpires

end Run

/-- What is left in the gateway of a call that requested the write, got the answer, and had the
gateway for itself: nothing, or the write under the token of the answer. -/
inductive Leaves (envelope : Envelope) (outcome : WriteOutcome) (before after : Gateway) :
    Prop where
  | nothing (hstatus : outcome.status ≠ .accepted) (hgateway : after = before)
  | granted (token : String) (now expiresAt : Moment) (hstatus : outcome.status = .accepted)
      (htoken : outcome.token = some token)
      (hexpires : now.add? before.tokens.ttl = some expiresAt)
      (hgateway : after =
        before.granted token ⟨{ envelope with key := envelope.resolvedKey }, expiresAt⟩)
      (hadded : before.tokens.pending.get? token = none →
        after.tokens.pending.entries = before.tokens.pending.entries ++
          [(token, ⟨{ envelope with key := envelope.resolvedKey }, expiresAt⟩)])

theorem leaves_of_grown {envelope : Envelope} {outcome : WriteOutcome} {before after : Gateway}
    (hgrown : Gateway.Grown envelope before after outcome.token.toList)
    (hiff : outcome.token.isSome ↔ outcome.status = .accepted) :
    Leaves envelope outcome before after := by
  cases htoken : outcome.token with
  | none =>
      rw [htoken] at hgrown hiff
      exact .nothing (fun hstatus => by simpa using hiff.mpr hstatus) hgrown.eq_of_nil
  | some token =>
      rw [htoken] at hgrown hiff
      cases hgrown with
      | granted _ now expiresAt hexpires =>
          refine .granted token now expiresAt (hiff.mp rfl) htoken hexpires rfl fun hfresh => ?_
          exact Table.entries_put_of_not_mem (Table.get?_eq_none_iff.mp hfresh) _

/-- What comes of it when a call is started to request a write and nothing more. -/
structure PhaseOne (s : Traffic) (call : CallId) (stamp : Stamp) (envelope : Envelope) : Prop where
  starts : (s.afterRequest call stamp envelope []).gateway = s.gateway
  /-- Whatever has happened meanwhile, the call does nothing to the gateway but put the write under
  a token. -/
  grants : ∀ (meanwhile : List Action) {action : Action}, action.concerns call →
    Grants call envelope (s.afterRequest call stamp envelope meanwhile)
      ((s.afterRequest call stamp envelope meanwhile).step action)
  /-- Whatever has happened meanwhile, an answer goes with what governance said, and so does all
  that the call had to do with others. -/
  answers : ∀ (meanwhile : List Action) {outcome : WriteOutcome},
    .answered call outcome ∈ (s.afterRequest call stamp envelope meanwhile).history →
    outcome.Answers s.gateway.opensApprovals envelope
      ((s.afterRequest call stamp envelope meanwhile).docket call)
  /-- When nothing else has happened, the token of the answer is all that is left. -/
  leaves : ∀ {own : List Action} {outcome : WriteOutcome}, (∀ action ∈ own, action.concerns call) →
    .answered call outcome ∈ (s.afterRequest call stamp envelope own).history →
    Leaves envelope outcome s.gateway (s.afterRequest call stamp envelope own).gateway

/-- In every run, a call that is started to request a write and nothing more leaves nothing but the
token that it is answered with. -/
theorem run_phaseOne (opens : Bool) (ttl : Span) (before : List Action) (call : CallId)
    (stamp : Stamp) (envelope : Envelope) (hnew : ((start opens ttl).run before).isNew call) :
    ((start opens ttl).run before).PhaseOne call stamp envelope := by
  have hanswers : ∀ (meanwhile : List Action) {outcome : WriteOutcome},
      .answered call outcome ∈
        (((start opens ttl).run before).afterRequest call stamp envelope meanwhile).history →
      outcome.Answers opens envelope
        ((((start opens ttl).run before).afterRequest call stamp envelope meanwhile).docket call) :=
    fun meanwhile outcome hanswered =>
      ((entered_afterRequest hnew stamp envelope meanwhile).2.answered outcome hanswered).2
  constructor
  case starts => exact (afterRequest_nil hnew stamp envelope).1
  case grants =>
    intro meanwhile action hconcerns
    obtain ⟨hmeant, hentered⟩ := entered_afterRequest hnew stamp envelope meanwhile
    exact hentered.grants hmeant hconcerns
  case answers =>
    rw [(explained_run opens ttl before).opens_eq]
    exact hanswers
  case leaves =>
    intro own outcome hown hanswered
    obtain ⟨hminted, hiff⟩ := (hanswers own hanswered).minted
    have hgrown := grown_afterRequest hnew stamp envelope hown
    rw [hminted] at hgrown
    exact leaves_of_grown hgrown hiff

def pageStamp : Stamp := ⟨.ofNanos 0, "id", "event", "token"⟩

def pageWrite : Envelope :=
  ⟨"publish", "ana", "page:1", .null, none, some "run", some ⟨"key"⟩, none, ⟨"write"⟩, .ofNanos 0⟩

/-- The collaborators let the write of the page pass. -/
def pageReplies : List Action := [
  .reply ⟨1⟩ pageStamp (.recorded true),
  .reply ⟨1⟩ pageStamp (.decided (.ok (.allow none))),
  .reply ⟨1⟩ pageStamp (.recorded true),
  .reply ⟨1⟩ pageStamp (.recorded true)]

/-- A gateway with a handler for pages, at which nobody has called. -/
def pageTraffic : Traffic :=
  (start true (.ofSeconds 60)).run [.register "publish" ⟨0⟩]

theorem pageWrite_phaseOne :
    pageTraffic.isNew ⟨1⟩ ∧ pageTraffic.PhaseOne ⟨1⟩ pageStamp pageWrite ∧
    (pageTraffic.afterRequest ⟨1⟩ pageStamp pageWrite pageReplies).lastSeen ⟨1⟩ =
      some (.answered ⟨1⟩
        { WriteOutcome.new .accepted ⟨"write"⟩ with
          key := some ⟨"key"⟩, token := some "token", auditId := some "event" }) :=
  ⟨by decide, run_phaseOne true (.ofSeconds 60) [.register "publish" ⟨0⟩] ⟨1⟩ pageStamp pageWrite
    (by decide), rfl⟩

end Traffic

end Gatehouse
