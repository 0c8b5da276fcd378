import Gatehouse.Proofs.Gateway.Turn

/-! # What the audit trail has no say in

Forget of everything that was seen of a gateway whether the sink accepted an
event, and take the names of records out of the answers. What is left is what
would have been seen if the sink had refused every event: forgetting commutes
with every action, and nothing of the gateway and of the calls in flight has to
be forgotten for it.
-/

namespace Gatehouse

/-- The answer without the name of its record. -/
def WriteOutcome.unrecorded (outcome : WriteOutcome) : WriteOutcome :=
  { outcome with auditId := none }

/-- The reply, of a sink that refuses everything if it is that of a sink. -/
def Reply.unrecorded : Reply → Reply
  | .recorded _ => .recorded false
  | .decided answer => .decided answer
  | .opened answer => .opened answer
  | .applied answer => .applied answer

namespace Progress

/-- The progress with an answer that names no record. -/
def unrecorded : Progress → Progress
  | .answered outcome => .answered outcome.unrecorded
  | .waiting call => .waiting call
  | .broken => .broken

end Progress

namespace GatewayEvent

/-- What would have been seen if the sink had refused everything. -/
def unrecorded : GatewayEvent → GatewayEvent
  | .replied call whom reply => .replied call whom reply.unrecorded
  | .answered call outcome => .answered call outcome.unrecorded
  | event => event

@[simp] theorem call?_unrecorded (event : GatewayEvent) : event.unrecorded.call? = event.call? := by
  cases event <;> rfl

end GatewayEvent

theorem Progress.events_unrecorded (call : CallId) (now : Moment) (progress : Progress) :
    progress.unrecorded.events call now =
      (progress.events call now).map GatewayEvent.unrecorded := by
  cases progress with
  | waiting stage => cases stage <;> rfl
  | answered | broken => rfl

@[simp] theorem Awaited.expects_unrecorded (whom : Awaited) (reply : Reply) :
    whom.expects reply.unrecorded = whom.expects reply := by
  cases whom <;> cases reply <;> rfl

namespace Gateway

variable (g : Gateway) (stamp : Stamp)

/-- The answer to a commit that needs no record names none. -/
theorem commit_unrecorded (token : String) :
    (g.commit stamp token).2.unrecorded = (g.commit stamp token).2 := by
  cases hworth : g.tokens.worth token stamp.now with
  | unknown | expired envelope => simp [commit, CommitTokens.take, hworth]; rfl
  | valid envelope =>
      cases hkey : envelope.resolvedKey with
      | none => simp [commit, CommitTokens.take, hworth, hkey]; rfl
      | some key =>
          rw [commit_of_valid hworth hkey]
          rcases (g.spend token).apply_cases stamp envelope key with ⟨_, happly⟩ |
            ⟨stored, _, happly⟩ | ⟨_, ⟨handler, _, happly⟩ | ⟨_, happly⟩⟩
          all_goals
            rw [happly]
            rfl

theorem request_unrecorded (envelope : Envelope) (thenCommit : Bool) :
    (request stamp envelope thenCommit).unrecorded = request stamp envelope thenCommit := by
  unfold request
  split <;> rfl

theorem enact_unrecorded (request : WriteRequest) (decision : Decision) :
    (g.enact stamp request decision).2.unrecorded = (g.enact stamp request decision).2 := by
  cases decision with
  | deny reason => rfl
  | allow reason =>
      simp only [enact, accept]
      split <;> rfl
  | requiresApproval reason approval payload =>
      cases approval with
      | some approval => rfl
      | none =>
          simp only [enact]
          split <;> rfl

/-- Whether the sink accepts an event makes a difference to nothing but the name of a record. -/
theorem resume_unrecorded (call : Call) (reply : Reply) :
    g.resume stamp call reply.unrecorded =
      ((g.resume stamp call reply).1, (g.resume stamp call reply).2.unrecorded) := by
  cases call with
  | receiving | closing => cases reply <;> rfl
  | evaluating request =>
      cases reply with
      | decided answer => cases answer <;> rfl
      | _ => rfl
  | judged request decision event =>
      cases reply with
      | recorded accepted =>
          simp only [Reply.unrecorded, resume, enact_unrecorded]
      | _ => rfl
  | opening =>
      cases reply with
      | opened answer => cases answer <;> rfl
      | _ => rfl
  | accepting outcome token thenCommit event =>
      cases reply with
      | recorded accepted =>
          cases thenCommit with
          | true => simp only [Reply.unrecorded, resume, if_true, commit_unrecorded]
          | false => rfl
      | _ => rfl
  | applying envelope key handler =>
      cases reply with
      | applied answer => cases answer <;> rfl
      | _ => rfl

end Gateway

namespace Traffic

/-- The traffic as it would have been if the sink had refused everything. -/
def unrecorded (s : Traffic) : Traffic :=
  { s with history := s.history.map GatewayEvent.unrecorded }

/-- The action, but that the sink refuses everything. -/
def Action.unrecorded : Action → Action
  | .reply call stamp given => .reply call stamp given.unrecorded
  | action => action

variable (s : Traffic) (call : CallId)

@[simp] theorem isNew_unrecorded : s.unrecorded.isNew call = s.isNew call := by
  simp [isNew, unrecorded, List.all_map, Function.comp_def]

@[simp] theorem place_unrecorded (calls : Table CallId Call) (progress : Progress) :
    place calls call progress.unrecorded = place calls call progress := by
  cases progress <;> rfl

theorem redemptionsAfter_unrecorded (now : Moment) (stage : Call) :
    (s.redemptionsAfter call now stage).map GatewayEvent.unrecorded =
      s.unrecorded.redemptionsAfter call now stage := by
  cases stage with
  | accepting outcome token thenCommit event => cases thenCommit <;> rfl
  | _ => rfl

theorem advance_unrecorded (now : Moment) (seen : List GatewayEvent)
    (after : Gateway × Progress) :
    (s.advance call now seen after).unrecorded =
      s.unrecorded.advance call now (seen.map GatewayEvent.unrecorded)
        (after.1, after.2.unrecorded) := by
  simp [advance, unrecorded, Progress.events_unrecorded]

/-- To forget what the sink accepted makes no difference to what happens next. -/
theorem step_unrecorded (action : Action) :
    (s.step action).unrecorded = s.unrecorded.step action.unrecorded := by
  cases action with
  | register | purge => simp [step, unrecorded, Action.unrecorded, GatewayEvent.unrecorded]
  | request call stamp envelope thenCommit =>
      simp only [step, Action.unrecorded, isNew_unrecorded]
      split
      · rw [advance_unrecorded, Gateway.request_unrecorded]
        rfl
      · rfl
  | commit call stamp token =>
      simp only [step, Action.unrecorded, isNew_unrecorded]
      split
      · rw [advance_unrecorded, Gateway.commit_unrecorded]
        rfl
      · rfl
  | reply call stamp reply =>
      have hcalls : s.unrecorded.calls = s.calls := rfl
      simp only [step, Action.unrecorded, hcalls]
      split
      next stage hstage =>
        simp only [Awaited.expects_unrecorded]
        split
        · rw [advance_unrecorded, List.map_cons, redemptionsAfter_unrecorded,
            ← Gateway.resume_unrecorded]
          rfl
        · rfl
      next => rfl
  | drop call now =>
      have hcalls : s.unrecorded.calls = s.calls := rfl
      simp only [step, Action.unrecorded, hcalls]
      split
      · rw [advance_unrecorded]
        rfl
      · rfl

end Traffic

end Gatehouse
