import Gatehouse.Gateway.Basic
import Mathlib

/-! # Calls in flight

Any number of calls can be on their way through one gateway. Each of them rests
where it waits for somebody, and goes on when that somebody replies or ends
when it is dropped; meanwhile other calls move, handlers are registered and
tokens are purged. A run is any list of such actions: in which order they come,
what collaborators reply and what the clock shows is left open. An action that
does not fit the state changes nothing. The history keeps what could be seen
from outside, in order.
-/

namespace Gatehouse

/-- The name of a call in flight. -/
structure CallId where
  number : Nat
  deriving DecidableEq

/-- Whether somebody who is waited for can give a reply. -/
def Awaited.expects : Awaited → Reply → Bool
  | .sink _, .recorded _ => true
  | .evaluator _, .decided _ => true
  | .creator .., .opened _ => true
  | .handler .., .applied _ => true
  | _, _ => false

/-- What can be seen of a gateway from outside. -/
inductive GatewayEvent where
  /-- A command was bound to a handler. -/
  | registered (command : String) (handler : HandlerId)
  /-- The tokens whose time was over at a moment were dropped. -/
  | purged (now : Moment)
  /-- A call started to request a write. -/
  | requested (call : CallId) (envelope : Envelope)
  /-- A call put a write under a new token. -/
  | minted (call : CallId) (token : String) (now : Moment)
  /-- A call redeemed a token, which was worth what it was worth. -/
  | redeemed (call : CallId) (token : String) (now : Moment) (worth : Redemption)
  /-- A call turned to somebody and waits. -/
  | asked (call : CallId) (whom : Awaited)
  /-- Somebody gave the reply that a call waited for. -/
  | replied (call : CallId) (whom : Awaited) (reply : Reply)
  /-- A call was answered. -/
  | answered (call : CallId) (outcome : WriteOutcome)
  /-- A call was dropped or broke down. -/
  | dropped (call : CallId)

/-- The call that an event is about. -/
def GatewayEvent.call? : GatewayEvent → Option CallId
  | .registered .. | .purged _ => none
  | .requested call _ | .minted call .. | .redeemed call .. | .asked call _ | .replied call ..
  | .answered call _ | .dropped call => some call

namespace Progress

/-- Where a call waits that got so far. -/
def call? : Progress → Option Call
  | .waiting stage => some stage
  | .answered _ | .broken => none

/-- What can be seen of a call getting so far. -/
def events (call : CallId) (now : Moment) : Progress → List GatewayEvent
  | .answered outcome => [.answered call outcome]
  | .broken => [.dropped call]
  | .waiting (.accepting _ token _ event) => [.minted call token now, .asked call (.sink event)]
  | .waiting stage => [.asked call stage.awaits]

end Progress

/-- A gateway, the calls in flight by their names, and everything seen so far. -/
structure Traffic where
  gateway : Gateway
  calls : Table CallId Call
  history : List GatewayEvent

namespace Traffic

/-- What can happen to a gateway with calls in flight. -/
inductive Action where
  | register (command : String) (handler : HandlerId)
  | purge (now : Moment)
  /-- Somebody requests a write, and its commit right after the acceptance if that is wanted. -/
  | request (call : CallId) (stamp : Stamp) (envelope : Envelope) (thenCommit : Bool)
  /-- Somebody commits the write under a token. -/
  | commit (call : CallId) (stamp : Stamp) (token : String)
  /-- A call gets a reply. -/
  | reply (call : CallId) (stamp : Stamp) (reply : Reply)
  /-- A call is dropped by its caller, or breaks down together with whom it waits for. -/
  | drop (call : CallId) (now : Moment)

/-- A gateway as `Gateway.new` makes it, but that its tokens may last any span, and no calls. -/
def start (opensApprovals : Bool) (ttl : Span) : Traffic where
  gateway := ⟨opensApprovals, .empty, .new ttl, .empty⟩
  calls := .empty
  history := []

/-- The name of a call has not been given to any call so far. -/
def isNew (s : Traffic) (call : CallId) : Bool :=
  !s.calls.contains call && s.history.all fun event => event.call? ≠ some call

/-- A call is redeeming a token. -/
def redemption (s : Traffic) (call : CallId) (token : String) (now : Moment) : GatewayEvent :=
  .redeemed call token now (s.gateway.tokens.worth token now)

/-- The token that a call redeems as soon as it is answered where it waits. -/
def redemptionsAfter (s : Traffic) (call : CallId) (now : Moment) : Call → List GatewayEvent
  | .accepting _ token true _ => [s.redemption call token now]
  | _ => []

/-- The calls after one of them has got so far. -/
def place (calls : Table CallId Call) (call : CallId) : Progress → Table CallId Call
  | .waiting stage => calls.put call stage
  | .answered _ | .broken => calls.erase call

/-- A call goes on: what was seen of it, and what it made of the gateway and of itself. -/
def advance (s : Traffic) (call : CallId) (now : Moment) (seen : List GatewayEvent)
    (after : Gateway × Progress) : Traffic where
  gateway := after.1
  calls := place s.calls call after.2
  history := s.history ++ (seen ++ after.2.events call now)

/-- What an action makes of the traffic. -/
def step (s : Traffic) : Action → Traffic
  | .register command handler =>
    { s with
      gateway := s.gateway.register command handler
      history := s.history ++ [.registered command handler] }
  | .purge now =>
    { s with gateway := s.gateway.purge now, history := s.history ++ [.purged now] }
  | .request call stamp envelope thenCommit =>
    if s.isNew call then
      s.advance call stamp.now [.requested call envelope]
        (s.gateway, Gateway.request stamp envelope thenCommit)
    else s
  | .commit call stamp token =>
    if s.isNew call then
      s.advance call stamp.now [s.redemption call token stamp.now] (s.gateway.commit stamp token)
    else s
  | .reply call stamp reply =>
    match s.calls.get? call with
    | some stage =>
      if stage.awaits.expects reply then
        s.advance call stamp.now
          (.replied call stage.awaits reply :: s.redemptionsAfter call stamp.now stage)
          (s.gateway.resume stamp stage reply)
      else s
    | none => s
  | .drop call now =>
    match s.calls.get? call with
    | some stage => s.advance call now [] (s.gateway.abandon now stage, .broken)
    | none => s

/-- What a list of actions makes of the traffic. -/
def run (s : Traffic) (actions : List Action) : Traffic :=
  actions.foldl step s

/-- What holds at the start and is kept by every action holds throughout a run. -/
theorem run_invariant {holds : Traffic → Prop} (hstep : ∀ s action, holds s → holds (s.step action))
    {s : Traffic} (hstart : holds s) (actions : List Action) : holds (s.run actions) := by
  induction actions generalizing s with
  | nil => exact hstart
  | cons action rest ih => exact ih (hstep s action hstart)

theorem run_concat (s : Traffic) (before : List Action) (action : Action) :
    s.run (before ++ [action]) = (s.run before).step action :=
  List.foldl_concat ..

theorem run_append_cons (s : Traffic) (before after : List Action) (action : Action) :
    s.run (before ++ action :: after) = ((s.run before).step action).run after := by
  rw [run, List.foldl_append, List.foldl_cons]
  rfl

@[simp] theorem get?_place (calls : Table CallId Call) (call other : CallId) (progress : Progress) :
    (place calls call progress).get? other =
      if other = call then progress.call? else calls.get? other := by
  cases progress <;> simp only [place, Table.get?_put, Table.get?_erase, Progress.call?]

theorem get?_of_isNew {s : Traffic} {call : CallId} (hnew : s.isNew call) :
    s.calls.get? call = none := by
  simp only [isNew, Bool.and_eq_true, Bool.not_eq_true', Table.contains] at hnew
  simpa using hnew.1

theorem call?_ne_of_isNew {s : Traffic} {call : CallId} (hnew : s.isNew call)
    {event : GatewayEvent} (hevent : event ∈ s.history) : event.call? ≠ some call := by
  simp only [isNew, Bool.and_eq_true, List.all_eq_true, decide_eq_true_eq] at hnew
  exact hnew.2 event hevent

/-- Every event of a call that gets somewhere is about that call. -/
theorem call?_events {call : CallId} {now : Moment} {progress : Progress} {event : GatewayEvent}
    (hevent : event ∈ progress.events call now) : event.call? = some call := by
  unfold Progress.events at hevent
  split at hevent <;> simp only [List.mem_cons, List.not_mem_nil, or_false] at hevent
  · rw [hevent]; rfl
  · rw [hevent]; rfl
  · rcases hevent with rfl | rfl <;> rfl
  · rw [hevent]; rfl

/-- The action gives a call a reply or drops it. -/
def Action.concerns (call : CallId) : Action → Bool
  | .reply other _ _ | .drop other _ => other = call
  | _ => false

theorem get?_step_of_not_concerns {s : Traffic} {call : CallId} {stage : Call}
    (hstage : s.calls.get? call = some stage) {action : Action}
    (hconcerns : action.concerns call = false) : (s.step action).calls.get? call = some stage := by
  have hother : ∀ {other : CallId}, s.isNew other → call ≠ other := by
    rintro other hnew rfl
    rw [get?_of_isNew hnew] at hstage
    contradiction
  cases action with
  | register | purge => exact hstage
  | request other stamp envelope thenCommit =>
      simp only [step]
      split
      next hnew => rw [advance, get?_place, if_neg (hother hnew), hstage]
      next => exact hstage
  | commit other stamp token =>
      simp only [step]
      split
      next hnew => rw [advance, get?_place, if_neg (hother hnew), hstage]
      next => exact hstage
  | reply other stamp reply =>
      have hne : call ≠ other := fun heq => by simp [Action.concerns, heq] at hconcerns
      simp only [step]
      split
      · split
        · rw [advance, get?_place, if_neg hne, hstage]
        · exact hstage
      · exact hstage
  | drop other now =>
      have hne : call ≠ other := fun heq => by simp [Action.concerns, heq] at hconcerns
      simp only [step]
      split
      · rw [advance, get?_place, if_neg hne, hstage]
      · exact hstage

end Traffic

end Gatehouse
