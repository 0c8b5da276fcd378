import Gatehouse.Proofs.Gateway.Grounds

/-! # What the name of a record tells

Every call offers its events to the sink in one order, and the last of them, if
it tells the answer of the call, is the one that the answer is named after. So an
answer names a record exactly where the sink accepted an event that tells it, and
answers that no event tells name none.
-/

namespace Gatehouse

/-- The type of the events that tell answers of a status. That a token was worth nothing is told to
nobody. -/
def WriteStatus.eventType? : WriteStatus → Option String
  | .accepted => some "write.accepted"
  | .requiresApproval => some "write.approval_required"
  | .rejected => some "write.rejected"
  | .applied => some "write.applied"
  | .replayed => some "write.idempotent_replay"
  | .failed => some "write.failed"
  | .invalidToken => none

/-- The event tells the answer. -/
def AuditEvent.Tells (event : AuditEvent) (outcome : WriteOutcome) : Prop :=
  outcome.status.eventType? = some event.type ∧ event.writeId = some outcome.writeId.text

/-- The event that a sink has replied about, and whether it accepted it. -/
def GatewayEvent.record? : GatewayEvent → Option (AuditEvent × Bool)
  | .replied _ (.sink event) (.recorded accepted) => some (event, accepted)
  | _ => none

namespace Call

/-- The types of the events that the sink may have replied about where a call waits. -/
def offered : Call → List String
  | .receiving .. => []
  | .evaluating _ | .judged .. => ["write.received"]
  | .opening .. | .accepting .. => ["write.received", "write.policy_evaluated"]
  | .applying .. | .closing .. => ["write.received", "write.policy_evaluated", "write.accepted"]

/-- The types of the events that the sink may have replied about when a call goes on. -/
def offeredNext : Call → List String
  | .receiving .. | .evaluating _ => ["write.received"]
  | .judged .. | .opening .. => ["write.received", "write.policy_evaluated"]
  | .accepting .. | .applying .. | .closing .. =>
    ["write.received", "write.policy_evaluated", "write.accepted"]

/-- The event that a call offers is the one that is due there. -/
def Offers : Call → Prop
  | .receiving _ event => event.type = "write.received"
  | .judged _ _ event => event.type = "write.policy_evaluated"
  | .accepting outcome _ _ event => event.type = "write.accepted" ∧ event.Tells outcome
  | .closing outcome event =>
    event.type ∉ ["write.received", "write.policy_evaluated", "write.accepted"] ∧
      event.Tells outcome
  | .evaluating _ | .opening .. | .applying .. => True

theorem offered_subset (stage : Call) : stage.offered ⊆ stage.offeredNext := by
  cases stage <;> simp [offered, offeredNext]

end Call

/-- A call that got so far offers the event that is due, and if it is answered already no event
tells the answer and it names none. -/
def Progress.Offers (past : List String) : Progress → Prop
  | .waiting stage => stage.Offers ∧ past ⊆ stage.offered
  | .answered outcome =>
    outcome.auditId = none ∧ ∀ type ∈ past, outcome.status.eventType? ≠ some type
  | .broken => True

theorem Progress.Offers.mono {past earlier : List String} {progress : Progress}
    (hoffers : progress.Offers past) (hsubset : earlier ⊆ past) : progress.Offers earlier := by
  cases progress with
  | waiting stage => exact ⟨hoffers.1, List.Subset.trans hsubset hoffers.2⟩
  | answered outcome => exact ⟨hoffers.1, fun type htype => hoffers.2 type (hsubset htype)⟩
  | broken => trivial

namespace Gateway

theorem request_offers (stamp : Stamp) (envelope : Envelope) (thenCommit : Bool) :
    (request stamp envelope thenCommit).Offers [] := by
  unfold request
  split
  · exact ⟨rfl, List.nil_subset _⟩
  · exact ⟨rfl, by simp⟩

theorem refuse_offers (stamp : Stamp) (request : WriteRequest) (reason : String) :
    (refuse stamp request reason).Offers ["write.received", "write.policy_evaluated"] := by
  refine ⟨⟨?_, rfl, rfl⟩, ?_⟩
  · simp [AuditEvent.withData, AuditEvent.forWrite, AuditEvent.new]
  · simp [Call.offered]

theorem park_offers (stamp : Stamp) (request : WriteRequest) (reason approval : String) :
    (park stamp request reason approval).Offers ["write.received", "write.policy_evaluated"] := by
  refine ⟨⟨?_, rfl, rfl⟩, ?_⟩
  · simp [AuditEvent.withData, AuditEvent.forWrite, AuditEvent.new]
  · simp [Call.offered]

theorem settle_offers (g : Gateway) (stamp : Stamp) (envelope : Envelope) (key : WriteKey)
    (answer : Except String Json) : (g.settle stamp envelope key answer).2.Offers
      ["write.received", "write.policy_evaluated", "write.accepted"] := by
  cases answer <;> refine ⟨⟨?_, rfl, rfl⟩, List.Subset.refl _⟩ <;>
    simp [AuditEvent.withData, AuditEvent.forWrite, AuditEvent.new]

theorem commit_offers (g : Gateway) (stamp : Stamp) (token : String) :
    (g.commit stamp token).2.Offers
      ["write.received", "write.policy_evaluated", "write.accepted"] := by
  cases hworth : g.tokens.worth token stamp.now with
  | unknown | expired envelope =>
      simp [commit, CommitTokens.take, hworth, Progress.Offers, WriteOutcome.new,
        WriteStatus.eventType?]
  | valid envelope =>
      cases hkey : envelope.resolvedKey with
      | none =>
          simp [commit, CommitTokens.take, hworth, hkey, Progress.Offers, WriteOutcome.new,
            WriteStatus.eventType?]
      | some key =>
          rw [commit_of_valid hworth hkey]
          rcases (g.spend token).apply_cases stamp envelope key with ⟨_, happly⟩ |
            ⟨stored, _, happly⟩ | ⟨_, ⟨handler, _, happly⟩ | ⟨_, happly⟩⟩
          · rw [happly]
            simp [Progress.Offers, busyOutcome, WriteOutcome.new, WriteStatus.eventType?]
          · rw [happly]
            refine ⟨⟨?_, rfl, rfl⟩, List.Subset.refl _⟩
            simp [AuditEvent.withData, AuditEvent.forWrite, AuditEvent.new]
          · rw [happly]
            exact ⟨trivial, List.Subset.refl _⟩
          · rw [happly]
            exact settle_offers ..

theorem enact_offers (g : Gateway) (stamp : Stamp) (request : WriteRequest)
    (decision : Decision) : (g.enact stamp request decision).2.Offers
      ["write.received", "write.policy_evaluated"] := by
  cases decision with
  | deny reason => exact refuse_offers ..
  | requiresApproval reason approval payload =>
      cases approval with
      | some approval => exact park_offers ..
      | none =>
          simp only [enact]
          split
          · exact ⟨trivial, List.Subset.refl _⟩
          · exact park_offers ..
  | allow reason =>
      simp only [enact, accept]
      split
      · trivial
      · exact ⟨⟨rfl, rfl, rfl⟩, List.Subset.refl _⟩

/-- A call that goes on by a reply offers its next event, or is answered after the record of the
event that tells its answer. -/
theorem resume_offers (g : Gateway) (stamp : Stamp) {stage : Call} {reply : Reply}
    (hoffers : stage.Offers) (hexpects : stage.awaits.expects reply) :
    (∃ outcome event accepted, stage.awaits = .sink event ∧ reply = .recorded accepted ∧
      (g.resume stamp stage reply).2 =
        .answered { outcome with auditId := recordId event accepted } ∧
      event.Tells outcome ∧ event.type ∉ stage.offered) ∨
    (∀ event, stage.awaits = .sink event → event.type ∈ stage.offeredNext) ∧
      (g.resume stamp stage reply).2.Offers stage.offeredNext := by
  have hsubset : ["write.received"] ⊆ ["write.received", "write.policy_evaluated"] := by simp
  cases Call.expects_cases hexpects with
  | receiving request event accepted =>
      refine .inr ⟨?_, trivial, List.Subset.refl _⟩
      rintro _ ⟨⟩
      simp [Call.offeredNext, show event.type = _ from hoffers]
  | evaluating request answer =>
      refine .inr ⟨fun _ hsink => by contradiction, ?_⟩
      cases answer with
      | error fault => exact (refuse_offers ..).mono hsubset
      | ok decision => exact ⟨rfl, List.Subset.refl _⟩
  | judged request decision event accepted =>
      refine .inr ⟨?_, enact_offers ..⟩
      rintro _ ⟨⟩
      simp [Call.offeredNext, show event.type = _ from hoffers]
  | opening request reason payload answer =>
      refine .inr ⟨fun _ hsink => by contradiction, ?_⟩
      cases answer <;> exact park_offers ..
  | accepting outcome token thenCommit event accepted =>
      obtain ⟨htype, htells⟩ := hoffers
      cases thenCommit with
      | true =>
          refine .inr ⟨?_, commit_offers ..⟩
          rintro _ ⟨⟩
          simp [Call.offeredNext, htype]
      | false =>
          exact .inl ⟨outcome, event, accepted, rfl, rfl, rfl, htells,
            by simp [Call.offered, htype]⟩
  | applying envelope key handler answer =>
      exact .inr ⟨fun _ hsink => by contradiction, settle_offers ..⟩
  | closing outcome event accepted =>
      exact .inl ⟨outcome, event, accepted, rfl, rfl, rfl, hoffers.2, hoffers.1⟩

end Gateway

namespace Traffic

/-- The events of a call that the sink has replied about, and whether it accepted them. -/
def records (s : Traffic) (call : CallId) : List (AuditEvent × Bool) :=
  (s.trail call).filterMap GatewayEvent.record?

/-- The answer names a record exactly where the sink accepted an event of the call that tells it. -/
def NamesRecord (s : Traffic) (call : CallId) (outcome : WriteOutcome) : Prop :=
  ∀ id, outcome.auditId = some id ↔
    ∃ event, (event, true) ∈ s.records call ∧ event.Tells outcome ∧ event.id = id

/-- Calls in flight offer the events that are due, and answers name the records that tell them. -/
structure Audited (s : Traffic) : Prop where
  calls : ∀ call stage, s.calls.get? call = some stage →
    stage.Offers ∧ ∀ record ∈ s.records call, record.1.type ∈ stage.offered
  answered : ∀ call outcome, .answered call outcome ∈ s.history → s.NamesRecord call outcome

theorem audited_start (opens : Bool) (ttl : Span) : (start opens ttl).Audited where
  calls := by simp [start]
  answered := by simp [start]

theorem record?_events (call : CallId) (now : Moment) (progress : Progress) :
    (progress.events call now).filterMap GatewayEvent.record? = [] := by
  unfold Progress.events
  split <;> rfl

section Advance

variable {s : Traffic} {call : CallId} {now : Moment} {stage? : Option Call}
  {seen : List GatewayEvent} {after : Gateway × Progress}

theorem records_advance (hturn : Turn s.gateway call now stage? seen after) :
    (s.advance call now seen after).records call =
      s.records call ++ seen.filterMap GatewayEvent.record? := by
  rw [records, trail_advance hturn, List.filterMap_append, List.filterMap_append, record?_events,
    List.append_nil, records]

theorem records_advance_ne (hturn : Turn s.gateway call now stage? seen after) {other : CallId}
    (hother : other ≠ call) : (s.advance call now seen after).records other = s.records other := by
  rw [records, trail_advance_ne hturn hother, ← records]

/-- A call goes on that was not answered before, and what it goes on to is as it should be. -/
theorem Audited.advance (haudited : s.Audited)
    (hturn : Turn s.gateway call now stage? seen after)
    (hunanswered : ∀ outcome, .answered call outcome ∉ s.history)
    (hquiet : ∀ outcome, .answered call outcome ∉ seen)
    (hwaiting : ∀ stage, after.2 = .waiting stage → stage.Offers ∧
      ∀ record ∈ (s.advance call now seen after).records call, record.1.type ∈ stage.offered)
    (hanswered : ∀ outcome, after.2 = .answered outcome →
      (s.advance call now seen after).NamesRecord call outcome) :
    (s.advance call now seen after).Audited where
  calls := by
    intro other stage hplaced
    rw [Traffic.advance, get?_place] at hplaced
    split at hplaced
    next heq =>
      subst heq
      refine hwaiting stage ?_
      generalize after.2 = progress at hplaced
      cases progress with
      | waiting next => rw [Option.some.inj hplaced]
      | answered | broken => contradiction
    next hne =>
      rw [records_advance_ne hturn hne]
      exact haudited.calls other stage hplaced
  answered := by
    intro other outcome hmem
    by_cases hother : other = call
    · subst hother
      rcases List.mem_append.mp hmem with hmem | hmem
      · exact absurd hmem (hunanswered outcome)
      · have hevents := (List.mem_append.mp hmem).resolve_left (hquiet outcome)
        exact hanswered outcome (progress_of_answered hevents)
    · have hbefore : .answered other outcome ∈ s.history := by
        refine (List.mem_append.mp hmem).resolve_right fun hadded => hother ?_
        exact Option.some.inj (hturn.call?_added hadded)
      rw [NamesRecord, records_advance_ne hturn hother]
      exact haudited.answered other outcome hbefore

theorem unanswered_of_isNew (hnew : s.isNew call) (outcome : WriteOutcome) :
    .answered call outcome ∉ s.history :=
  fun hmem => call?_ne_of_isNew hnew hmem rfl

/-- The end is the last milestone, and no call in flight has passed that. -/
theorem InOrder.not_over (horder : s.InOrder) {stage : Call}
    (hstage : s.calls.get? call = some stage) {event : GatewayEvent}
    (hcall : event.call? = some call) (hover : event.milestone? = some 6) : event ∉ s.history := by
  intro hmem
  have hend : 6 ∈ (s.trail call).filterMap GatewayEvent.milestone? :=
    List.mem_filterMap.mpr ⟨event, List.mem_filter.mpr ⟨hmem, by simp [hcall]⟩, hover⟩
  have hahead := (horder call).2 stage hstage 6 hend
  cases stage <;> simp [Call.ahead] at hahead

theorem InOrder.unanswered (horder : s.InOrder) {stage : Call}
    (hstage : s.calls.get? call = some stage) (outcome : WriteOutcome) :
    .answered call outcome ∉ s.history :=
  horder.not_over hstage rfl rfl

/-- A call that was answered without any record. -/
theorem namesRecord_of_unnamed {outcome : WriteOutcome} (hname : outcome.auditId = none)
    (huntold : ∀ record ∈ s.records call, outcome.status.eventType? ≠ some record.1.type) :
    s.NamesRecord call outcome := by
  intro id
  rw [hname]
  refine ⟨fun hnone => by contradiction, ?_⟩
  rintro ⟨event, hevent, htells, _⟩
  exact absurd htells.1 (huntold _ hevent)

/-- A call that was answered after the record of an event that no earlier one is like. -/
theorem namesRecord_of_last {past : List (AuditEvent × Bool)} {event : AuditEvent}
    {accepted : Bool} {outcome : WriteOutcome}
    (hrecords : s.records call = past ++ [(event, accepted)])
    (hpast : ∀ record ∈ past, record.1.type ≠ event.type) (htells : event.Tells outcome) :
    s.NamesRecord call { outcome with auditId := Gateway.recordId event accepted } := by
  intro id
  rw [hrecords]
  constructor
  · intro hname
    cases accepted with
    | false => contradiction
    | true => exact ⟨event, by simp, htells, Option.some.inj hname⟩
  · rintro ⟨other, hother, hothers, rfl⟩
    rcases List.mem_append.mp hother with hother | hother
    · have htype := Option.some.inj (hothers.1.symm.trans htells.1)
      exact absurd htype (hpast _ hother)
    · obtain ⟨rfl, rfl⟩ := Prod.mk.inj (List.mem_singleton.mp hother)
      rfl

end Advance

theorem Audited.silent {s : Traffic} (haudited : s.Audited) (gateway : Gateway)
    {event : GatewayEvent} (hsilent : event.call? = none) :
    Audited { s with gateway := gateway, history := s.history ++ [event] } where
  calls := by
    intro call stage hstage
    rw [records, trail_append_of_none _ _ hsilent]
    exact haudited.calls call stage hstage
  answered := by
    intro call outcome hmem
    have hbefore : .answered call outcome ∈ s.history := by
      refine (List.mem_append.mp hmem).resolve_right fun hadded => ?_
      rw [← List.mem_singleton.mp hadded] at hsilent
      contradiction
    rw [NamesRecord, records, trail_append_of_none _ _ hsilent]
    exact haudited.answered call outcome hbefore

/-- A call that goes on without a record of its answer. -/
theorem Audited.offering {s : Traffic} (haudited : s.Audited) {call : CallId} {now : Moment}
    {stage? : Option Call} {seen : List GatewayEvent} {after : Gateway × Progress}
    (hturn : Turn s.gateway call now stage? seen after)
    (hunanswered : ∀ outcome, .answered call outcome ∉ s.history)
    (hquiet : ∀ outcome, .answered call outcome ∉ seen) {past : List String}
    (hpast : ∀ record ∈ (s.advance call now seen after).records call, record.1.type ∈ past)
    (hoffers : after.2.Offers past) : (s.advance call now seen after).Audited := by
  refine haudited.advance hturn hunanswered hquiet ?_ ?_
  · intro stage hwaiting
    rw [hwaiting] at hoffers
    exact ⟨hoffers.1, fun record hrecord => hoffers.2 (hpast record hrecord)⟩
  · intro outcome hanswered
    rw [hanswered] at hoffers
    exact namesRecord_of_unnamed hoffers.1 fun record hrecord =>
      hoffers.2 _ (hpast record hrecord)

theorem record?_redemptionsAfter (s : Traffic) (call : CallId) (now : Moment) (stage : Call) :
    (s.redemptionsAfter call now stage).filterMap GatewayEvent.record? = [] := by
  unfold redemptionsAfter
  split <;> rfl

theorem audited_motion {s next : Traffic} (hmotion : Motion s next) (horder : s.InOrder)
    (haudited : s.Audited) : next.Audited := by
  cases hmotion with
  | still => exact haudited
  | registered command handler => exact haudited.silent _ (by rfl)
  | purged now => exact haudited.silent _ (by rfl)
  | requested call stamp envelope thenCommit hnew =>
      have hturn := s.gateway.request_turn call stamp envelope thenCommit
      refine haudited.offering hturn (unanswered_of_isNew hnew) (by simp) ?_
        (Gateway.request_offers stamp envelope thenCommit)
      rw [records_advance hturn, records, trail_of_isNew hnew]
      simp [GatewayEvent.record?]
  | committed call stamp token hnew =>
      have hturn : Turn s.gateway call stamp.now none [s.redemption call token stamp.now] _ :=
        .committed none [] stamp token _ rfl .outright (s.gateway.commit_commits stamp token)
      refine haudited.offering hturn (unanswered_of_isNew hnew) (by simp [redemption]) ?_
        (s.gateway.commit_offers stamp token)
      rw [records_advance hturn, records, trail_of_isNew hnew]
      simp [redemption, GatewayEvent.record?]
  | resumed call stamp stage reply hstage hexpects =>
      have hturn := Gateway.resume_turn s call stamp stage reply hexpects
      have hunanswered := horder.unanswered hstage
      have hquiet : ∀ outcome, .answered call outcome ∉
          .replied call stage.awaits reply :: s.redemptionsAfter call stamp.now stage := by
        intro outcome hmem
        rcases List.mem_cons.mp hmem with hmem | hmem
        · contradiction
        · unfold redemptionsAfter at hmem
          split at hmem <;> simp [redemption] at hmem
      obtain ⟨hoffers, hpast⟩ := haudited.calls call stage hstage
      have hrecords := records_advance hturn
      rcases s.gateway.resume_offers stamp hoffers hexpects with
        ⟨outcome, event, accepted, hsink, rfl, hafter, htells, hfresh⟩ | ⟨hsink, hnext⟩
      · have hrecord :
            (GatewayEvent.replied call stage.awaits (.recorded accepted)).record? =
              some (event, accepted) := by
          rw [hsink]
          rfl
        rw [List.filterMap_cons_some hrecord, record?_redemptionsAfter] at hrecords
        refine haudited.advance hturn hunanswered hquiet ?_ ?_
        · intro next hwaiting
          rw [hafter] at hwaiting
          contradiction
        · intro given hgiven
          obtain rfl := Progress.answered.inj (hafter.symm.trans hgiven)
          refine namesRecord_of_last hrecords (fun record hrecord htype => hfresh ?_) htells
          rw [← htype]
          exact hpast record hrecord
      · refine haudited.offering hturn hunanswered hquiet ?_ hnext
        intro record hrecord
        rw [hrecords, List.filterMap_cons, record?_redemptionsAfter] at hrecord
        rcases List.mem_append.mp hrecord with hrecord | hrecord
        · exact stage.offered_subset (hpast record hrecord)
        · cases hwhom : stage.awaits with
          | sink event =>
              rw [hwhom] at hrecord
              cases reply <;> simp [GatewayEvent.record?] at hrecord
              rw [hrecord]
              exact hsink event hwhom
          | _ => simp [hwhom, GatewayEvent.record?] at hrecord
  | dropped call now stage hstage =>
      refine haudited.advance (s.gateway.abandon_turn call now stage)
        (horder.unanswered hstage) (by simp) ?_ ?_
      · exact fun next hwaiting => by contradiction
      · exact fun outcome hanswered => by contradiction

theorem audited_run (opens : Bool) (ttl : Span) (actions : List Action) :
    ((start opens ttl).run actions).Audited := by
  induction actions using List.reverseRecOn with
  | nil => exact audited_start opens ttl
  | append_singleton actions action ih =>
      rw [run_concat]
      exact audited_motion (((start opens ttl).run actions).motion_cases action)
        (inOrder_run opens ttl actions) ih

end Traffic

end Gatehouse
