import Gatehouse.Proofs.Gateway.Lock

/-! # Applied once, replayed ever after

Once a handler has carried out a write under a key, the ledger keeps the
outcome and never lets go of it: the key is not held at that moment by anybody
else, later commits find the outcome before they come to a handler, and calls
that end late find nothing to take back. So there is one application for each
key, and every later commit repeats what it brought.
-/

namespace Gatehouse.Traffic

/-- At this place a handler answered that it carried out a write under the key. -/
def AppliedAt (history : List GatewayEvent) (place : Nat) (call : CallId) (envelope : Envelope)
    (key : WriteKey) (data : Json) : Prop :=
  envelope.resolvedKey = some key ∧
    ∃ handler, history[place]? =
      some (.replied call (.handler handler envelope) (.applied (.ok data)))

/-- The call ends with the outcome: it waits for its end to be recorded, or was answered since, with
the name of that record in the outcome, or was dropped before. -/
def EndsWith (s : Traffic) (call : CallId) (outcome : WriteOutcome) : Prop :=
  (∃ event, s.calls.get? call = some (.closing outcome event)) ∨
    (∃ auditId, s.lastSeen call = some (.answered call { outcome with auditId := auditId })) ∨
    s.lastSeen call = some (.dropped call)

theorem endsWith_congr {s next : Traffic} {call : CallId} {outcome : WriteOutcome}
    (hcall : next.calls.get? call = s.calls.get? call)
    (hlast : next.lastSeen call = s.lastSeen call) :
    next.EndsWith call outcome ↔ s.EndsWith call outcome := by
  simp [EndsWith, hcall, hlast]

section Turned

variable {s : Traffic} {call : CallId} {now : Moment} {stage? : Option Call}
  {seen : List GatewayEvent} {after : Gateway × Progress}

/-- A call that ends with an outcome goes on to end with it. -/
theorem EndsWith.turned (htold : s.Told) (hstage : s.calls.get? call = stage?)
    (hnew : stage? = none → s.isNew call) (hturn : Turn s.gateway call now stage? seen after)
    {other : CallId} {outcome : WriteOutcome} (hends : s.EndsWith other outcome) :
    (s.advance call now seen after).EndsWith other outcome := by
  by_cases hother : other = call
  · subst other
    -- A call whose end has been seen is neither in flight nor new.
    have hend : ∀ event, s.lastSeen call = some event → (∀ whom, event ≠ .asked call whom) →
        False := by
      intro event hlast hevent
      cases stage? with
      | none =>
          rw [lastSeen, trail_of_isNew (hnew rfl)] at hlast
          contradiction
      | some stage =>
          have hasked := (htold call stage.awaits).mpr (by rw [hstage]; rfl)
          exact hevent _ (Option.some.inj (hlast.symm.trans hasked))
    rcases hends with ⟨event, hclosing⟩ | ⟨auditId, hlast⟩ | hlast
    · obtain rfl := hstage.symm.trans hclosing
      cases hturn with
      | talked stage reply progress hexpects htalks => cases htalks
      | committed _ earlier stamp token _ hnow hredeems hcommits => cases hredeems
      | closed _ _ accepted =>
          refine .inr (.inl ⟨Gateway.recordId event accepted, ?_⟩)
          rw [lastSeen_advance (.closed outcome event accepted)]
          rfl
      | left _ hheld =>
          refine .inr (.inr ?_)
          rw [lastSeen_advance (.left _ hheld)]
          rfl
    · exact (hend _ hlast (by simp)).elim
    · exact (hend _ hlast (by simp)).elim
  · refine (endsWith_congr ?_ ?_).mpr hends
    · rw [advance, get?_place, if_neg hother]
    · rw [lastSeen, trail_advance_ne hturn hother, ← lastSeen]

theorem AppliedAt.turned (hkeyed : s.Keyed) (hstage : s.calls.get? call = stage?)
    (hturn : Turn s.gateway call now stage? seen after) {place : Nat} {other : CallId}
    {envelope : Envelope} {key : WriteKey} {data : Json}
    (happlied : AppliedAt (s.advance call now seen after).history place other envelope key data) :
    place < s.history.length ∧ AppliedAt s.history place other envelope key data ∨
      s.history.length ≤ place ∧ call = other ∧
        (∃ handler, stage? = some (.applying envelope key handler) ∧
          seen = [.replied call (.handler handler envelope) (.applied (.ok data))]) ∧
        ∃ event, after = (s.gateway.finished envelope key (.ok data) now,
          .waiting (.closing (Gateway.settledOutcome envelope key (.ok data)) event)) := by
  obtain ⟨hkey, handler, hplace⟩ := happlied
  rcases place_cases hplace with ⟨hlt, hbefore⟩ | ⟨hle, hadded⟩
  · exact .inl ⟨hlt, hkey, handler, hbefore⟩
  · obtain ⟨held, answer, event, hanswer, rfl, hseen, hafter, hother⟩ := hturn.of_applied hadded
    obtain rfl := Reply.applied.inj hanswer
    obtain rfl := Option.some.inj (hkey.symm.trans (hkeyed call _ hstage))
    exact .inr ⟨hle, hother, ⟨handler, rfl, hseen⟩, event, hafter⟩

end Turned

/-- What the ledger and the calls in flight know about the writes that were applied. -/
structure Remembers (s : Traffic) : Prop where
  keeps : ∀ {place call envelope key data}, AppliedAt s.history place call envelope key data →
    s.gateway.ledger.Keeps key (Gateway.settledOutcome envelope key (.ok data))
  single : ∀ {first second call other envelope write key data found},
    AppliedAt s.history first call envelope key data →
    AppliedAt s.history second other write key found → first = second
  rests : ∀ {place later call other envelope handler write key data},
    AppliedAt s.history place call envelope key data → place < later →
    s.history[later]? = some (.asked other (.handler handler write)) → write.resolvedKey ≠ some key
  applies : ∀ {place call envelope key data}, AppliedAt s.history place call envelope key data →
    s.EndsWith call (Gateway.settledOutcome envelope key (.ok data))
  replays : ∀ {place later call other envelope token now write key data},
    AppliedAt s.history place call envelope key data → place < later →
    s.history[later]? = some (.redeemed other token now (.valid write)) →
    write.resolvedKey = some key →
    s.EndsWith other
      (Gateway.replayedOutcome write key (Gateway.settledOutcome envelope key (.ok data)))

theorem remembers_start (opensApprovals : Bool) (ttl : Span) :
    (start opensApprovals ttl).Remembers := by
  constructor <;> simp [AppliedAt, start]

theorem AppliedAt.of_silent {history : List GatewayEvent} {event : GatewayEvent}
    (hsilent : event.call? = none) {place : Nat} {call : CallId} {envelope : Envelope}
    {key : WriteKey} {data : Json}
    (happlied : AppliedAt (history ++ [event]) place call envelope key data) :
    AppliedAt history place call envelope key data := by
  obtain ⟨hkey, handler, hplace⟩ := happlied
  exact ⟨hkey, handler, place_of_silent hsilent hplace rfl⟩

/-- What is about no call leaves everything known about calls as it is. -/
theorem Remembers.silent {s : Traffic} (hremembers : s.Remembers) {gateway : Gateway}
    (hledger : gateway.ledger = s.gateway.ledger) {event : GatewayEvent}
    (hsilent : event.call? = none) :
    Remembers { s with gateway := gateway, history := s.history ++ [event] } := by
  have hends : ∀ {call outcome},
      EndsWith { s with gateway := gateway, history := s.history ++ [event] } call outcome ↔
        s.EndsWith call outcome := by
    intro call outcome
    refine endsWith_congr rfl ?_
    rw [lastSeen, trail_append_of_none _ _ hsilent, ← lastSeen]
  constructor
  case keeps =>
    intro place call envelope key data happlied
    simp only [hledger]
    exact hremembers.keeps (happlied.of_silent hsilent)
  case single =>
    intro first second call other envelope write key data found hfirst hsecond
    exact hremembers.single (hfirst.of_silent hsilent) (hsecond.of_silent hsilent)
  case rests =>
    intro place later call other envelope handler write key data happlied hlater hasked
    exact hremembers.rests (happlied.of_silent hsilent) hlater (place_of_silent hsilent hasked rfl)
  case applies =>
    intro place call envelope key data happlied
    exact hends.mpr (hremembers.applies (happlied.of_silent hsilent))
  case replays =>
    intro place later call other envelope token now write key data happlied hlater hredeemed hkey
    exact hends.mpr (hremembers.replays (happlied.of_silent hsilent) hlater
      (place_of_silent hsilent hredeemed rfl) hkey)

/-- A key whose write was applied is neither held nor to be had. -/
theorem Remembers.not_held {s : Traffic} (hremembers : s.Remembers) (hlocked : s.Locked)
    {place : Nat} {call other : CallId} {envelope : Envelope} {key : WriteKey} {data : Json}
    (happlied : AppliedAt s.history place call envelope key data) : ¬ s.Holds other key := by
  intro hholds
  exact (hremembers.keeps happlied).not_marks (hlocked.marks_iff.mpr ⟨other, hholds⟩)

section Turned

variable {s : Traffic} {call : CallId} {now : Moment} {stage? : Option Call}
  {seen : List GatewayEvent} {after : Gateway × Progress}

/-- A commit of a write that was applied under its key repeats the outcome. -/
theorem Remembers.commit {token : String} {stamp : Stamp} (hremembers : s.Remembers)
    (hcommits : s.gateway.Commits stamp token after) {place : Nat} {applier : CallId}
    {envelope write : Envelope} {key : WriteKey} {data : Json}
    (happlied : AppliedAt s.history place applier envelope key data)
    (hworth : s.gateway.tokens.worth token stamp.now = .valid write)
    (hkey : write.resolvedKey = some key) :
    ∃ event, after.2 = .waiting (.closing (Gateway.replayedOutcome write key
      (Gateway.settledOutcome envelope key (.ok data))) event) := by
  have hkeeps := hremembers.keeps happlied
  rcases hcommits.of_valid hworth hkey with
    ⟨hmarks, _⟩ | ⟨stored, event, hstored, hafter⟩ | ⟨hreserved, _⟩
  · exact absurd hmarks hkeeps.not_marks
  · obtain rfl := hstored.unique hkeeps
    exact ⟨event, by rw [hafter]⟩
  · exact absurd hkeeps ((KeyLedger.begin_reserved_iff.mp hreserved).2 _)

theorem Remembers.stage_free (hremembers : s.Remembers) (hlocked : s.Locked)
    (hstage : s.calls.get? call = stage?) {place : Nat} {applier : CallId} {envelope : Envelope}
    {key : WriteKey} {data : Json}
    (happlied : AppliedAt s.history place applier envelope key data) :
    stage?.bind Call.heldKey? ≠ some key := by
  intro hheld
  rw [← hstage] at hheld
  exact hremembers.not_held hlocked happlied (holds_iff.mpr hheld)

theorem Remembers.turned (hremembers : s.Remembers) (hlocked : s.Locked) (htold : s.Told)
    (hkeyed : s.Keyed) (horder : (s.advance call now seen after).InOrder)
    (hstage : s.calls.get? call = stage?) (hnew : stage? = none → s.isNew call)
    (hturn : Turn s.gateway call now stage? seen after) :
    (s.advance call now seen after).Remembers := by
  have hends : ∀ {other outcome}, s.EndsWith other outcome →
      (s.advance call now seen after).EndsWith other outcome :=
    EndsWith.turned htold hstage hnew hturn
  constructor
  case keeps =>
    intro place other envelope key data happlied
    rcases happlied.turned hkeyed hstage hturn with
      ⟨_, hbefore⟩ | ⟨_, _, _, event, hafter⟩
    · exact hturn.keeps (hremembers.stage_free hlocked hstage hbefore) (hremembers.keeps hbefore)
    · rw [advance, hafter]
      exact KeyLedger.keeps_finish_succeeded _ _ _ _
  case single =>
    intro first second other another envelope write key data found hfirst hsecond
    -- Nobody holds an applied key, so both are old or both are the same milestone of one call.
    obtain ⟨_, handler, hfirstPlace⟩ := id hfirst
    obtain ⟨_, bound, hsecondPlace⟩ := id hsecond
    rcases hfirst.turned hkeyed hstage hturn with
      ⟨_, hbefore⟩ | ⟨_, rfl, ⟨_, hholder, _⟩, _⟩ <;>
    rcases hsecond.turned hkeyed hstage hturn with
      ⟨_, hbefore'⟩ | ⟨_, rfl, ⟨_, hholder', _⟩, _⟩
    · exact hremembers.single hbefore hbefore'
    · exact absurd (by rw [hholder']; rfl) (hremembers.stage_free hlocked hstage hbefore)
    · exact absurd (by rw [hholder]; rfl) (hremembers.stage_free hlocked hstage hbefore')
    · exact horder.place_unique hfirstPlace hsecondPlace rfl rfl rfl rfl
  case rests =>
    intro place later applier other envelope handler write key data happlied hlater hasked hkey
    rcases place_cases hasked with ⟨hlt, hasked⟩ | ⟨_, hadded⟩
    · rcases happlied.turned hkeyed hstage hturn with ⟨_, hbefore⟩ | ⟨hle, _⟩
      · exact hremembers.rests hbefore hlater hasked hkey
      · omega
    · obtain ⟨earlier, token, held, hseen, hheld, hreserved, _⟩ := hturn.of_asked_handler hadded
      obtain rfl := Option.some.inj (hkey.symm.trans hheld)
      rcases happlied.turned hkeyed hstage hturn with
        ⟨_, hbefore⟩ | ⟨_, _, ⟨_, _, hseen'⟩, _⟩
      · exact (KeyLedger.begin_reserved_iff.mp hreserved).2 _ (hremembers.keeps hbefore)
      · simp [hseen', List.singleton_eq_append_iff] at hseen
  case applies =>
    intro place other envelope key data happlied
    rcases happlied.turned hkeyed hstage hturn with
      ⟨_, hbefore⟩ | ⟨_, rfl, _, event, hafter⟩
    · exact hends (hremembers.applies hbefore)
    · refine .inl ⟨event, ?_⟩
      rw [advance, get?_place, if_pos rfl, hafter]
      rfl
  case replays =>
    intro place later applier other envelope token moment write key data happlied hlater hredeemed
      hkey
    rcases place_cases hredeemed with ⟨hlt, hredeemed⟩ | ⟨_, hadded⟩
    · rcases happlied.turned hkeyed hstage hturn with ⟨_, hbefore⟩ | ⟨hle, _⟩
      · exact hends (hremembers.replays hbefore hlater hredeemed hkey)
      · omega
    · obtain ⟨earlier, stamp, hseen, rfl, _, hcommits, rfl, rfl, hworth⟩ :=
        hturn.of_redeemed hadded
      rcases happlied.turned hkeyed hstage hturn with
        ⟨_, hbefore⟩ | ⟨_, _, ⟨_, _, hseen'⟩, _⟩
      · obtain ⟨event, hafter⟩ := hremembers.commit hcommits hbefore hworth.symm hkey
        refine .inl ⟨event, ?_⟩
        rw [advance, get?_place, if_pos rfl, hafter]
        rfl
      · simp [hseen', List.singleton_eq_append_iff] at hseen

end Turned

theorem remembers_step {s next : Traffic} (hstep : Step s next) (hsound : s.Sound)
    (hnext : next.Sound) (hremembers : s.Remembers) : next.Remembers := by
  cases hstep with
  | still => exact hremembers
  | registered command handler => exact hremembers.silent (by rfl) (by rfl)
  | purged now => exact hremembers.silent (by rfl) (by rfl)
  | turned call now stage? seen after hstage hnew hturn =>
      exact hremembers.turned hsound.locked hsound.told hsound.keyed hnext.inOrder hstage hnew hturn

/-- What it takes for writes under a key to be applied at most once and replayed ever after. -/
structure AppliesOnce (s : Traffic) (key : WriteKey) : Prop where
  /-- At most one call of a handler for the key succeeds. -/
  single : ∀ {first second call other envelope write data found},
    AppliedAt s.history first call envelope key data →
    AppliedAt s.history second other write key found → first = second
  /-- Once it has, no handler is called for the key again. -/
  rests : ∀ {place later call other envelope handler write data},
    AppliedAt s.history place call envelope key data → place < later →
    s.history[later]? = some (.asked other (.handler handler write)) → write.resolvedKey ≠ some key
  /-- The commit that applied the write ends with what the handler brought. -/
  applies : ∀ {place call envelope data}, AppliedAt s.history place call envelope key data →
    s.EndsWith call
      { WriteOutcome.new .applied envelope.id with data := some data, key := some key }
  /-- Every later commit of a valid token for the key ends with the same, under its own name. -/
  replays : ∀ {place later call other envelope token now write data},
    AppliedAt s.history place call envelope key data → place < later →
    s.history[later]? = some (.redeemed other token now (.valid write)) →
    write.resolvedKey = some key →
    s.EndsWith other
      { WriteOutcome.new .replayed write.id with data := some data, key := some key }

/-- In every run writes under one key are applied at most once and replayed ever after. -/
theorem run_appliesOnce (opensApprovals : Bool) (ttl : Span) (actions : List Action)
    (key : WriteKey) : ((start opensApprovals ttl).run actions).AppliesOnce key := by
  have hremembers : ((start opensApprovals ttl).run actions).Remembers :=
    run_keeps_sound remembers_step (remembers_start opensApprovals ttl) actions
  exact ⟨hremembers.single, hremembers.rests, hremembers.applies, hremembers.replays⟩

/-- Two calls bring the same write. The second was allowed before the first one's handler answered,
and ends with what that handler brought. -/
example :
    let envelope : String → Envelope := fun id =>
      ⟨"send", "ana", "mail:1", .null, none, some "run", some ⟨"key"⟩, none, ⟨id⟩, .ofNanos 0⟩
    let stamp : String → Stamp := fun token => ⟨.ofNanos 0, "id", "event", token⟩
    let s := (start true (.ofSeconds 60)).run [
      .register "send" ⟨0⟩,
      .request ⟨1⟩ (stamp "") (envelope "w1") true,
      .reply ⟨1⟩ (stamp "") (.recorded true),
      .reply ⟨1⟩ (stamp "") (.decided (.ok (.allow none))),
      .reply ⟨1⟩ (stamp "t1") (.recorded true),
      .reply ⟨1⟩ (stamp "") (.recorded true),
      .request ⟨2⟩ (stamp "") (envelope "w2") true,
      .reply ⟨2⟩ (stamp "") (.recorded true),
      .reply ⟨2⟩ (stamp "") (.decided (.ok (.allow none))),
      .reply ⟨2⟩ (stamp "t2") (.recorded true),
      .reply ⟨1⟩ (stamp "") (.applied (.ok (.bool true))),
      .reply ⟨2⟩ (stamp "") (.recorded true),
      .reply ⟨2⟩ (stamp "") (.recorded false)]
    s.lastSeen ⟨2⟩ = some (.answered ⟨2⟩
      { WriteOutcome.new .replayed ⟨"w2"⟩ with data := some (.bool true), key := some ⟨"key"⟩ }) :=
  rfl

end Gatehouse.Traffic
