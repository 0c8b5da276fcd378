import Gatehouse.Proofs.Gateway.Turn
import Gatehouse.Proofs.Places

/-! # The course of a call

What can be seen of one call among all that can be seen: its trail. The last
thing on the trail of a call in flight is whom it waits for, and the trail of
every call passes its milestones in one order and each of them at most once,
whatever happens to other calls in between.
-/

namespace Gatehouse

/-- The milestones of a call, numbered in their order: it requests a write, governance answers, it
mints a token, it redeems one, it turns to a handler, the handler answers, it ends. -/
def GatewayEvent.milestone? : GatewayEvent → Option Nat
  | .requested .. => some 0
  | .replied _ (.evaluator _) _ => some 1
  | .minted .. => some 2
  | .redeemed .. => some 3
  | .asked _ (.handler ..) => some 4
  | .replied _ (.handler ..) _ => some 5
  | .answered .. | .dropped _ => some 6
  | .registered .. | .purged _ | .asked .. | .replied .. => none

/-- No milestone from this one on has been passed where a call waits. -/
def Call.ahead : Call → Nat
  | .receiving .. | .evaluating _ => 1
  | .judged .. | .opening .. => 2
  | .accepting .. => 3
  | .applying .. => 5
  | .closing .. => 6

/-- The request that a call carries agrees with its envelope, and the key that it holds is the key
of its write. -/
def Call.Keyed : Call → Prop
  | .receiving request _ | .evaluating request | .judged request _ _ | .opening request _ _ =>
    request.Keyed
  | .applying envelope key _ => envelope.resolvedKey = some key
  | .accepting .. | .closing .. => True

/-- The last thing seen of a call that got so far. -/
def Progress.last (call : CallId) : Progress → GatewayEvent
  | .answered outcome => .answered call outcome
  | .broken => .dropped call
  | .waiting stage => .asked call stage.awaits

theorem Progress.getLast?_events (call : CallId) (now : Moment) (progress : Progress) :
    (progress.events call now).getLast? = some (progress.last call) := by
  unfold events
  split <;> rfl

theorem place_of_silent {history : List GatewayEvent} {place : Nat} {event silent : GatewayEvent}
    (hsilent : silent.call? = none) (hplace : (history ++ [silent])[place]? = some event)
    {call : CallId} (hcall : event.call? = some call) : history[place]? = some event := by
  rcases place_cases hplace with ⟨_, hbefore⟩ | ⟨_, hadded⟩
  · exact hbefore
  · rw [List.mem_singleton.mp hadded, hsilent] at hcall
    contradiction

namespace Turn

variable {g : Gateway} {call : CallId} {now : Moment} {stage? : Option Call}
  {seen : List GatewayEvent} {after : Gateway × Progress}

theorem call?_seen (hturn : Turn g call now stage? seen after) {event : GatewayEvent}
    (hevent : event ∈ seen) : event.call? = some call := by
  cases hturn with
  | committed _ earlier stamp token _ hnow hredeems hcommits =>
      rcases List.mem_append.mp hevent with hearlier | hredeemed
      · cases hredeems with
        | outright => simp at hearlier
        | following outcome sinkEvent accepted =>
            rw [List.mem_singleton.mp hearlier]
            rfl
      · rw [List.mem_singleton.mp hredeemed]
        rfl
  | interrupted | left => simp at hevent
  | _ => rw [List.mem_singleton.mp hevent]; rfl

theorem call?_added (hturn : Turn g call now stage? seen after) {event : GatewayEvent}
    (hevent : event ∈ seen ++ after.2.events call now) : event.call? = some call := by
  rcases List.mem_append.mp hevent with hseen | hevents
  · exact hturn.call?_seen hseen
  · exact Traffic.call?_events hevents

/-- A turn passes milestones in their order, none that lay behind the call before it and none that
lies ahead of it afterwards. -/
theorem milestones (hturn : Turn g call now stage? seen after) :
    ((seen ++ after.2.events call now).filterMap GatewayEvent.milestone?).Pairwise (· < ·) ∧
    (∀ n ∈ (seen ++ after.2.events call now).filterMap GatewayEvent.milestone?,
      (stage?.map Call.ahead).getD 0 ≤ n) ∧
    ∀ stage, after.2.call? = some stage → (stage?.map Call.ahead).getD 0 ≤ stage.ahead ∧
      ∀ n ∈ (seen ++ after.2.events call now).filterMap GatewayEvent.milestone?,
        n < stage.ahead := by
  cases hturn with
  | talked stage reply progress hexpects htalks =>
      cases htalks <;>
        simp [List.filterMap_cons, Progress.events, Progress.call?, GatewayEvent.milestone?,
          Call.awaits, Call.ahead]
  | committed _ earlier stamp token _ hnow hredeems hcommits =>
      -- The redemption may come in one turn with the reply about the acceptance.
      cases hredeems <;> cases hcommits <;>
        simp [List.filterMap_cons, Progress.events, Progress.call?, GatewayEvent.milestone?,
          Call.awaits, Call.ahead]
  | left stage hheld =>
      cases stage <;>
        simp_all [Progress.events, Progress.call?, GatewayEvent.milestone?, Call.ahead,
          Call.heldKey?]
  | _ =>
      simp [List.filterMap_cons, Progress.events, Progress.call?, GatewayEvent.milestone?,
        Call.awaits, Call.ahead]

/-- Where a token was redeemed, a commit went on. -/
theorem of_redeemed (hturn : Turn g call now stage? seen after) {other : CallId} {token : String}
    {moment : Moment} {worth : Redemption}
    (hmem : .redeemed other token moment worth ∈ seen ++ after.2.events call now) :
    ∃ earlier stamp, seen = earlier ++ [.redeemed call token now (g.tokens.worth token now)] ∧
      stamp.now = now ∧ Redeems call token stage? earlier ∧ g.Commits stamp token after ∧
      call = other ∧ now = moment ∧ worth = g.tokens.worth token now := by
  cases hturn with
  | talked stage reply progress hexpects htalks =>
      cases htalks <;> simp [Progress.events, Call.awaits] at hmem
  | committed _ earlier stamp spent _ hnow hredeems hcommits =>
      have hspent : other = call ∧ token = spent ∧ moment = now ∧
          worth = g.tokens.worth spent now := by
        cases hredeems <;> cases hcommits <;> simpa [Progress.events, Call.awaits] using hmem
      obtain ⟨rfl, rfl, rfl, rfl⟩ := hspent
      exact ⟨earlier, stamp, rfl, hnow, hredeems, hcommits, rfl, rfl, rfl⟩
  | _ => simp [Progress.events, Call.awaits] at hmem

/-- Where a handler was called, a commit of a valid token had reserved the key. -/
theorem of_asked_handler (hturn : Turn g call now stage? seen after) {other : CallId}
    {handler : HandlerId} {envelope : Envelope}
    (hmem : .asked other (.handler handler envelope) ∈ seen ++ after.2.events call now) :
    ∃ earlier token key, seen = earlier ++ [.redeemed call token now (.valid envelope)] ∧
      envelope.resolvedKey = some key ∧ (g.ledger.begin key now).1 = .reserved ∧
      g.handlers.get? envelope.command = some handler ∧
      after = ((g.spend token).reserve key now, .waiting (.applying envelope key handler)) ∧
      Redeems call token stage? earlier ∧ g.tokens.worth token now = .valid envelope ∧
      call = other := by
  cases hturn with
  | talked stage reply progress hexpects htalks =>
      cases htalks <;> simp [Progress.events, Call.awaits] at hmem
  | committed _ earlier stamp token _ hnow hredeems hcommits =>
      subst hnow
      cases hcommits with
      | reserved write key bound hworth hkey hreserved hhandler =>
          have hsame : other = call ∧ handler = bound ∧ envelope = write := by
            cases hredeems <;> simpa [Progress.events, Call.awaits] using hmem
          obtain ⟨rfl, rfl, rfl⟩ := hsame
          exact ⟨earlier, token, key, by rw [hworth], hkey, hreserved, hhandler, rfl, hredeems,
            hworth, rfl⟩
      | _ => cases hredeems <;> simp [Progress.events, Call.awaits] at hmem
  | _ => simp [Progress.events, Call.awaits] at hmem

/-- Where a handler answered, the call held the key and settles. -/
theorem of_applied (hturn : Turn g call now stage? seen after) {other : CallId}
    {handler : HandlerId} {envelope : Envelope} {reply : Reply}
    (hmem : .replied other (.handler handler envelope) reply ∈ seen ++ after.2.events call now) :
    ∃ key answer event, reply = .applied answer ∧
      stage? = some (.applying envelope key handler) ∧
      seen = [.replied call (.handler handler envelope) (.applied answer)] ∧
      after = (g.finished envelope key (answer.mapError Fault.text) now,
        .waiting (.closing (Gateway.settledOutcome envelope key (answer.mapError Fault.text))
          event)) ∧
      call = other := by
  cases hturn with
  | talked stage reply progress hexpects htalks =>
      cases htalks <;> simp [Progress.events, Call.awaits] at hmem
  | committed _ earlier stamp token _ hnow hredeems hcommits =>
      cases hredeems <;> cases hcommits <;> simp [Progress.events, Call.awaits] at hmem
  | settled write key bound answer event =>
      have hsame : other = call ∧ (handler = bound ∧ envelope = write) ∧
          reply = .applied answer := by
        simpa [Progress.events, Call.awaits] using hmem
      obtain ⟨rfl, ⟨rfl, rfl⟩, rfl⟩ := hsame
      exact ⟨key, answer, event, rfl, rfl, rfl, rfl, rfl⟩
  | _ => simp [Progress.events, Call.awaits] at hmem

theorem keyed (hturn : Turn g call now stage? seen after)
    (hkeyed : ∀ stage, stage? = some stage → stage.Keyed) :
    ∀ stage, after.2.call? = some stage → stage.Keyed := by
  cases hturn with
  | received envelope request event hrequest henvelope =>
      simpa [Progress.call?, Call.Keyed] using hrequest
  | talked stage reply progress hexpects htalks =>
      have hstage := hkeyed stage rfl
      cases htalks <;> simp_all [Progress.call?, Call.Keyed]
  | judged request decision event =>
      simpa [Progress.call?, Call.Keyed] using hkeyed _ rfl
  | committed _ earlier stamp token _ hnow hredeems hcommits =>
      cases hcommits <;> simp_all [Progress.call?, Call.Keyed]
  | _ => simp [Progress.call?, Call.Keyed]

end Turn

namespace Traffic

/-- What has been seen of a call. -/
def trail (s : Traffic) (call : CallId) : List GatewayEvent :=
  s.history.filter fun event => event.call? = some call

/-- What was seen of a call last. -/
def lastSeen (s : Traffic) (call : CallId) : Option GatewayEvent :=
  (s.trail call).getLast?

theorem trail_of_isNew {s : Traffic} {call : CallId} (hnew : s.isNew call) : s.trail call = [] := by
  rw [trail, List.filter_eq_nil_iff]
  intro event hevent
  simpa using call?_ne_of_isNew hnew hevent

section Advance

variable {s : Traffic} {call : CallId} {now : Moment} {stage? : Option Call}
  {seen : List GatewayEvent} {after : Gateway × Progress}

theorem trail_advance (hturn : Turn s.gateway call now stage? seen after) :
    (s.advance call now seen after).trail call =
      s.trail call ++ (seen ++ after.2.events call now) := by
  rw [trail, advance, List.filter_append, ← trail]
  congr 1
  rw [List.filter_eq_self]
  intro event hevent
  simpa using hturn.call?_added hevent

theorem trail_advance_ne (hturn : Turn s.gateway call now stage? seen after) {other : CallId}
    (hother : other ≠ call) : (s.advance call now seen after).trail other = s.trail other := by
  rw [trail, advance, List.filter_append, ← trail, List.append_right_eq_self,
    List.filter_eq_nil_iff]
  intro event hevent
  simp [hturn.call?_added hevent, hother.symm]

theorem lastSeen_advance (hturn : Turn s.gateway call now stage? seen after) :
    (s.advance call now seen after).lastSeen call = some (after.2.last call) := by
  simp [lastSeen, trail_advance hturn, List.getLast?_append, Progress.getLast?_events]

end Advance

theorem trail_append_of_none (s : Traffic) (gateway : Gateway) {event : GatewayEvent}
    (hevent : event.call? = none) (call : CallId) :
    trail { s with gateway := gateway, history := s.history ++ [event] } call = s.trail call := by
  simp [trail, hevent]

/-- The calls in flight are those of which a question was seen last, and it tells whom they wait
for. -/
def Told (s : Traffic) : Prop :=
  ∀ call whom, s.lastSeen call = some (.asked call whom) ↔
    (s.calls.get? call).map Call.awaits = some whom

theorem told_step {s next : Traffic} (hstep : Step s next) (htold : s.Told) : next.Told := by
  cases hstep with
  | still => exact htold
  | registered command handler =>
      intro call whom
      rw [lastSeen, trail_append_of_none _ _ rfl]
      exact htold call whom
  | purged now =>
      intro call whom
      rw [lastSeen, trail_append_of_none _ _ rfl]
      exact htold call whom
  | turned call now stage? seen after hstage hnew hturn =>
      intro other whom
      by_cases hother : other = call
      · subst other
        rw [lastSeen_advance hturn, advance, get?_place, if_pos rfl]
        cases after.2 <;> simp [Progress.last, Progress.call?]
      · rw [lastSeen, trail_advance_ne hturn hother, advance, get?_place, if_neg hother]
        exact htold other whom

theorem told_run (opensApprovals : Bool) (ttl : Span) (actions : List Action) :
    ((start opensApprovals ttl).run actions).Told :=
  run_keeps told_step (by simp [Told, lastSeen, trail, start]) actions

/-- Every call in flight carries what belongs together. -/
def Keyed (s : Traffic) : Prop :=
  ∀ call stage, s.calls.get? call = some stage → stage.Keyed

theorem keyed_step {s next : Traffic} (hstep : Step s next) (hkeyed : s.Keyed) : next.Keyed := by
  cases hstep with
  | still | registered | purged => exact hkeyed
  | turned call now stage? seen after hstage hnew hturn =>
      intro other stage hplaced
      rw [advance, get?_place] at hplaced
      split at hplaced
      next =>
        refine hturn.keyed ?_ stage hplaced
        intro before hbefore
        exact hkeyed call before (hstage.trans hbefore)
      next => exact hkeyed other stage hplaced

theorem keyed_run (opensApprovals : Bool) (ttl : Span) (actions : List Action) :
    ((start opensApprovals ttl).run actions).Keyed :=
  run_keeps keyed_step (by simp [Keyed, start]) actions

/-- Every call passes its milestones in their order, and no call in flight has passed one that lies
ahead of it. -/
def InOrder (s : Traffic) : Prop :=
  ∀ call, ((s.trail call).filterMap GatewayEvent.milestone?).Pairwise (· < ·) ∧
    ∀ stage, s.calls.get? call = some stage →
      ∀ n ∈ (s.trail call).filterMap GatewayEvent.milestone?, n < stage.ahead

theorem inOrder_step {s next : Traffic} (hstep : Step s next) (horder : s.InOrder) :
    next.InOrder := by
  cases hstep with
  | still => exact horder
  | registered command handler =>
      intro call
      rw [trail_append_of_none _ _ rfl]
      exact horder call
  | purged now =>
      intro call
      rw [trail_append_of_none _ _ rfl]
      exact horder call
  | turned call now stage? seen after hstage hnew hturn =>
      intro other
      by_cases hother : other = call
      · subst other
        obtain ⟨hpassed, hlive⟩ := horder call
        obtain ⟨hpairwise, hfrom, hupto⟩ := hturn.milestones
        -- What the call has passed so far lies behind the point it goes on from.
        have hbehind : ∀ n ∈ (s.trail call).filterMap GatewayEvent.milestone?,
            n < (stage?.map Call.ahead).getD 0 := by
          cases stage? with
          | none => simp [trail_of_isNew (hnew rfl)]
          | some stage => exact hlive stage hstage
        rw [trail_advance hturn, List.filterMap_append, List.pairwise_append]
        refine ⟨⟨hpassed, hpairwise, ?_⟩, ?_⟩
        · intro m hm n hn
          exact lt_of_lt_of_le (hbehind m hm) (hfrom n hn)
        · intro stage hplaced n hn
          rw [advance, get?_place, if_pos rfl] at hplaced
          obtain ⟨hahead, hadded⟩ := hupto stage hplaced
          rcases List.mem_append.mp hn with hn | hn
          · exact lt_of_lt_of_le (hbehind n hn) hahead
          · exact hadded n hn
      · rw [trail_advance_ne hturn hother, advance, get?_place, if_neg hother]
        exact horder other

theorem inOrder_run (opensApprovals : Bool) (ttl : Span) (actions : List Action) :
    ((start opensApprovals ttl).run actions).InOrder :=
  run_keeps inOrder_step (by simp [InOrder, trail, start]) actions

section Milestones

variable {s : Traffic} {call : CallId} {first second : GatewayEvent} {i j m n : Nat}

/-- What a call passes later is a later milestone. -/
theorem InOrder.milestone_lt (horder : s.InOrder) (hfirst : s.history[i]? = some first)
    (hsecond : s.history[j]? = some second) (hcall : first.call? = some call)
    (hcall' : second.call? = some call) (hm : first.milestone? = some m)
    (hn : second.milestone? = some n) (hij : i < j) : m < n := by
  obtain ⟨hi, rfl⟩ := List.getElem?_eq_some_iff.mp hfirst
  obtain ⟨hj, rfl⟩ := List.getElem?_eq_some_iff.mp hsecond
  have hpairwise := (horder call).1
  rw [List.pairwise_filterMap, trail, List.pairwise_filter, List.pairwise_iff_getElem] at hpairwise
  exact hpairwise i j hi hj hij (by simp [hcall]) (by simp [hcall']) m hm n hn

/-- A milestone is passed once. -/
theorem InOrder.place_unique (horder : s.InOrder) (hfirst : s.history[i]? = some first)
    (hsecond : s.history[j]? = some second) (hcall : first.call? = some call)
    (hcall' : second.call? = some call) (hm : first.milestone? = some n)
    (hn : second.milestone? = some n) : i = j := by
  rcases Nat.lt_trichotomy i j with hlt | heq | hlt
  · have hless := horder.milestone_lt hfirst hsecond hcall hcall' hm hn hlt
    exact absurd hless (Nat.lt_irrefl n)
  · exact heq
  · have hless := horder.milestone_lt hsecond hfirst hcall' hcall hn hm hlt
    exact absurd hless (Nat.lt_irrefl n)

theorem InOrder.event_unique (horder : s.InOrder) (hfirst : first ∈ s.history)
    (hsecond : second ∈ s.history) (hcall : first.call? = some call)
    (hcall' : second.call? = some call) (hm : first.milestone? = some n)
    (hn : second.milestone? = some n) : first = second := by
  obtain ⟨i, hi⟩ := List.mem_iff_getElem?.mp hfirst
  obtain ⟨j, hj⟩ := List.mem_iff_getElem?.mp hsecond
  obtain rfl := horder.place_unique hi hj hcall hcall' hm hn
  exact Option.some.inj (hi.symm.trans hj)

/-- What was seen before a milestone is all that was seen up to its place. -/
theorem InOrder.take_place (horder : s.InOrder) {before rest : List GatewayEvent}
    (hhistory : s.history = before ++ first :: rest) (hsecond : s.history[j]? = some second)
    (hcall : first.call? = some call) (hcall' : second.call? = some call)
    (hm : first.milestone? = some n) (hn : second.milestone? = some n) :
    j = before.length ∧ s.history.take j = before := by
  have hfirst : s.history[before.length]? = some first := by simp [hhistory]
  obtain rfl := horder.place_unique hsecond hfirst hcall' hcall hn hm
  exact ⟨rfl, by rw [hhistory, List.take_left]⟩

end Milestones

end Traffic

end Gatehouse
