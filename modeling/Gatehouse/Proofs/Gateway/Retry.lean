import Gatehouse.Proofs.Gateway.Lock

/-! # One attempt after the other

Whoever replies was asked, and a handler that was called is at work until it
replies or its call is dropped. As it holds the key of the write meanwhile,
handlers are called for a key one after the other.
-/

namespace Gatehouse

/-- A handler that a call turned to has replied, or the call was dropped. -/
def HandlerLeft (history : List GatewayEvent) (call : CallId) (handler : HandlerId)
    (envelope : Envelope) : Prop :=
  (∃ reply, .replied call (.handler handler envelope) reply ∈ history) ∨ .dropped call ∈ history

theorem HandlerLeft.mono {history later : List GatewayEvent} {call : CallId} {handler : HandlerId}
    {envelope : Envelope} (hleft : HandlerLeft history call handler envelope)
    (hsubset : history ⊆ later) : HandlerLeft later call handler envelope :=
  hleft.imp (fun ⟨reply, hreplied⟩ => ⟨reply, hsubset hreplied⟩) fun hdropped => hsubset hdropped

namespace Turn

variable {g : Gateway} {call : CallId} {now : Moment} {stage? : Option Call}
  {seen : List GatewayEvent} {after : Gateway × Progress}

/-- Where a reply was seen, the call waited for whom it came from. -/
theorem of_replied (hturn : Turn g call now stage? seen after) {other : CallId} {whom : Awaited}
    {reply : Reply} (hmem : .replied other whom reply ∈ seen ++ after.2.events call now) :
    call = other ∧ stage?.map Call.awaits = some whom := by
  cases hturn with
  | talked stage given progress hexpects htalks =>
      cases htalks <;> simp [Progress.events] at hmem <;> simp [hmem]
  | committed _ earlier stamp token _ hnow hredeems hcommits =>
      cases hredeems <;> cases hcommits <;> simp [Progress.events, Call.awaits] at hmem <;>
        simp [hmem, Call.awaits]
  | rejected | received | interrupted | left => simp [Progress.events] at hmem
  | _ =>
      simp [Progress.events] at hmem
      simp [hmem, Call.awaits]

/-- A handler at work stays at it, or it has replied now or the call is dropped. -/
theorem of_applying {envelope : Envelope} {key : WriteKey} {handler : HandlerId}
    (hturn : Turn g call now (some (.applying envelope key handler)) seen after) :
    HandlerLeft (seen ++ after.2.events call now) call handler envelope := by
  cases hturn with
  | talked stage reply progress hexpects htalks => cases htalks
  | committed _ earlier stamp token _ hnow hredeems hcommits => cases hredeems
  | settled _ _ _ answer event => exact .inl ⟨.applied answer, by simp⟩
  | interrupted => exact .inr (by simp [Progress.events])
  | left stage hheld => contradiction

end Turn

namespace Traffic

/-- Replies come from who was asked, and handlers are called for a key one after the other. -/
structure Prompted (s : Traffic) : Prop where
  asked : ∀ {call whom reply}, .replied call whom reply ∈ s.history → .asked call whom ∈ s.history
  /-- A handler that was called is at work or has left. -/
  working : ∀ {call handler envelope}, .asked call (.handler handler envelope) ∈ s.history →
    (∃ key, s.calls.get? call = some (.applying envelope key handler)) ∨
      HandlerLeft s.history call handler envelope
  /-- The handler that was called for a key before has left. -/
  again : ∀ {first second call other handler bound envelope write},
    s.history[first]? = some (.asked call (.handler handler envelope)) →
    s.history[second]? = some (.asked other (.handler bound write)) →
    first < second → envelope.resolvedKey = write.resolvedKey →
    HandlerLeft (s.history.take second) call handler envelope

theorem prompted_start (opens : Bool) (ttl : Span) : (start opens ttl).Prompted := by
  constructor <;> simp [start]

variable {s : Traffic}

theorem Prompted.silent (hprompted : s.Prompted) {gateway : Gateway} {event : GatewayEvent}
    (hsilent : event.call? = none) :
    Prompted { s with gateway := gateway, history := s.history ++ [event] } where
  asked := by
    intro call whom reply hmem
    rcases List.mem_append.mp hmem with hbefore | hadded
    · exact List.mem_append_left _ (hprompted.asked hbefore)
    · rw [← List.mem_singleton.mp hadded] at hsilent
      contradiction
  working := by
    intro call handler envelope hmem
    rcases List.mem_append.mp hmem with hbefore | hadded
    · exact (hprompted.working hbefore).imp_right fun hleft =>
        hleft.mono (List.subset_append_left _ _)
    · rw [← List.mem_singleton.mp hadded] at hsilent
      contradiction
  again := by
    intro first second call other handler bound envelope write hfirst hsecond hlt hkey
    have hbefore := place_of_silent hsilent hsecond rfl
    rw [take_append hbefore]
    exact hprompted.again (place_of_silent hsilent hfirst rfl) hbefore hlt hkey

theorem Prompted.turned (hprompted : s.Prompted) (hsound : s.Sound) {call : CallId} {now : Moment}
    {stage? : Option Call} {seen : List GatewayEvent} {after : Gateway × Progress}
    (horder : (s.advance call now seen after).InOrder) (hstage : s.calls.get? call = stage?)
    (hturn : Turn s.gateway call now stage? seen after) :
    (s.advance call now seen after).Prompted where
  asked := by
    intro other whom reply hmem
    refine List.mem_append_left _ ?_
    rcases List.mem_append.mp hmem with hbefore | hadded
    · exact hprompted.asked hbefore
    · obtain ⟨rfl, hawaits⟩ := hturn.of_replied hadded
      rw [← hstage] at hawaits
      have hlast := (hsound.told call whom).mpr hawaits
      exact (List.mem_filter.mp (List.mem_of_getLast? hlast)).1
  working := by
    intro other handler envelope hmem
    rw [advance, get?_place]
    rcases List.mem_append.mp hmem with hbefore | hadded
    · rcases hprompted.working hbefore with ⟨key, hworking⟩ | hleft
      · by_cases hother : other = call
        · subst hother
          obtain rfl := hstage.symm.trans hworking
          exact .inr (hturn.of_applying.mono (List.subset_append_right _ _))
        · rw [if_neg hother]
          exact .inl ⟨key, hworking⟩
      · exact .inr (hleft.mono (List.subset_append_left _ _))
    · obtain ⟨earlier, token, key, _, _, _, _, hafter, _, _, rfl⟩ := hturn.of_asked_handler hadded
      rw [if_pos rfl, hafter]
      exact .inl ⟨key, rfl⟩
  again := by
    intro first second caller other handler bound envelope write hfirst hsecond hlt hsame
    rcases place_cases hsecond with ⟨hbound, hbefore⟩ | ⟨hlater, hadded⟩
    · rw [advance, take_append hbefore]
      refine hprompted.again ?_ hbefore hlt hsame
      rwa [advance, List.getElem?_append_left (Nat.lt_trans hlt hbound)] at hfirst
    · obtain ⟨_, _, key, _, hkey, hreserved, _, _, _, _, rfl⟩ := hturn.of_asked_handler hadded
      have hearlier : s.history ⊆ (s.advance call now seen after).history.take second := by
        rw [advance, List.take_append, List.take_of_length_le hlater]
        exact List.subset_append_left _ _
      rcases place_cases hfirst with ⟨_, hbefore⟩ | ⟨_, hagain⟩
      · rcases hprompted.working (List.mem_of_getElem? hbefore) with ⟨held, hworking⟩ | hleft
        · -- A handler at work holds the key, and then it would not have been free.
          have hheld : envelope.resolvedKey = some held := hsound.keyed caller _ hworking
          obtain rfl := Option.some.inj (hheld.symm.trans (hsame.trans hkey))
          have hmarks := hsound.locked.marks_iff.mpr ⟨caller, envelope, handler, hworking⟩
          exact absurd hmarks (KeyLedger.begin_reserved_iff.mp hreserved).1
        · exact hleft.mono hearlier
      · obtain ⟨_, _, _, _, _, _, _, _, _, _, rfl⟩ := hturn.of_asked_handler hagain
        have hplace := horder.place_unique hfirst hsecond rfl rfl rfl rfl
        exact absurd hplace (Nat.ne_of_lt hlt)

/-- In every run handlers reply when they were called, and are called for a key one after the
other. -/
theorem prompted_run (opens : Bool) (ttl : Span) (actions : List Action) :
    ((start opens ttl).run actions).Prompted := by
  refine run_keeps_sound (fun {s next} hstep hsound hnext hprompted => ?_)
    (prompted_start opens ttl) actions
  cases hstep with
  | still => exact hprompted
  | registered command handler => exact hprompted.silent (by rfl)
  | purged now => exact hprompted.silent (by rfl)
  | turned call now stage? seen after hstage hnew hturn =>
      exact hprompted.turned hsound hnext.inOrder hstage hturn

end Traffic

end Gatehouse
